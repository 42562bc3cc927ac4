import Bindery.Proofs.Guarded.Basic
import Bindery.Proofs.Pointing

/-!
# Guarded reports

Who owns what is counted in one place for each function, and the document follows every id in a
slot or type.  In a closed forest all of them are there.
-/

namespace Bindery.Guarded

open View

variable {settings : Settings} {draft : Draft} {c : ClassId} {id : FunctionId} {α β : Type}

/-! ## Ownership -/

def owners (draft : Draft) : Guarded (List (FunctionId × Slot)) := do
  let classes ← allClasses draft
  let slots ← classes.mapM fun c => do
    let content ← classAt draft c
    return content.owners c
  return draft.forest.free.map (·, .free)
    ++ draft.forest.detached.map (fun (id, c) => (id, .detached c)) ++ slots.flatten

/-- Counts one more slot for a function. -/
def tally (counts : List Nat) (id : FunctionId) : Guarded (List Nat) := do
  within (id < counts.length)
  return counts.modify id (· + 1)

def ownershipViolations (draft : Draft) : Guarded (List FunctionId) := do
  let owners ← owners draft
  let counts ← (owners.map (·.1)).foldlM tally (List.replicate draft.forest.functionCount 0)
  return (List.range counts.length).filter fun id => counts[id]?.any (· != 1)

theorem owners_eq (draft : Draft) : owners draft = .ok draft.forest.owners := by
  have slots : (draft.forest.allClasses.mapM fun c => do
      let content ← classAt draft c
      return content.owners c) =
      .ok (draft.forest.allClasses.map fun c => (draft.forest.classAt c).owners c) := by
    refine mapM_eq fun c member => ?_
    rw [classAt_eq (Forest.lt_size_of_mem_allClasses member)]
    rfl
  rw [owners, allClasses_eq, ok_bind, slots, ok_bind, Forest.owners, List.flatMap_def]
  rfl

theorem foldlM_tally_eq {ids : List FunctionId} {counts : List Nat}
    (bounds : ∀ id ∈ ids, id < counts.length) :
    ids.foldlM tally counts = .ok (counts.mapIdx fun id count => count + ids.count id) := by
  induction ids generalizing counts with
  | nil =>
      have same : (counts.mapIdx fun _ count => count + 0) = counts := by
        apply List.ext_getElem <;> simp
      simp only [List.foldlM_nil, List.count_nil, same]
      rfl
  | cons first rest ih =>
      have tallied : tally counts first = .ok (counts.modify first (· + 1)) := by
        rw [tally, within_of (bounds first List.mem_cons_self)]
        rfl
      rw [List.foldlM_cons, tallied, ok_bind, ih]
      · congr 1
        apply List.ext_getElem
        · simp
        · intro id inModified inCounts
          simp only [List.getElem_mapIdx, List.getElem_modify, List.count_cons]
          by_cases same : first = id <;> simp [same, Nat.add_comm, Nat.add_assoc]
      · intro id member
        rw [List.length_modify]
        exact bounds id (List.mem_cons_of_mem _ member)

theorem ownershipViolations_eq (sound : draft.forest.Sound) :
    ownershipViolations draft = .ok draft.forest.ownershipViolations := by
  have bounds : ∀ id ∈ draft.forest.owners.map (·.1),
      id < (List.replicate draft.forest.functionCount 0).length := by
    intro id member
    rw [List.length_replicate]
    exact sound.present id (by rwa [← Forest.coe_owners, Multiset.mem_coe])
  rw [ownershipViolations, owners_eq, ok_bind, foldlM_tally_eq bounds, ok_bind,
    Forest.ownershipViolations, List.length_mapIdx, List.length_replicate]
  refine congrArg Except.ok (List.filter_congr fun id member => ?_)
  simp [List.mem_range.1 member]

/-! ## Views -/

theorem optionMapM_eq {item : Option α} {visit : α → Guarded β} {plain : α → β}
    (each : ∀ value ∈ item, visit value = .ok (plain value)) :
    item.mapM visit = .ok (item.map plain) := by
  cases item with
  | none => rfl
  | some value => exact congrArg (fun run : Guarded β => some <$> run) (each value rfl)

/-- A type, with what is displayed for the function that it names. -/
def viewType (display : FunctionId → Guarded α) (type : ValueType) : Guarded (TypeView α) := do
  let sizeGetter ← type.sizeGetter?.mapM display
  let sizeSetter ← type.sizeSetter?.mapM display
  return {
    name := type.name
    mutable := type.mutable
    isArray := type.isArray
    actsAsString := type.actsAsString
    containsNumberHandle := type.containsNumberHandle
    ctype := type.ctype
    sizeGetter
    sizeSetter }

def viewParameter (display : FunctionId → Guarded α) (parameter : Parameter) :
    Guarded (ParameterView α) := do
  let type ← viewType display parameter.type
  return { name := parameter.name, type }

def viewArgument (display : FunctionId → Guarded α) : Argument → Guarded (ArgumentView α)
  | .plain parameter => do
    let parameter ← viewParameter display parameter
    return .plain parameter
  | .buffer data length => do
    let data ← viewParameter display data
    let length ← viewParameter display length
    return .buffer data length

def viewFunction (display : FunctionId → Guarded α) (function : Function) :
    Guarded (FunctionView α) := do
  let type ← viewType display function.ret.type
  let replaced ← function.ret.replaced.mapM (viewType display)
  let params ← function.params.mapM (viewArgument display)
  return {
    name := function.name
    cname := function.cname
    ret := { type, replaced, promotedFrom := function.ret.promotedFrom }
    params
    throws := function.throws
    isStatic := function.isStatic }

section Views

variable {display : FunctionId → Guarded α} {plain : FunctionId → α}

theorem viewType_eq {type : ValueType} (each : ∀ id ∈ type.sizers, display id = .ok (plain id)) :
    viewType display type = .ok (type.view fun id => some (plain id)) := by
  have getter : type.sizeGetter?.mapM display = .ok (type.sizeGetter?.map plain) := by
    refine optionMapM_eq fun id isGetter => each id ?_
    rw [ValueType.sizeGetter?] at isGetter
    split at isGetter
    · rename_i found
      simp [ValueType.sizers, found, Option.some.inj isGetter, SizeAccessor.function]
    · cases isGetter
  have setter : type.sizeSetter?.mapM display = .ok (type.sizeSetter?.map plain) := by
    refine optionMapM_eq fun id isSetter => each id ?_
    rw [ValueType.sizeSetter?] at isSetter
    split at isSetter
    · rename_i found
      simp [ValueType.sizers, found, Option.some.inj isSetter, SizeAccessor.function]
    · cases isSetter
  rw [viewType, getter, ok_bind, setter, ok_bind, ValueType.view, Option.map_eq_bind,
    Option.map_eq_bind]
  rfl

theorem viewParameter_eq {parameter : Parameter}
    (each : ∀ id ∈ parameter.type.sizers, display id = .ok (plain id)) :
    viewParameter display parameter =
      .ok (Function.viewParameter (fun id => some (plain id)) parameter) := by
  rw [viewParameter, viewType_eq each]
  rfl

theorem viewArgument_eq {argument : Argument}
    (each : ∀ id ∈ argument.sizers, display id = .ok (plain id)) :
    viewArgument display argument =
      .ok (Function.viewArgument (fun id => some (plain id)) argument) := by
  cases argument with
  | plain parameter =>
      rw [viewArgument, viewParameter_eq fun id named => each id (by
        simpa [Argument.sizers, Argument.flatten] using named)]
      rfl
  | buffer data length =>
      rw [viewArgument, viewParameter_eq fun id named => each id (by
        simp [Argument.sizers, Argument.flatten, named]), ok_bind,
        viewParameter_eq fun id named => each id (by
          simp [Argument.sizers, Argument.flatten, named])]
      rfl

theorem viewFunction_eq {function : Function}
    (each : ∀ id ∈ function.sizers, display id = .ok (plain id)) :
    viewFunction display function = .ok (function.view fun id => some (plain id)) := by
  have type : viewType display function.ret.type = _ := viewType_eq fun id named =>
    each id (by simp [Function.sizers, named])
  have replaced : function.ret.replaced.mapM (viewType display) = _ :=
    optionMapM_eq fun type isReplaced => viewType_eq fun id named => each id (by
      simp [Function.sizers, Option.mem_def.1 isReplaced, named])
  have params : function.params.mapM (viewArgument display) = _ :=
    mapM_eq fun argument member => viewArgument_eq fun id named => each id (by
      simp only [Function.sizers, List.mem_append, List.mem_flatMap]
      exact .inr ⟨argument, member, named⟩)
  rw [viewFunction, type, ok_bind, replaced, ok_bind, params]
  rfl

end Views

/-! ## The document -/

/-- A function without the accessors of its types. -/
def bareView (draft : Draft) (id : FunctionId) : Guarded (FunctionView Empty) := do
  let function ← functionAt draft id
  return function.view fun _ => none

def accessorView (draft : Draft) (id : FunctionId) : Guarded AccessorView := do
  let owners ← owners draft
  let function ← bareView draft id
  match owners.lookup id with
  | some (.detached c) =>
    let name ← qualifiedName draft c
    return { className := some name, property := none, isDetached := true, function }
  | some (.getter c property) | some (.setter c property) =>
    let name ← qualifiedName draft c
    return { className := some name, property := some property, isDetached := false, function }
  | some (.method c) | some (.alloc c) | some (.dealloc c) | some (.defaultInit c) =>
    let name ← qualifiedName draft c
    return { className := some name, property := none, isDetached := false, function }
  | some .free | none =>
    return { className := none, property := none, isDetached := false, function }

def functionView (draft : Draft) (id : FunctionId) : Guarded (FunctionView AccessorView) := do
  let function ← functionAt draft id
  viewFunction (accessorView draft) function

def handleView (draft : Draft) : Option Handle → Guarded HandleView
  | some (.native alloc dealloc) => do
    let alloc ← alloc.mapM (functionView draft)
    let dealloc ← dealloc.mapM (functionView draft)
    return .native alloc dealloc
  | some (.number type) => do
    let type ← viewType (accessorView draft) type
    return .number type
  | none => return .none

def propertyView (draft : Draft) (property : Property) : Guarded PropertyView := do
  let getter ← functionView draft property.getter
  let setter ← property.setter.mapM (functionView draft)
  return { name := property.name, isStatic := property.isStatic, getter, setter }

/-- A class with the given views of the classes in it. -/
def classViewWith (draft : Draft) (c : ClassId) (inner : List ClassView) :
    Guarded ClassView := do
  let content ← classAt draft c
  let name ← className draft c
  let handle ← handleView draft content.handle
  let defaultInit ← content.defaultInit.mapM (functionView draft)
  let properties ← content.properties.mapM (propertyView draft)
  let functions ← content.methods.mapM (functionView draft)
  return {
    name
    isCallback := content.isCallback
    handle
    defaultInit
    properties
    functions
    inner }

def classView (draft : Draft) : Nat → ClassId → Guarded ClassView
  | 0, c => classViewWith draft c []
  | depth + 1, c => do
    let inner ← (draft.forest.hierarchy.inner c).mapM (classView draft depth)
    classViewWith draft c inner

def document (settings : Settings) (draft : Draft) : Guarded Document := do
  let classes ← draft.forest.hierarchy.roots.mapM (classView draft draft.forest.hierarchy.size)
  return {
    irVersion := settings.irVersion
    libraryVersion := settings.libraryVersion
    enums := draft.forest.enums
    exceptions := draft.forest.exceptions
    classes }

theorem bareView_eq (present : id < draft.forest.functionCount) :
    bareView draft id = .ok (draft.forest.bareView id) := by
  rw [bareView, functionAt_eq present]
  rfl

theorem accessorView_eq (sound : draft.forest.Sound) (present : id < draft.forest.functionCount) :
    accessorView draft id = .ok (draft.forest.accessorView id) := by
  have home (slot : Slot) (owned : draft.forest.ownerOf? id = some slot) (c : ClassId)
      (isHome : slot.home? = some c) : c < draft.forest.hierarchy.size := by
    obtain ⟨before, after, split, -⟩ := List.lookup_eq_some_iff.1 owned
    exact sound.home_lt (split ▸ List.mem_append_right _ List.mem_cons_self) isHome
  rw [accessorView, Forest.accessorView, owners_eq, ok_bind, bareView_eq present, ok_bind,
    ← Forest.ownerOf?]
  cases owner : draft.forest.ownerOf? id with
  | none => rfl
  | some slot =>
      cases slot with
      | free => rfl
      | _ =>
          dsimp only
          rw [qualifiedName_eq (home _ owner _ rfl)]
          rfl

section Closed

variable (closed : draft.forest.Closed)

include closed

theorem functionView_eq (present : id < draft.forest.functionCount) :
    functionView draft id = .ok (draft.forest.functionView id) := by
  rw [functionView, functionAt_eq present, ok_bind]
  exact viewFunction_eq fun accessor named =>
    accessorView_eq closed.sound (closed.pointed.function id accessor named)

theorem functionView_eq_of_owned {slot : Slot}
    (owned : (id, slot) ∈ (draft.forest.classAt c).owners c) :
    functionView draft id = .ok (draft.forest.functionView id) :=
  functionView_eq closed (closed.sound.lt_of_mem_owners (Forest.mem_owners_of_class owned))

theorem handleView_eq (c : ClassId) :
    handleView draft (draft.forest.classAt c).handle =
      .ok (draft.forest.handleView (draft.forest.classAt c).handle) := by
  have owned {id : FunctionId} {slot : Slot} := @functionView_eq_of_owned draft c id closed slot
  have wrapped := closed.pointed.wrapped c
  simp only [Class.mem_owners_iff, Class.alloc?, Class.dealloc?] at owned
  rw [Class.sizers] at wrapped
  cases isHandle : (draft.forest.classAt c).handle with
  | none => rfl
  | some handle =>
      rw [isHandle] at owned wrapped
      cases handle with
      | native alloc dealloc =>
          have isAlloc : alloc.mapM (functionView draft) = _ :=
            optionMapM_eq fun id isAlloc => owned (.inl ⟨isAlloc, rfl⟩)
          have isDealloc : dealloc.mapM (functionView draft) = _ :=
            optionMapM_eq fun id isDealloc => owned (.inr (.inl ⟨isDealloc, rfl⟩))
          rw [handleView, isAlloc, ok_bind, isDealloc]
          rfl
      | number type =>
          rw [handleView, viewType_eq fun id named =>
            accessorView_eq closed.sound (wrapped id named)]
          rfl

theorem propertyView_eq {property : Property}
    (member : property ∈ (draft.forest.classAt c).properties) :
    propertyView draft property = .ok (draft.forest.propertyView property) := by
  have getter := functionView_eq_of_owned closed (Class.mem_owners_of_getter member)
  have setter : property.setter.mapM (functionView draft) = _ := optionMapM_eq fun id isSetter =>
    functionView_eq_of_owned closed (Class.mem_owners_of_setter member isSetter)
  rw [propertyView, getter, ok_bind, setter]
  rfl

theorem classViewWith_eq (valid : c < draft.forest.hierarchy.size) {depth : Nat}
    {inner : List ClassView} (below : (draft.forest.classView depth c).inner = inner) :
    classViewWith draft c inner = .ok (draft.forest.classView depth c) := by
  have defaultInit : (draft.forest.classAt c).defaultInit.mapM (functionView draft) = _ :=
    optionMapM_eq fun id isInit =>
      functionView_eq_of_owned closed (Class.mem_owners_of_initializer isInit)
  have properties : (draft.forest.classAt c).properties.mapM (propertyView draft) = _ :=
    mapM_eq fun property member => propertyView_eq closed member
  have functions : (draft.forest.classAt c).methods.mapM (functionView draft) = _ :=
    mapM_eq fun id isMethod => functionView_eq_of_owned closed (Class.mem_owners_of_method isMethod)
  rw [classViewWith, classAt_eq valid, ok_bind, className_eq valid, ok_bind, handleView_eq closed,
    ok_bind, defaultInit, ok_bind, properties, ok_bind, functions, ← below]
  cases depth <;> rfl

theorem classView_eq (depth : Nat) (valid : c < draft.forest.hierarchy.size) :
    classView draft depth c = .ok (draft.forest.classView depth c) := by
  induction depth generalizing c with
  | zero => exact classViewWith_eq closed valid rfl
  | succ depth ih =>
      have inner : (draft.forest.hierarchy.inner c).mapM (classView draft depth) = _ :=
        mapM_eq fun place isInner => ih (Hierarchy.lt_size_of_mem_children isInner)
      rw [classView, inner]
      exact classViewWith_eq closed valid rfl

theorem document_eq : document settings draft = .ok (draft.forest.document settings) := by
  have classes : draft.forest.hierarchy.roots.mapM
      (classView draft draft.forest.hierarchy.size) = _ :=
    mapM_eq fun place isRoot => classView_eq closed _ (Hierarchy.lt_size_of_mem_children isRoot)
  rw [document, classes]
  rfl

end Closed

end Bindery.Guarded
