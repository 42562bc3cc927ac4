import Bindery.Proofs.Converted
import Bindery.Settings.Defaults

/-!
# What a document shows

A document has no ids: it shows functions as wholes, in the slots of the tree of classes and, for
accessors, in the types that name them.  The tree shows every function that is not detached exactly
once.  A detached function is shown by the types that name it, as long as one of them belongs to a
function in the tree: accessors within accessors are cut off, so one that is named by detached
functions only is lost.
-/

namespace Bindery

namespace View

variable {α β : Type}

namespace TypeView

/-- The size accessors that a type shows. -/
def accessors (type : TypeView α) : List α :=
  type.sizeGetter.toList ++ type.sizeSetter.toList

end TypeView

namespace ArgumentView

def accessors : ArgumentView α → List α
  | plain parameter => parameter.type.accessors
  | buffer data length => data.type.accessors ++ length.type.accessors

end ArgumentView

namespace FunctionView

def accessors (function : FunctionView α) : List α :=
  function.ret.type.accessors ++ function.ret.replaced.toList.flatMap (·.accessors) ++
    function.params.flatMap (·.accessors)

end FunctionView

namespace HandleView

/-- The allocator and the deallocator. -/
def members : HandleView → List (FunctionView AccessorView)
  | native alloc dealloc => alloc.toList ++ dealloc.toList
  | number _ => []
  | none => []

/-- The accessors of the number that is wrapped. -/
def accessors : HandleView → List AccessorView
  | number type => type.accessors
  | _ => []

end HandleView

namespace PropertyView

def members (property : PropertyView) : List (FunctionView AccessorView) :=
  property.getter :: property.setter.toList

end PropertyView

namespace ClassView

/-- The functions in the slots of the class itself. -/
def ownMembers (c : ClassView) : List (FunctionView AccessorView) :=
  c.handle.members ++ c.defaultInit.toList ++ c.properties.flatMap (·.members) ++ c.functions

/-- The accessors in the types of the class itself. -/
def ownAccessors (c : ClassView) : List AccessorView :=
  c.handle.accessors ++ c.ownMembers.flatMap (·.accessors)

mutual

/-- What a class and all classes in it have of their own. -/
def collect (own : ClassView → List β) : ClassView → List β
  | ⟨name, isCallback, handle, defaultInit, properties, functions, inner⟩ =>
    own ⟨name, isCallback, handle, defaultInit, properties, functions, inner⟩ ++
      collectAll own inner

def collectAll (own : ClassView → List β) : List ClassView → List β
  | [] => []
  | c :: rest => collect own c ++ collectAll own rest

end

theorem collect_eq (own : ClassView → List β) (c : ClassView) :
    collect own c = own c ++ collectAll own c.inner := by
  cases c
  rw [collect]

end ClassView

end View

namespace Document

/-- All functions in the slots of the tree of classes. -/
def members (document : Document) : List (View.FunctionView View.AccessorView) :=
  View.ClassView.collectAll View.ClassView.ownMembers document.classes

/-- All size accessors that are shown. -/
def accessors (document : Document) : List View.AccessorView :=
  View.ClassView.collectAll View.ClassView.ownAccessors document.classes

end Document

open View

namespace Forest

variable {forest : Forest} {β : Type}

theorem coe_collectAll_map {own : ClassView → List β} {kept below : ClassId → Multiset β}
    {depth : Nat}
    (each : ∀ c, ↑(ClassView.collect own (forest.classView depth c)) = kept c + below c)
    (siblings : List ClassId) :
    (↑(ClassView.collectAll own (siblings.map (forest.classView depth))) : Multiset β) =
      (↑siblings : Multiset ClassId).bind kept + (↑siblings : Multiset ClassId).bind below := by
  induction siblings with
  | nil => rfl
  | cons c rest ih =>
      rw [List.map_cons, ClassView.collectAll, ← Multiset.coe_add, each, ih, ← Multiset.cons_coe,
        Multiset.cons_bind, Multiset.cons_bind]
      ac_rfl

/-- A collection over the classes of a document meets what the descent from the same classes
meets. -/
theorem coe_collectAll_classView {own : ClassView → List β} {kept : ClassId → Multiset β}
    (same : ∀ depth c, ↑(own (forest.classView depth c)) = kept c) (depth : Nat)
    (siblings : List ClassId) :
    (↑(ClassView.collectAll own (siblings.map (forest.classView depth))) : Multiset β) =
      (↑(forest.hierarchy.descend (depth + 1) siblings) : Multiset ClassId).bind kept := by
  induction depth generalizing siblings with
  | zero =>
      have each (c : ClassId) : (↑(ClassView.collect own (forest.classView 0 c)) : Multiset β) =
          kept c + 0 := by
        rw [ClassView.collect_eq, ← Multiset.coe_add, same]
        rfl
      have nothing : siblings.flatMap (fun _ => ([] : List ClassId)) = [] := by simp
      rw [coe_collectAll_map each, Multiset.bind_zero, add_zero]
      simp only [Hierarchy.descend, nothing, List.append_nil]
  | succ depth ih =>
      have each (c : ClassId) :
          (↑(ClassView.collect own (forest.classView (depth + 1) c)) : Multiset β) =
            kept c + (↑(forest.hierarchy.descend (depth + 1) (forest.hierarchy.inner c)) :
              Multiset ClassId).bind kept := by
        rw [ClassView.collect_eq, ← Multiset.coe_add, same, ← ih]
        rfl
      rw [coe_collectAll_map each, Hierarchy.descend, ← Multiset.coe_add, Multiset.add_bind,
        ← Multiset.coe_bind, Multiset.bind_assoc]

/-- A collection over a document meets every class once. -/
theorem coe_collectAll_document {own : ClassView → List β} {kept : ClassId → Multiset β}
    (same : ∀ depth c, ↑(own (forest.classView depth c)) = kept c) (settings : Settings) :
    (↑(ClassView.collectAll own (forest.document settings).classes) : Multiset β) =
      (Multiset.range forest.hierarchy.size).bind kept := by
  have all : (↑(forest.hierarchy.descend (forest.hierarchy.size + 1) forest.hierarchy.roots) :
      Multiset ClassId) = Multiset.range forest.hierarchy.size :=
    Multiset.coe_eq_coe.2 (Hierarchy.descend_roots_perm_range (Nat.le_succ _))
  rw [document, coe_collectAll_classView same, all]

/-! ## Members -/

theorem members_handleView (handle : Option Handle) :
    (↑(forest.handleView handle).members : Multiset (FunctionView AccessorView)) =
      (handle.elim 0 Handle.held).map forest.functionView := by
  match handle with
  | none => rfl
  | some (.number type) => rfl
  | some (.native alloc dealloc) => cases alloc <;> cases dealloc <;> rfl

theorem members_propertyView (property : Property) :
    (forest.propertyView property).members = property.functions.map forest.functionView := by
  rw [PropertyView.members, Property.functions, List.map_cons, propertyView]
  cases property.setter <;> rfl

theorem coe_ownMembers (depth : Nat) (c : ClassId) :
    (↑(forest.classView depth c).ownMembers : Multiset (FunctionView AccessorView)) =
      (forest.classAt c).held.map forest.functionView := by
  have handle :
      (forest.classView depth c).handle = forest.handleView (forest.classAt c).handle := by
    rw [classView.eq_def]
  have defaultInit : (forest.classView depth c).defaultInit.toList =
      (forest.classAt c).defaultInit.toList.map forest.functionView := by
    rw [classView.eq_def]
    cases (forest.classAt c).defaultInit <;> rfl
  have properties : (forest.classView depth c).properties.flatMap (·.members) =
      ((forest.classAt c).properties.flatMap (·.functions)).map forest.functionView := by
    rw [classView.eq_def]
    simp only [List.flatMap_map, List.map_flatMap, members_propertyView]
  have functions : (forest.classView depth c).functions =
      (forest.classAt c).methods.map forest.functionView := by
    rw [classView.eq_def]
  rw [ClassView.ownMembers, handle, defaultInit, properties, functions]
  simp only [← Multiset.coe_add, members_handleView, Class.held, Multiset.map_add,
    Multiset.map_coe]

/-- The functions in the slots of all classes. -/
def shown (forest : Forest) : Multiset FunctionId :=
  (Multiset.range forest.hierarchy.size).bind fun c => (forest.classAt c).held

/-- The tree of classes shows what is in the slots of the classes. -/
theorem coe_members (settings : Settings) :
    (↑(forest.document settings).members : Multiset (FunctionView AccessorView)) =
      forest.shown.map forest.functionView := by
  rw [Document.members, coe_collectAll_document coe_ownMembers, shown, Multiset.map_bind]

/-- The functions that are detached. -/
def detachedIds (forest : Forest) : List FunctionId :=
  forest.detached.map (·.1)

/-- The functions that are held by classes in a forest without violations. -/
theorem Sound.shown_eq (sound : forest.Sound) (clean : forest.ownershipViolations = [])
    (noneFree : forest.free = []) :
    forest.shown =
      ↑((List.range forest.functionCount).filter fun id => id ∉ forest.detachedIds) := by
  have complete : forest.held = Multiset.range forest.functionCount := by
    have full : forest.functionCount ≤ forest.held.card := by
      apply Nat.le_of_sub_eq_zero
      exact sound.ownershipViolations_eq_nil_iff.1 clean
    exact Multiset.eq_of_le_of_card_le sound.held_le (by simpa using full)
  have split : (↑forest.detachedIds : Multiset FunctionId) + forest.shown =
      Multiset.range forest.functionCount := by
    rw [← complete, held, noneFree]
    simp [detachedIds, shown]
  have once := sound.once
  rw [complete, ← split] at once
  obtain ⟨-, different, apart⟩ := Multiset.nodup_add.1 once
  apply (Multiset.Nodup.ext different (Multiset.coe_nodup.2 (List.nodup_range.filter _))).2
  intro id
  have member : id ∈ Multiset.range forest.functionCount ↔
      id ∈ forest.detachedIds ∨ id ∈ forest.shown := by
    rw [← split, Multiset.mem_add, Multiset.mem_coe]
  simp only [Multiset.mem_range] at member
  simp only [Multiset.mem_coe, List.mem_filter, List.mem_range, member, decide_eq_true_eq]
  constructor
  · intro isHeld
    refine ⟨.inr isHeld, fun isDetached => ?_⟩
    exact Multiset.disjoint_left.1 apart (Multiset.mem_coe.2 isDetached) isHeld
  · rintro ⟨isThere, notDetached⟩
    exact isThere.resolve_left notDetached

/-- The tree of classes shows every function that is not detached exactly once. -/
theorem Sound.coe_members_document (sound : forest.Sound)
    (clean : forest.ownershipViolations = []) (noneFree : forest.free = [])
    (settings : Settings) :
    (↑(forest.document settings).members : Multiset (FunctionView AccessorView)) =
      ↑(((List.range forest.functionCount).filter fun id => id ∉ forest.detachedIds).map
        forest.functionView) := by
  rw [coe_members, sound.shown_eq clean noneFree, Multiset.map_coe]

end Forest

/-! ## Accessors -/

/-- The functions that a type names as telling its size. -/
def ValueType.sizers (type : ValueType) : List FunctionId :=
  type.sizeAccessor.toList.map (·.function)

def Argument.sizers (argument : Argument) : List FunctionId :=
  argument.flatten.flatMap (·.type.sizers)

/-- The functions that the types of a function name. -/
def Function.sizers (function : Function) : List FunctionId :=
  function.ret.type.sizers ++ function.ret.replaced.toList.flatMap (·.sizers) ++
    function.params.flatMap (·.sizers)

/-- The functions that the type of a wrapped number names. -/
def Class.sizers (c : Class) : List FunctionId :=
  match c.handle with
  | some (.number type) => type.sizers
  | _ => []

section Views

variable {α : Type} (display : FunctionId → α)

theorem ValueType.accessors_view (type : ValueType) :
    (type.view fun id => some (display id)).accessors = type.sizers.map display := by
  obtain ⟨kind, mutable, isArray, ctype, actsAsString, containsNumberHandle, accessor⟩ := type
  match accessor with
  | none => rfl
  | some (.getter id) => rfl
  | some (.setter id) => rfl

theorem Function.accessors_viewArgument (argument : Argument) :
    (viewArgument (fun id => some (display id)) argument).accessors =
      argument.sizers.map display := by
  cases argument with
  | plain parameter =>
      simp [viewArgument, ArgumentView.accessors, viewParameter, Argument.sizers, Argument.flatten,
        ValueType.accessors_view]
  | buffer data length =>
      simp [viewArgument, ArgumentView.accessors, viewParameter, Argument.sizers, Argument.flatten,
        ValueType.accessors_view]

theorem Function.accessors_view (function : Function) :
    (function.view fun id => some (display id)).accessors = function.sizers.map display := by
  have replaced : (function.ret.replaced.map
      (·.view fun id => some (display id))).toList.flatMap (·.accessors) =
      (function.ret.replaced.toList.flatMap (·.sizers)).map display := by
    cases function.ret.replaced with
    | none => rfl
    | some type => simp [ValueType.accessors_view]
  have params : (function.params.map (viewArgument fun id => some (display id))).flatMap
      (·.accessors) = (function.params.flatMap (·.sizers)).map display := by
    rw [List.flatMap_map, List.map_flatMap]
    simp only [accessors_viewArgument]
  rw [FunctionView.accessors, Function.sizers, List.map_append, List.map_append, ← replaced,
    ← params, ← ValueType.accessors_view]
  rfl

end Views

namespace Forest

variable {forest : Forest}

theorem accessors_handleView (c : ClassId) :
    (forest.handleView (forest.classAt c).handle).accessors =
      (forest.classAt c).sizers.map forest.accessorView := by
  rw [Class.sizers]
  match (forest.classAt c).handle with
  | none => rfl
  | some (.native alloc dealloc) => rfl
  | some (.number type) => exact type.accessors_view forest.accessorView

theorem coe_ownAccessors (depth : Nat) (c : ClassId) :
    (↑(forest.classView depth c).ownAccessors : Multiset AccessorView) =
      (↑(forest.classAt c).sizers + (forest.classAt c).held.bind
        fun id => (↑(forest.functionAt id).sizers : Multiset FunctionId)).map
          forest.accessorView := by
  have handle :
      (forest.classView depth c).handle = forest.handleView (forest.classAt c).handle := by
    rw [classView.eq_def]
  rw [ClassView.ownAccessors, handle, accessors_handleView, ← Multiset.coe_add, ← Multiset.coe_bind,
    coe_ownMembers, Multiset.bind_map, Multiset.map_add, Multiset.map_bind, Multiset.map_coe]
  congr 1
  apply Multiset.bind_congr
  intro id _
  rw [functionView, Function.accessors_view, Multiset.map_coe]

/-- The functions that are named by the types of classes and of functions in their slots. -/
def referenced (forest : Forest) : Multiset FunctionId :=
  ((Multiset.range forest.hierarchy.size).bind fun c => ↑(forest.classAt c).sizers) +
    forest.shown.bind fun id => ↑(forest.functionAt id).sizers

/-- The accessors that are shown are those of the functions that are referenced. -/
theorem coe_accessors (settings : Settings) :
    (↑(forest.document settings).accessors : Multiset AccessorView) =
      forest.referenced.map forest.accessorView := by
  rw [Document.accessors, coe_collectAll_document coe_ownAccessors, ← Multiset.map_bind,
    Multiset.bind_add, ← Multiset.bind_assoc]
  rfl

/-- The functions that are named by the types of classes and of functions in classes. -/
def named (forest : Forest) : List FunctionId :=
  (List.range forest.hierarchy.size).flatMap (fun c => (forest.classAt c).sizers) ++
    ((List.range forest.functionCount).filter fun id => id ∉ forest.detachedIds).flatMap
      fun id => (forest.functionAt id).sizers

/-- Whether the type of a wrapped number names the function, or a type of some function that is
not detached itself. -/
def IsNamed (forest : Forest) (id : FunctionId) : Prop :=
  (∃ c < forest.hierarchy.size, id ∈ (forest.classAt c).sizers) ∨
    ∃ user < forest.functionCount, user ∉ forest.detachedIds ∧
      id ∈ (forest.functionAt user).sizers

theorem mem_named_iff {id : FunctionId} : id ∈ forest.named ↔ forest.IsNamed id := by
  simp [named, IsNamed, and_assoc]

/-- The accessors that are shown are those of the functions that are named. -/
theorem Sound.coe_accessors_document (sound : forest.Sound)
    (clean : forest.ownershipViolations = []) (noneFree : forest.free = [])
    (settings : Settings) :
    (↑(forest.document settings).accessors : Multiset AccessorView) =
      ↑(forest.named.map forest.accessorView) := by
  rw [coe_accessors, referenced, sound.shown_eq clean noneFree, named, ← Multiset.map_coe,
    ← Multiset.coe_add, ← Multiset.coe_bind, ← Multiset.coe_bind]
  rfl

/-- A function is shown as an accessor if one that looks the same is named. -/
theorem Sound.mem_accessors_document_iff (sound : forest.Sound)
    (clean : forest.ownershipViolations = []) (noneFree : forest.free = [])
    (settings : Settings) {accessor : AccessorView} :
    accessor ∈ (forest.document settings).accessors ↔
      ∃ twin, forest.IsNamed twin ∧ forest.accessorView twin = accessor := by
  rw [← Multiset.mem_coe, sound.coe_accessors_document clean noneFree settings, Multiset.mem_coe,
    List.mem_map]
  simp only [mem_named_iff]

end Forest

/-! ## Finished conversions -/

namespace Conversion

variable {settings : Settings} {declarations : DeclarationSet} {result : Result}

/-- The C names of what a header declares: its functions but for excluded ones, and its
callbacks. -/
def declaredNames (settings : Settings) (header : HeaderDeclarations) : List String :=
  (header.functions.filter (!·.isExcluded settings)).map (·.name) ++
    (header.typedefs.filter fun declaration =>
      Listeners.isCallback settings declaration && declaration.asFunction?.isSome).map (·.name)

theorem cnames_arrivals (settings : Settings) (header : HeaderDeclarations) :
    (arrivals settings header).map (·.cname) = declaredNames settings header := by
  have functions : (Intake.functions settings header.functions).map (·.cname) =
      (header.functions.filter (!·.isExcluded settings)).map (·.name) := by
    rw [Intake.functions, List.map_map]
    rfl
  have callbacks (typedefs : List TypedefDeclaration) :
      (((typedefs.filter (Listeners.isCallback settings)).filterMap (·.asFunction?)).map
        fun signature => (signature.intake settings).rename settings.canonical.callback).map
          (·.cname) =
      (typedefs.filter fun declaration =>
        Listeners.isCallback settings declaration && declaration.asFunction?.isSome).map
          (·.name) := by
    induction typedefs with
    | nil => rfl
    | cons declaration rest ih =>
        by_cases isCallback : Listeners.isCallback settings declaration
        · cases target : declaration.target with
          | type spelling =>
              have noFunction : declaration.asFunction? = none := by
                rw [TypedefDeclaration.asFunction?, target]
              simp [isCallback, noFunction, ih]
          | function returnType parameters =>
              have isFunction : declaration.asFunction? =
                  some { name := declaration.name, returnType, parameters } := by
                rw [TypedefDeclaration.asFunction?, target]
              simp [isCallback, isFunction, ih]
              rfl
        · simp [isCallback, ih]
  rw [arrivals, List.map_append, functions, callbacks, declaredNames]

/-- The functions of the forest are those that are declared, in order. -/
theorem cnames_convert (converted : convert settings declarations = .ok result) :
    result.draft.forest.functions.map (·.cname) =
      declarations.headers.flatMap (declaredNames settings) := by
  have arrived : Arrived (fun original current => current.cname = original.cname)
      (declarations.headers.flatMap (arrivals settings)) result.draft.forest := by
    apply arrived_convert
    · exact fun _ => rfl
    · exact fun step same => step.cname_eq.trans same
    · exact converted
  have names : result.draft.forest.functions.map (·.cname) =
      (declarations.headers.flatMap (arrivals settings)).map (·.cname) := by
    apply List.ext_getElem
    · rw [List.length_map, List.length_map]
      exact arrived.1
    · intro id inForest inArrivals
      rw [List.length_map] at inForest inArrivals
      have same := arrived.2 id _ (List.getElem?_eq_getElem inArrivals)
      rw [List.getElem_map, List.getElem_map, ← same, Forest.functionAt,
        List.getElem?_eq_getElem inForest]
      rfl
  calc
    result.draft.forest.functions.map (·.cname) =
        (declarations.headers.flatMap (arrivals settings)).map (·.cname) := names
    _ = declarations.headers.flatMap fun header => (arrivals settings header).map (·.cname) :=
      List.map_flatMap
    _ = declarations.headers.flatMap (declaredNames settings) := by
      simp only [cnames_arrivals]

/-- What a document shows if no function is without an owner: the tree has every function that is
not detached exactly once, and a detached one is seen exactly if something that is shown names
it. -/
theorem document_convert (converted : convert settings declarations = .ok result)
    (clean : result.draft.forest.ownershipViolations = []) :
    result.draft.forest.functions.map (·.cname) =
        declarations.headers.flatMap (declaredNames settings) ∧
      (↑result.document.members : Multiset (FunctionView AccessorView)) =
        ↑(((List.range result.draft.forest.functionCount).filter fun id =>
          id ∉ result.draft.forest.detachedIds).map result.draft.forest.functionView) ∧
      ∀ id ∈ result.draft.forest.detachedIds,
        (result.draft.forest.accessorView id ∈ result.document.accessors ↔
          ∃ twin, result.draft.forest.IsNamed twin ∧
            result.draft.forest.accessorView twin = result.draft.forest.accessorView id) := by
  have sound := sound_convert converted
  have noneFree := free_convert converted
  have isDocument : result.document = result.draft.forest.document settings := by
    obtain ⟨draft, same, isDocument, -, -⟩ := convert_induction (fun _ _ => True) trivial
      (fun _ _ _ _ => trivial) converted
    rw [isDocument, same]
  rw [isDocument]
  refine ⟨cnames_convert converted, ?_, fun id _ => ?_⟩
  · exact sound.coe_members_document clean noneFree settings
  · exact sound.mem_accessors_document_iff clean noneFree settings

/-- A getter of data, with the companion that tells its length. -/
def measuredData : DeclarationSet where
  headers := [{
    file := "tox.h"
    functions := [
      { name := "tox_get_data"
        returnType := { name := "uint8_t", isPointer := true }
        parameters := [
          { name := "tox", type := { name := "Tox", isPointer := true, isConst := true } }] },
      { name := "tox_get_data_size"
        returnType := { name := "size_t" }
        parameters := [
          { name := "tox", type := { name := "Tox", isPointer := true, isConst := true } }] }]
    structs := ["Tox"] }]

theorem mem_accessors_measuredData :
    ∃ result, convert Settings.default measuredData = .ok result ∧
      result.draft.forest.accessorView 1 ∈ result.document.accessors := by
  obtain ⟨result, converted, tells⟩ := exists_converted
    (fun result => (result.draft.forest.ownershipViolations, result.draft.forest.detachedIds,
      result.draft.forest.functionCount, (result.draft.forest.functionAt 0).sizers))
    (show (convert Settings.default measuredData).toOption.map _ = some ([], [1], 2, [1]) by
      decide +kernel)
  obtain ⟨clean, detached, count, sizers⟩ : _ ∧ _ ∧ _ ∧ _ := by simpa using tells
  refine ⟨result, converted, ((document_convert converted clean).2.2 1 ?_).2 ⟨1, ?_, rfl⟩⟩
  · simp [detached]
  · exact .inr ⟨0, by simp [count], by simp [detached], by simp [sizers]⟩

/-- A getter of data whose name ends like that of a companion. -/
def measuredByItself : DeclarationSet where
  headers := [{
    file := "tox.h"
    functions := [
      { name := "tox_get_video_size"
        returnType := { name := "uint8_t", isPointer := true }
        parameters := [{ name := "tox", type := { name := "Tox", isPointer := true } }] }]
    structs := ["Tox"] }]

/-- The getter is taken for its own companion: it is detached, and nothing shows it. -/
theorem document_measuredByItself :
    ∃ result, convert Settings.default measuredByItself = .ok result ∧
      result.draft.forest.ownershipViolations = [] ∧ result.draft.forest.functionCount = 1 ∧
      result.document.members.length = 0 ∧ result.document.accessors.length = 0 := by
  obtain ⟨result, converted, tells⟩ := exists_converted
    (fun result => (result.draft.forest.ownershipViolations, result.draft.forest.functionCount,
      result.document.members.length, result.document.accessors.length))
    (show (convert Settings.default measuredByItself).toOption.map _ = some ([], 1, 0, 0) by
      decide +kernel)
  refine ⟨result, converted, ?_⟩
  simpa using tells

end Conversion

end Bindery
