import Bindery.Proofs.Nesting

/-!
# Following accessors

An accessor is shown with the path of its class, and perhaps a property.  The path leads down the
document to one class, and the function is seen again among what that class shows, unless it was
taken off the class: then it stands in no slot, and only accessors show it.
-/

namespace Bindery

namespace View

variable {α : Type}

/-! ## Views without accessors -/

def TypeView.bare (type : TypeView α) : TypeView Empty :=
  { type with sizeGetter := none, sizeSetter := none }

def ParameterView.bare (parameter : ParameterView α) : ParameterView Empty :=
  { parameter with type := parameter.type.bare }

def ArgumentView.bare : ArgumentView α → ArgumentView Empty
  | plain parameter => .plain parameter.bare
  | buffer data length => .buffer data.bare length.bare

/-- The function without the accessors of its types. -/
def FunctionView.bare (function : FunctionView α) : FunctionView Empty where
  name := function.name
  cname := function.cname
  ret := {
    type := function.ret.type.bare
    replaced := function.ret.replaced.map (·.bare)
    promotedFrom := function.ret.promotedFrom }
  params := function.params.map (·.bare)
  throws := function.throws
  isStatic := function.isStatic

/-! ## The way to a class -/

namespace ClassView

/-- The class that the names lead to, the first of them among the given classes and each other one
among the inner classes of the one before. -/
def follow? : List String → List ClassView → Option ClassView
  | [], _ => none
  | [name], siblings => siblings.find? fun c => c.name = name
  | name :: next :: rest, siblings =>
    (siblings.find? fun c => c.name = name).bind fun c => follow? (next :: rest) c.inner

/-- A longer way goes on from where the shorter one leads. -/
theorem follow?_concat {names : List String} (someName : names ≠ []) (last : String)
    (siblings : List ClassView) :
    follow? (names ++ [last]) siblings =
      (follow? names siblings).bind fun c => c.inner.find? fun inner => inner.name = last := by
  induction names generalizing siblings with
  | nil => exact absurd rfl someName
  | cons name rest ih =>
      cases rest with
      | nil => rfl
      | cons next rest =>
          simp only [List.cons_append, follow?, Option.bind_assoc]
          congr 1
          funext c
          exact ih (List.cons_ne_nil next rest) c.inner

/-- What the class shows in slots of its own, outside its properties. -/
def plainMembers (c : ClassView) : List (FunctionView AccessorView) :=
  c.functions ++ c.handle.members ++ c.defaultInit.toList

end ClassView

/-- Whether the class shows the function of an accessor where the accessor says: as getter or
setter of the property, or, if no property is named, in a slot of its own.  An accessor that was
taken off its class is not looked for. -/
def AccessorView.IsShownBy (accessor : AccessorView) (c : ClassView) : Prop :=
  match accessor.property with
  | some name => ∃ property ∈ c.properties, property.name = name ∧
      accessor.function ∈ property.members.map (·.bare)
  | none => accessor.isDetached = false → accessor.function ∈ c.plainMembers.map (·.bare)

end View

open View

namespace Function

variable {α : Type} (show? : FunctionId → Option α)

theorem bare_viewType (type : ValueType) : (type.view show?).bare = type.view fun _ => none := by
  simp [ValueType.view, TypeView.bare]

theorem bare_viewArgument (argument : Argument) :
    (viewArgument show? argument).bare = viewArgument (fun _ => none) argument := by
  cases argument <;>
    simp [viewArgument, viewParameter, ArgumentView.bare, ParameterView.bare, bare_viewType]

theorem bare_view (function : Function) :
    (function.view show?).bare = function.view fun _ => none := by
  have replaced : (function.ret.replaced.map (·.view show?)).map (·.bare) =
      function.ret.replaced.map (·.view fun _ => (none : Option Empty)) := by
    cases function.ret.replaced <;> simp [bare_viewType]
  have params : (function.params.map (viewArgument show?)).map (·.bare) =
      function.params.map (viewArgument fun _ => (none : Option Empty)) := by
    rw [List.map_map]
    exact List.map_congr_left fun argument _ => bare_viewArgument show? argument
  simp only [view, FunctionView.bare, bare_viewType, replaced, params]

end Function

namespace Forest

variable {forest : Forest} {id : FunctionId} {c : ClassId} {slot : Slot}

theorem bare_functionView (id : FunctionId) :
    (forest.functionView id).bare = forest.bareView id :=
  Function.bare_view _ _

/-! ## Classes in the document -/

theorem name_classView (depth : Nat) (c : ClassId) :
    (forest.classView depth c).name = forest.className c := by
  rw [classView.eq_def]

theorem inner_classView (depth : Nat) (c : ClassId) :
    (forest.classView (depth + 1) c).inner =
      (forest.hierarchy.inner c).map (forest.classView depth) := by
  rw [classView.eq_def]

theorem find?_map_classView {parent : Option ClassId} (depth : Nat)
    (listed : c ∈ forest.hierarchy.children parent) :
    ((forest.hierarchy.children parent).map (forest.classView depth)).find?
        (fun sibling => sibling.name = forest.hierarchy.name c) =
      some (forest.classView depth c) := by
  have found : (forest.hierarchy.children parent).find?
      (fun sibling => forest.hierarchy.name sibling = forest.hierarchy.name c) = some c :=
    (Hierarchy.find?_key_eq_some_iff
      (forest.hierarchy.nodup_map_name_children parent)).2 ⟨listed, rfl⟩
  rw [List.find?_map]
  simp only [Function.comp_def, name_classView, className]
  rw [found]
  rfl

/-- The names that lead to a class of the forest lead to what the document shows of it, as long as
the classes are shown deep enough. -/
theorem follow?_of_reaches {names : List String} (reaches : forest.hierarchy.Reaches names c)
    {depth : Nat} (deep : names.length ≤ depth + 1) :
    ClassView.follow? names (forest.hierarchy.roots.map (forest.classView depth)) =
      some (forest.classView (depth + 1 - names.length) c) := by
  induction reaches with
  | root listed => exact find?_map_classView depth listed
  | @inner names outer c above listed ih =>
      rw [List.length_append, List.length_singleton] at deep ⊢
      obtain ⟨rest, enough⟩ := Nat.exists_eq_add_of_le deep
      rw [ClassView.follow?_concat above.ne_nil, ih (by omega), Option.bind_some]
      have step : depth + 1 - names.length = rest + 1 := by omega
      have last : depth + 1 - (names.length + 1) = rest := by omega
      rw [step, last, inner_classView]
      exact find?_map_classView rest listed

theorem exists_follow?_document (settings : Settings) (valid : c < forest.hierarchy.size) :
    ∃ depth, ClassView.follow? (forest.hierarchy.path c) (forest.document settings).classes =
      some (forest.classView depth c) := by
  have reaches := Hierarchy.reaches_path valid
  have short := reaches.length_le
  refine ⟨_, follow?_of_reaches reaches (short.trans ?_)⟩
  exact Nat.add_le_add_right (Nat.le_of_lt valid) 1

/-! ## Functions in the document -/

theorem mem_owners_of_ownerOf? (owner : forest.ownerOf? id = some slot) :
    (id, slot) ∈ forest.owners := by
  obtain ⟨before, after, split, -⟩ := List.lookup_eq_some_iff.1 owner
  rw [split]
  exact List.mem_append_right _ List.mem_cons_self

/-- A slot that is not beside the classes is a slot of its class. -/
theorem mem_owners_classAt (owned : (id, slot) ∈ forest.owners) (isHome : slot.home? = some c)
    (notDetached : slot ≠ .detached c) : (id, slot) ∈ (forest.classAt c).owners c := by
  rcases mem_owners_iff.1 owned with ⟨-, rfl⟩ | ⟨home, -, rfl⟩ | ⟨home, inClass⟩
  · cases isHome
  · obtain rfl := Option.some.inj isHome
    exact absurd rfl notDetached
  · obtain rfl := Option.some.inj ((Class.home?_of_mem_owners inClass).symm.trans isHome)
    exact inClass

theorem not_mem_shown (sound : forest.Sound) (isDetached : (id, c) ∈ forest.detached) :
    id ∉ forest.shown := by
  have once := sound.once
  rw [held, Multiset.nodup_add] at once
  obtain ⟨-, -, apart⟩ := once
  refine Multiset.disjoint_left.1 apart (Multiset.mem_add.2 (.inr ?_))
  exact Multiset.mem_coe.2 (List.mem_map_of_mem isDetached)

theorem accessorView_of_ownerOf? (owner : forest.ownerOf? id = some slot) :
    (forest.accessorView id).className = slot.home?.map forest.qualifiedName := by
  rw [accessorView, owner]
  cases slot <;> rfl

theorem functionView_mem_plainMembers (depth : Nat)
    (owned : (forest.classAt c).alloc? = some id ∨ (forest.classAt c).dealloc? = some id ∨
      (forest.classAt c).defaultInit = some id ∨ id ∈ forest.methods c) :
    forest.functionView id ∈ (forest.classView depth c).plainMembers := by
  have inHandle (isHeld : (forest.classAt c).alloc? = some id ∨
      (forest.classAt c).dealloc? = some id) :
      forest.functionView id ∈ (forest.handleView (forest.classAt c).handle).members := by
    rw [← Multiset.mem_coe, members_handleView]
    apply Multiset.mem_map_of_mem
    rw [Class.alloc?, Class.dealloc?] at isHeld
    cases isHandle : (forest.classAt c).handle with
    | none => simp [isHandle] at isHeld
    | some handle =>
        cases handle with
        | number type => simp [isHandle] at isHeld
        | native alloc dealloc => simpa [isHandle, Handle.held] using isHeld
  rw [ClassView.plainMembers, classView.eq_def]
  dsimp only
  rw [List.mem_append, List.mem_append]
  rcases owned with isAlloc | isDealloc | isInit | isMethod
  · exact .inl (.inr (inHandle (.inl isAlloc)))
  · exact .inl (.inr (inHandle (.inr isDealloc)))
  · exact .inr (by simp [isInit])
  · exact .inl (.inl (List.mem_map_of_mem isMethod))

theorem exists_propertyView_mem (depth : Nat) {property : Property}
    (member : property ∈ (forest.classAt c).properties) (isHeld : id ∈ property.functions) :
    ∃ view ∈ (forest.classView depth c).properties, view.name = property.name ∧
      forest.functionView id ∈ view.members := by
  refine ⟨forest.propertyView property, ?_, rfl, ?_⟩
  · rw [classView.eq_def]
    exact List.mem_map_of_mem member
  · rw [members_propertyView]
    exact List.mem_map_of_mem isHeld

theorem function_accessorView (id : FunctionId) :
    (forest.accessorView id).function = forest.bareView id := by
  rw [accessorView]
  split <;> rfl

/-- A class in whose slot a function is shows it where the accessor says. -/
theorem isShownBy_classView (owner : forest.ownerOf? id = some slot)
    (isHome : slot.home? = some c) (depth : Nat) :
    (forest.accessorView id).IsShownBy (forest.classView depth c) := by
  have inClass := mem_owners_classAt (mem_owners_of_ownerOf? owner) isHome
  have plain (owned : (forest.classAt c).alloc? = some id ∨ (forest.classAt c).dealloc? = some id ∨
      (forest.classAt c).defaultInit = some id ∨ id ∈ forest.methods c) :
      forest.bareView id ∈ (forest.classView depth c).plainMembers.map (·.bare) :=
    List.mem_map.2 ⟨_, functionView_mem_plainMembers depth owned, bare_functionView id⟩
  have inProperty {property : Property} (member : property ∈ (forest.classAt c).properties)
      (isHeld : id ∈ property.functions) :
      ∃ view ∈ (forest.classView depth c).properties, view.name = property.name ∧
        forest.bareView id ∈ view.members.map (·.bare) := by
    obtain ⟨view, isThere, named, shows⟩ := exists_propertyView_mem depth member isHeld
    exact ⟨view, isThere, named, List.mem_map.2 ⟨_, shows, bare_functionView id⟩⟩
  rw [AccessorView.IsShownBy, accessorView, owner]
  by_cases isDetached : slot = .detached c
  · rw [isDetached]
    exact fun notDetached => Bool.noConfusion notDetached
  · rcases Class.mem_owners_iff.1 (inClass isDetached) with
      ⟨isAlloc, rfl⟩ | ⟨isDealloc, rfl⟩ | ⟨isInit, rfl⟩ |
      ⟨property, member, ⟨isGetter, rfl⟩ | ⟨isSetter, rfl⟩⟩ | ⟨isMethod, rfl⟩
    · exact fun _ => plain (.inl isAlloc)
    · exact fun _ => plain (.inr (.inl isDealloc))
    · exact fun _ => plain (.inr (.inr (.inl isInit)))
    · exact inProperty member (by simp [Property.functions, isGetter])
    · exact inProperty member (by simp [Property.functions, isSetter])
    · exact fun _ => plain (.inr (.inr (.inr isMethod)))

theorem mem_detached_of_isDetached (isDetached : (forest.accessorView id).isDetached = true) :
    ∃ c, (id, c) ∈ forest.detached := by
  cases owner : forest.ownerOf? id with
  | none =>
      rw [accessorView, owner] at isDetached
      cases isDetached
  | some slot =>
      rcases mem_owners_iff.1 (mem_owners_of_ownerOf? owner) with
        ⟨-, rfl⟩ | ⟨c, member, -⟩ | ⟨c, inClass⟩
      · rw [accessorView, owner] at isDetached
        cases isDetached
      · exact ⟨c, member⟩
      · rw [accessorView, owner] at isDetached
        rcases Class.mem_owners_iff.1 inClass with
          ⟨-, rfl⟩ | ⟨-, rfl⟩ | ⟨-, rfl⟩ | ⟨property, -, ⟨-, rfl⟩ | ⟨-, rfl⟩⟩ | ⟨-, rfl⟩ <;>
          cases isDetached

theorem Sound.lt_of_mem_shown (sound : forest.Sound) (isShown : id ∈ forest.shown) :
    id < forest.functionCount :=
  sound.present id (Multiset.mem_add.2 (.inr isShown))

/-- Functions with different C names look different. -/
theorem eq_of_bareView {other : FunctionId} (distinct : (forest.functions.map (·.cname)).Nodup)
    (present : id < forest.functionCount) (otherPresent : other < forest.functionCount)
    (same : forest.bareView id = forest.bareView other) : id = other := by
  have cname (id : FunctionId) (present : id < (forest.functions.map (·.cname)).length) :
      (forest.functions.map (·.cname))[id] = (forest.bareView id).cname := by
    rw [List.length_map] at present
    rw [List.getElem_map, bareView, functionAt, List.getElem?_eq_getElem present]
    rfl
  rw [functionCount, ← List.length_map (·.cname)] at present otherPresent
  apply (List.Nodup.getElem_inj_iff distinct).1
  rw [cname id present, cname other otherPresent, same]

/-- Whether what an accessor tells of its function can be followed in the document: the names in
the path of its class lead to a class that shows the function, and one that was taken off its
class is not shown in any slot. -/
def Follows (forest : Forest) (document : Document) (id : FunctionId) : Prop :=
  ∀ className ∈ (forest.accessorView id).className,
    (∃ names c, className = ".".intercalate names ∧
      ClassView.follow? names document.classes = some c ∧
      (forest.accessorView id).IsShownBy c) ∧
    ((forest.accessorView id).isDetached = true → id ∉ forest.shown)

theorem Sound.follows (sound : forest.Sound) (settings : Settings) (id : FunctionId) :
    forest.Follows (forest.document settings) id := by
  intro className isClass
  constructor
  · cases owner : forest.ownerOf? id with
    | none =>
        rw [accessorView, owner] at isClass
        cases isClass
    | some slot =>
        rw [accessorView_of_ownerOf? owner] at isClass
        obtain ⟨c, isHome, rfl⟩ := Option.map_eq_some_iff.1 isClass
        have valid := sound.home_lt (mem_owners_of_ownerOf? owner) isHome
        obtain ⟨depth, reaches⟩ := exists_follow?_document settings valid
        exact ⟨forest.hierarchy.path c, _, rfl, reaches, isShownBy_classView owner isHome depth⟩
  · intro isDetached
    obtain ⟨c, member⟩ := mem_detached_of_isDetached isDetached
    exact not_mem_shown sound member

/-- If no two functions have the same C name, what is shown of a detached function is found in no
slot at all. -/
theorem Sound.function_not_mem (sound : forest.Sound)
    (distinct : (forest.functions.map (·.cname)).Nodup) (settings : Settings)
    (isDetached : (forest.accessorView id).isDetached = true) :
    (forest.bareView id) ∉ (forest.document settings).members.map (·.bare) := by
  intro member
  obtain ⟨view, isMember, same⟩ := List.mem_map.1 member
  rw [← Multiset.mem_coe, coe_members, Multiset.mem_map] at isMember
  obtain ⟨other, isShown, rfl⟩ := isMember
  obtain ⟨c, inDetached⟩ := mem_detached_of_isDetached isDetached
  have present := sound.lt_of_mem_owners (mem_owners_of_detached inDetached)
  rw [bare_functionView] at same
  obtain rfl := eq_of_bareView distinct (sound.lt_of_mem_shown isShown) present same
  exact not_mem_shown sound inDetached isShown

end Forest

namespace Conversion

variable {settings : Settings} {declarations : DeclarationSet} {result : Result}

theorem document_eq_of_ok (converted : convert settings declarations = .ok result) :
    result.document = result.draft.forest.document settings := by
  obtain ⟨draft, same, isDocument, -, -⟩ := convert_induction (fun _ _ => True) trivial
    (fun _ _ _ _ => trivial) converted
  rw [isDocument, same]

/-- The accessors of a document are those of the functions that are referenced, and what each of
them tells can be followed.  Two declarations of one function look alike, so it is by itself, and
not by its looks, that a detached function is absent from the slots; with distinct names it is so
by its looks as well. -/
theorem follows_convert (converted : convert settings declarations = .ok result) :
    (↑result.document.accessors : Multiset AccessorView) =
        result.draft.forest.referenced.map result.draft.forest.accessorView ∧
      (↑result.document.members : Multiset (FunctionView AccessorView)) =
        result.draft.forest.shown.map result.draft.forest.functionView ∧
      (∀ id ∈ result.draft.forest.referenced,
        result.draft.forest.Follows result.document id) ∧
      ((declarations.headers.flatMap (declaredNames settings)).Nodup →
        ∀ accessor ∈ result.document.accessors, accessor.isDetached = true →
          accessor.function ∉ result.document.members.map (·.bare)) := by
  have sound := sound_convert converted
  have isDocument := document_eq_of_ok converted
  rw [isDocument]
  refine ⟨Forest.coe_accessors settings, Forest.coe_members settings,
    fun id _ => sound.follows settings id, ?_⟩
  intro distinct accessor member isDetached
  rw [← cnames_convert converted] at distinct
  rw [← Multiset.mem_coe, Forest.coe_accessors, Multiset.mem_map] at member
  obtain ⟨id, -, rfl⟩ := member
  have absent := sound.function_not_mem distinct settings isDetached
  rwa [← Forest.function_accessorView] at absent

/-- The size of the data is told by a detached function, which is followed to the class it was
taken off. -/
theorem follows_measuredData :
    ∃ result, convert Settings.default measuredData = .ok result ∧
      1 ∈ result.draft.forest.referenced ∧
      (result.draft.forest.accessorView 1).className = some "Tox" ∧
      (result.draft.forest.accessorView 1).isDetached = true ∧
      result.draft.forest.Follows result.document 1 := by
  obtain ⟨result, converted, tells⟩ := exists_converted
    (fun result => (decide (1 ∈ result.draft.forest.referenced),
      (result.draft.forest.accessorView 1).className,
      (result.draft.forest.accessorView 1).isDetached))
    (show (convert Settings.default measuredData).toOption.map _ =
        some (true, some "Tox", true) by decide +kernel)
  obtain ⟨isReferenced, className, isDetached⟩ : _ ∧ _ ∧ _ := by simpa using tells
  exact ⟨result, converted, isReferenced, className, isDetached,
    (follows_convert converted).2.2.1 1 isReferenced⟩

end Conversion

end Bindery
