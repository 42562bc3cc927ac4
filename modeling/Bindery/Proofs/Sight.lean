import Bindery.Proofs.Attachments
import Bindery.Proofs.Resolution

/-!
# What is in sight of a class

A buffer can be sized by the methods of its class and by what is static in any class, and a search
finds nothing only if none of these goes by its keyword.  What was in sight before a rule came to a
method is so afterwards, but for a method that was taken off its class, and that had a marker in its
name.
-/

namespace Bindery

/-- The names of all methods and properties. -/
def Forest.names (forest : Forest) : List String :=
  forest.allClasses.flatMap fun c =>
    (forest.methods c).map (fun id => (forest.functionAt id).name) ++
      (forest.classAt c).properties.map (·.name)

namespace Sizing

variable {settings : Settings} {draft : Draft} {before middle after forest : Forest}
  {c : ClassId} {id accessor : FunctionId} {name keyword marker : String}
  {Marked Wider : String → Prop}

/-- What the buffers of a class can be sized with, by the name that a search goes by: the methods of
the class, and the static methods and properties of all classes. -/
inductive InSight (forest : Forest) (c : ClassId) : String → FunctionId → Prop
  | own {id : FunctionId} (isMethod : id ∈ forest.methods c) :
      InSight forest c (forest.functionAt id).name id
  | method {other : ClassId} {id : FunctionId} (isMethod : id ∈ forest.methods other)
      (isStatic : (forest.functionAt id).isStatic = true) :
      InSight forest c (forest.functionAt id).name id
  | property {other : ClassId} {property : Property}
      (isProperty : property ∈ (forest.classAt other).properties)
      (isStatic : property.isStatic = true) :
      InSight forest c property.name property.getter

theorem InSight.mem_names (inSight : InSight forest c name id) : name ∈ forest.names := by
  rw [Forest.names, List.mem_flatMap]
  cases inSight with
  | own isMethod =>
      exact ⟨c, Hierarchy.mem_all_iff.2 (Forest.lt_size_of_mem_methods isMethod),
        List.mem_append_left _ (List.mem_map_of_mem isMethod)⟩
  | method isMethod =>
      exact ⟨_, Hierarchy.mem_all_iff.2 (Forest.lt_size_of_mem_methods isMethod),
        List.mem_append_left _ (List.mem_map_of_mem isMethod)⟩
  | @property other property isProperty =>
      have valid : other < forest.hierarchy.size := by
        by_contra beyond
        rw [Forest.classAt_of_size_le (Nat.le_of_not_lt beyond)] at isProperty
        cases isProperty
      exact ⟨other, Hierarchy.mem_all_iff.2 valid,
        List.mem_append_right _ (List.mem_map_of_mem isProperty)⟩

theorem unsized_iff : Unsized settings forest keyword c ↔
    ∀ name id, InSight forest c name id → isSizeOf settings keyword name = false := by
  constructor
  · intro unsized name id inSight
    cases inSight with
    | own isMethod => exact unsized.methods id isMethod
    | method isMethod isStatic => exact unsized.staticMethods _ id isMethod isStatic
    | property isProperty isStatic => exact unsized.staticProperties _ _ isProperty isStatic
  · intro none
    exact ⟨fun id isMethod => none _ id (.own isMethod),
      fun other id isMethod isStatic => none _ id (.method isMethod isStatic),
      fun other property isProperty isStatic => none _ _ (.property isProperty isStatic)⟩

/-- What a search finds is in sight and goes by the keyword. -/
theorem inSight_of_accessor?
    (found : accessor? settings forest keyword c forest.allClasses = some accessor) :
    ∃ name, InSight forest c name accessor ∧ isSizeOf settings keyword name = true := by
  rcases Option.or_eq_some_iff.1 found with own | ⟨-, elsewhere⟩
  · rw [ownAccessor?] at own
    exact ⟨_, .own (List.mem_of_find?_eq_some own), by simpa using List.find?_some own⟩
  · obtain ⟨place, -, found⟩ := List.exists_of_findSome?_eq_some elsewhere
    rcases Option.or_eq_some_iff.1 found with isFirst | ⟨-, isGetter⟩
    · have fits := List.find?_some isFirst
      obtain ⟨isStatic, isSize⟩ := Bool.and_eq_true_iff.1 fits
      exact ⟨_, .method (List.mem_of_find?_eq_some isFirst) isStatic, isSize⟩
    · obtain ⟨property, isFirst, rfl⟩ := Option.map_eq_some_iff.1 isGetter
      have fits := List.find?_some isFirst
      obtain ⟨isStatic, isSize⟩ := Bool.and_eq_true_iff.1 fits
      exact ⟨_, .property (List.mem_of_find?_eq_some isFirst) isStatic, isSize⟩

/-- A search comes to nothing only where nothing in sight goes by the keyword. -/
theorem accessor?_eq_none_iff :
    accessor? settings forest keyword c forest.allClasses = none ↔
      ∀ name id, InSight forest c name id → isSizeOf settings keyword name = false := by
  refine ⟨fun none => unsized_iff.1 (unsized_of_accessor? none), fun none => ?_⟩
  cases found : accessor? settings forest keyword c forest.allClasses with
  | none => rfl
  | some accessor =>
      obtain ⟨name, inSight, isSize⟩ := inSight_of_accessor? found
      simp [none name accessor inSight] at isSize

/-- What is in sight and goes by a keyword makes every search with the keyword come to something. -/
theorem InSight.exists_accessor? (inSight : InSight forest c name accessor)
    (isSize : isSizeOf settings keyword name = true) :
    ∃ found, accessor? settings forest keyword c forest.allClasses = some found := by
  refine Option.ne_none_iff_exists'.1 fun none => ?_
  simp [accessor?_eq_none_iff.1 none name accessor inSight] at isSize

/-! ## What stays in sight -/

/-- What a rule takes off the classes: nothing but methods with a marker in their names, and those
are detached. -/
structure Takes (Marked : String → Prop) (before after : Forest) : Prop where
  hierarchy : after.hierarchy = before.hierarchy
  properties : ∀ c, (after.classAt c).properties = (before.classAt c).properties
  name : ∀ id, (after.functionAt id).name = (before.functionAt id).name
  isStatic : ∀ id, (after.functionAt id).isStatic = (before.functionAt id).isStatic
  methods : ∀ c, (after.methods c).Sublist (before.methods c)
  gone : ∀ c, ∀ id ∈ before.methods c, id ∉ after.methods c →
    Marked (before.functionAt id).name ∧ (id, c) ∈ after.detached
  detached : before.detached ⊆ after.detached
  taken : ∀ entry ∈ after.detached,
    entry ∈ before.detached ∨ Marked (before.functionAt entry.1).name

namespace Takes

theorem refl (forest : Forest) : Takes Marked forest forest where
  hierarchy := rfl
  properties := fun _ => rfl
  name := fun _ => rfl
  isStatic := fun _ => rfl
  methods := fun _ => List.Sublist.refl _
  gone := fun _ _ isMethod isGone => absurd isMethod isGone
  detached := List.Subset.refl _
  taken := fun _ => .inl

theorem mono (wider : ∀ name, Marked name → Wider name) (takes : Takes Marked before after) :
    Takes Wider before after where
  hierarchy := takes.hierarchy
  properties := takes.properties
  name := takes.name
  isStatic := takes.isStatic
  methods := takes.methods
  gone := fun c id isMethod isGone => (takes.gone c id isMethod isGone).imp_left (wider _)
  detached := takes.detached
  taken := fun entry isTaken => (takes.taken entry isTaken).imp_right (wider _)

theorem trans (first : Takes Marked before middle) (second : Takes Marked middle after) :
    Takes Marked before after where
  hierarchy := second.hierarchy.trans first.hierarchy
  properties := fun c => (second.properties c).trans (first.properties c)
  name := fun id => (second.name id).trans (first.name id)
  isStatic := fun id => (second.isStatic id).trans (first.isStatic id)
  methods := fun c => (second.methods c).trans (first.methods c)
  gone := by
    intro c id isMethod isGone
    by_cases stayed : id ∈ middle.methods c
    · rw [← first.name id]
      exact second.gone c id stayed isGone
    · obtain ⟨marked, isDetached⟩ := first.gone c id isMethod stayed
      exact ⟨marked, second.detached isDetached⟩
  detached := List.Subset.trans first.detached second.detached
  taken := by
    intro entry isTaken
    rcases second.taken entry isTaken with earlier | marked
    · exact first.taken entry earlier
    · rw [first.name] at marked
      exact .inr marked

theorem modifyFunction {change : Function → Function}
    (name : (change (forest.functionAt id)).name = (forest.functionAt id).name)
    (isStatic : (change (forest.functionAt id)).isStatic = (forest.functionAt id).isStatic) :
    Takes Marked forest (forest.modifyFunction id change) := by
  have same {α : Type} (part : Function → α)
      (kept : part (change (forest.functionAt id)) = part (forest.functionAt id))
      (other : FunctionId) :
      part ((forest.modifyFunction id change).functionAt other) =
        part (forest.functionAt other) := by
    by_cases isThis : other = id
    · subst isThis
      rcases forest.functionAt_modifyFunction_or other change with changed | ⟨absent, still⟩
      · rw [changed, kept]
      · rw [still, absent]
    · rw [Forest.functionAt_modifyFunction_of_ne isThis]
  exact { refl forest with
    name := same Function.name name
    isStatic := same Function.isStatic isStatic }

/-- A method with a marker is taken off its class. -/
theorem detachMethod (marked : Marked (forest.functionAt accessor).name) :
    Takes Marked forest (forest.detach c accessor) := by
  have content (place : ClassId) :
      (forest.detach c accessor).classAt place = forest.classAt place ∨
      place = c ∧ (forest.detach c accessor).classAt place =
        (forest.classAt place).removeMethod accessor :=
    forest.classAt_modifyClass_or c (·.removeMethod accessor) place
  refine ⟨rfl, fun place => ?_, fun _ => rfl, fun _ => rfl, fun place => ?_, ?_,
    List.subset_append_left _ _, ?_⟩
  · rcases content place with same | ⟨-, removed⟩
    · rw [same]
    · rw [removed]
      rfl
  · rcases content place with same | ⟨-, removed⟩
    · rw [Forest.methods, same]
      exact List.Sublist.refl _
    · rw [Forest.methods, removed]
      exact List.erase_sublist
  · intro place id isMethod isGone
    rcases content place with same | ⟨rfl, removed⟩
    · rw [Forest.methods, same] at isGone
      exact absurd isMethod isGone
    · rw [Forest.methods, removed] at isGone
      obtain rfl : id = accessor := by
        by_contra different
        exact isGone ((List.mem_erase_of_ne different).2 isMethod)
      exact ⟨marked, List.mem_append_right _ List.mem_cons_self⟩
  · intro entry isEntry
    rcases List.mem_append.1 isEntry with earlier | isNew
    · exact .inl earlier
    · obtain rfl := List.mem_singleton.1 isNew
      exact .inr marked

/-- Taking an accessor off a class is all that removes a method, and it goes by the marker. -/
theorem detach (draft : Draft) (c : ClassId) (accessor : FunctionId) (marker : String) :
    Takes (fun name => Text.contains name marker = true) draft.forest
      (detach draft c accessor marker).forest := by
  rw [forest_detach]
  split
  · rename_i isTaken
    exact detachMethod isTaken.1
  · exact .refl _

/-- Nothing comes into sight. -/
theorem inSight (takes : Takes Marked before after) (inSight : InSight after c name id) :
    InSight before c name id := by
  cases inSight with
  | own isMethod =>
      rw [takes.name]
      exact .own ((takes.methods c).subset isMethod)
  | method isMethod isStatic =>
      rw [takes.isStatic] at isStatic
      rw [takes.name]
      exact .method ((takes.methods _).subset isMethod) isStatic
  | property isProperty isStatic =>
      rw [takes.properties] at isProperty
      exact .property isProperty isStatic

/-- What gets out of sight is a method that was taken off its class. -/
theorem inSight_or_gone (takes : Takes Marked before after) (inSight : InSight before c name id) :
    InSight after c name id ∨ Marked name ∧ ∃ place, id ∈ before.methods place ∧
      id ∉ after.methods place ∧ (id, place) ∈ after.detached := by
  cases inSight with
  | own isMethod =>
      by_cases stays : id ∈ after.methods c
      · rw [← takes.name]
        exact .inl (.own stays)
      · obtain ⟨marked, isDetached⟩ := takes.gone c id isMethod stays
        exact .inr ⟨marked, c, isMethod, stays, isDetached⟩
  | @method other id isMethod isStatic =>
      by_cases stays : id ∈ after.methods other
      · rw [← takes.isStatic] at isStatic
        rw [← takes.name]
        exact .inl (.method stays isStatic)
      · obtain ⟨marked, isDetached⟩ := takes.gone other id isMethod stays
        exact .inr ⟨marked, other, isMethod, stays, isDetached⟩
  | property isProperty isStatic =>
      rw [← takes.properties] at isProperty
      exact .inl (.property isProperty isStatic)

end Takes

end Sizing

end Bindery
