import Bindery.Proofs.Resting
import Bindery.Proofs.Turns

/-!
# Which properties are static

Three passes fold methods into properties, and each of them gives its properties one flag.  Getters
go by their name and come first, as properties of instances; static methods without parameters come
next, as static properties; methods that the settings list come last, and none of those that are
left is static and without parameters.  So the flag of a property is told by the method as it was
when the members of its header were formed, and it never changes afterwards.
-/

namespace Bindery

variable {settings : Settings} {kind : MoveKind} {kinds : Set MoveKind} {draft final : Draft}
  {before middle after forest : Forest} {c : ClassId} {id : FunctionId}

/-! ## Loops that keep an invariant -/

theorem holds_forEachMethod {Invariant : Forest → Prop}
    {Remaining : ClassId → List FunctionId → Forest → Prop}
    {step : ClassId → FunctionId → Draft → Draft} (loop : LoopInvariant Invariant Remaining)
    (each : ∀ {draft : Draft} {c : ClassId} {id : FunctionId} {rest : List FunctionId},
      Remaining c (id :: rest) draft.forest → Remaining c rest (step c id draft).forest)
    (start : Invariant draft.forest) : Invariant (draft.forEachMethod step).forest := by
  have methods (c : ClassId) (ids : List FunctionId) (draft : Draft)
      (remaining : Remaining c ids draft.forest) :
      Remaining c [] (ids.foldl (fun draft id => step c id draft) draft).forest := by
    induction ids generalizing draft with
    | nil => exact remaining
    | cons id rest ih => exact ih _ (each remaining)
  have classes (classes : List ClassId) (draft : Draft) (start : Invariant draft.forest) :
      Invariant (classes.foldl (fun draft c => (draft.forest.methods c).foldl
        (fun draft id => step c id draft) draft) draft).forest := by
    induction classes generalizing draft with
    | nil => exact start
    | cons c rest ih => exact ih _ (loop.leave (methods c _ draft (loop.enter c start)))
  exact classes draft.forest.allClasses draft start

/-! ## Getters and flags -/

/-- Whether what is told of a property has nothing to do with its setter. -/
def IgnoresSetter {α : Type} (tell : Property → α) : Prop :=
  ∀ property setter, tell { property with setter } = tell property

theorem Accessors.map_setLast {α : Type} {tell : Property → α} (ignores : IgnoresSetter tell)
    (setter : FunctionId) (properties : List Property) :
    (setLast setter properties).map tell = properties.map tell := by
  apply List.ext_getElem?
  intro position
  simp only [setLast, List.getElem?_map, List.getElem?_modify]
  cases properties[position]? with
  | none => rfl
  | some property =>
      simp only [Option.map_some]
      split
      · exact congrArg some (ignores property (some setter))
      · rfl

/-- Only a new property and the renaming of properties change what is told of properties. -/
theorem Move.map_properties_eq {α : Type} {tell : Property → α}
    (move : Move settings kind before after) (ignores : IgnoresSetter tell)
    (adds : kind ≠ .addProperty)
    (renames : kind = .renameProperties → ∀ property name,
      tell { property with name } = tell property) (place : ClassId) :
    (after.classAt place).properties.map tell = (before.classAt place).properties.map tell := by
  rcases move.classAt_step place with same | step
  · rw [same]
  · generalize before.classAt place = content at step
    generalize after.classAt place = changed at step
    cases step with
    | addProperty => exact absurd rfl adds
    | addSetter => exact Accessors.map_setLast ignores _ _
    | renameProperties names =>
        dsimp only
        rw [List.map_map]
        exact List.map_congr_left fun property _ => renames rfl property _
    | allocate =>
        rw [Class.withAlloc]
        split <;> rfl
    | deallocate =>
        rw [Class.withDealloc]
        split <;> rfl
    | _ => rfl

namespace Forest

/-- The getters of the properties of a class, each with whether its property is static. -/
def folds (forest : Forest) (c : ClassId) : List (FunctionId × Bool) :=
  (forest.classAt c).properties.map fun property => (property.getter, property.isStatic)

theorem mem_folds_iff {entry : FunctionId × Bool} : entry ∈ forest.folds c ↔
    ∃ property ∈ (forest.classAt c).properties,
      property.getter = entry.1 ∧ property.isStatic = entry.2 := by
  simp only [folds, List.mem_map, Prod.ext_iff]

theorem Sound.rests_of_mem_folds (sound : forest.Sound) {entry : FunctionId × Bool}
    (folded : entry ∈ forest.folds c) : forest.Rests entry.1 := by
  obtain ⟨property, member, isGetter, -⟩ := mem_folds_iff.1 folded
  have owned : (entry.1, .getter c property.name) ∈ (forest.classAt c).owners c :=
    isGetter ▸ Class.mem_owners_of_getter member
  exact sound.rests (mem_owners_of_class owned) (by simp) (by simp)

end Forest

/-- Only a new property brings a new getter or flag. -/
theorem Move.folds_eq (move : Move settings kind before after) (adds : kind ≠ .addProperty)
    (place : ClassId) : after.folds place = before.folds place :=
  move.map_properties_eq (fun _ _ => rfl) adds (fun _ _ _ => rfl) place

theorem Moves.folds_eq (moves : Moves settings kinds before after) (adds : .addProperty ∉ kinds)
    (place : ClassId) : after.folds place = before.folds place := by
  induction moves with
  | refl => rfl
  | tail _ last ih =>
      obtain ⟨kind, allowed, move⟩ := last
      rw [move.folds_eq (fun same => adds (same ▸ allowed)), ih]

/-- What of a method decides whether and how it is folded. -/
def Function.heading (function : Function) : String × List Argument × Bool :=
  (function.name, function.params, function.isStatic)

section Heading

variable {function other : Function}

theorem params_of_heading (same : function.heading = other.heading) :
    function.params = other.params :=
  congrArg (·.2.1) same

theorem isStatic_of_heading (same : function.heading = other.heading) :
    function.isStatic = other.isStatic :=
  congrArg (·.2.2) same

end Heading

namespace Accessors

/-- Whether the property that a method becomes is static: the method is, takes no parameters, and
is not taken for a getter by its name, which makes it the property of an instance. -/
def foldsStatic (settings : Settings) (function : Function) : Bool :=
  function.isStatic && function.params.isEmpty &&
    !Text.contains function.name settings.markers.getter

theorem foldsStatic_of_heading {function other : Function}
    (same : function.heading = other.heading) :
    foldsStatic settings function = foldsStatic settings other := by
  have name : function.name = other.name := congrArg (·.1) same
  rw [foldsStatic, foldsStatic, name, params_of_heading same, isStatic_of_heading same]

theorem Bound.of_heading {function other : Function} (bound : Bound function)
    (same : other.heading = function.heading) : Bound other := by
  intro isStatic
  rw [params_of_heading same]
  exact bound (isStatic_of_heading same ▸ isStatic)

theorem heading_dropSuccess (function : Function) :
    (dropSuccess function).heading = function.heading := by
  rcases dropSuccess_cases function with same | ⟨-, dropped⟩
  · rw [same]
  · rw [dropped]
    rfl

/-- What forming members does to methods and properties: methods leave and the others keep their
headings, properties stay, those that come are made of methods with the flags that these call for,
and no method without parameters leaves in another way. -/
structure Synthesizes (settings : Settings) (before after : Forest) : Prop where
  stays : ∀ c, ∀ id ∈ after.methods c, id ∈ before.methods c ∧
    (after.functionAt id).heading = (before.functionAt id).heading
  kept : ∀ c, before.folds c ⊆ after.folds c
  made : ∀ c, ∀ entry ∈ after.folds c, entry ∈ before.folds c ∨
    entry.1 ∈ before.methods c ∧ entry.2 = foldsStatic settings (before.functionAt entry.1)
  taken : ∀ c, ∀ id ∈ before.methods c, (before.functionAt id).params = [] →
    id ∈ after.methods c ∨ (id, foldsStatic settings (before.functionAt id)) ∈ after.folds c

namespace Synthesizes

theorem refl (forest : Forest) : Synthesizes settings forest forest where
  stays := fun _ _ isMethod => ⟨isMethod, rfl⟩
  kept := fun _ => List.Subset.refl _
  made := fun _ _ => .inl
  taken := fun _ _ isMethod _ => .inl isMethod

theorem trans (first : Synthesizes settings before middle)
    (second : Synthesizes settings middle after) : Synthesizes settings before after where
  stays := by
    intro c id isMethod
    obtain ⟨wasMethod, later⟩ := second.stays c id isMethod
    obtain ⟨isFirst, earlier⟩ := first.stays c id wasMethod
    exact ⟨isFirst, later.trans earlier⟩
  kept := fun c => List.Subset.trans (first.kept c) (second.kept c)
  made := by
    intro c entry folded
    rcases second.made c entry folded with old | ⟨wasMethod, flag⟩
    · exact first.made c entry old
    · obtain ⟨isFirst, same⟩ := first.stays c entry.1 wasMethod
      exact .inr ⟨isFirst, flag.trans (foldsStatic_of_heading same)⟩
  taken := by
    intro c id isMethod none
    rcases first.taken c id isMethod none with still | folded
    · obtain ⟨-, same⟩ := first.stays c id still
      have stillNone : (middle.functionAt id).params = [] := (params_of_heading same).trans none
      rw [← foldsStatic_of_heading same]
      exact second.taken c id still stillNone
    · exact .inr (second.kept c folded)

theorem modifyFunction {change : Function → Function}
    (same : (change (forest.functionAt id)).heading = (forest.functionAt id).heading) :
    Synthesizes settings forest (forest.modifyFunction id change) where
  stays := by
    intro c other isMethod
    refine ⟨isMethod, ?_⟩
    by_cases isEdited : other = id
    · subst isEdited
      rcases forest.functionAt_modifyFunction_or other change with changed | ⟨absent, still⟩
      · rw [changed, same]
      · rw [still, absent]
    · rw [Forest.functionAt_modifyFunction_of_ne isEdited]
  kept := fun _ => List.Subset.refl _
  made := fun _ _ => .inl
  taken := fun _ _ isMethod _ => .inl isMethod

theorem stays_of_sheds (sheds : before.Sheds after) (c : ClassId) :
    ∀ id ∈ after.methods c, id ∈ before.methods c ∧
      (after.functionAt id).heading = (before.functionAt id).heading := by
  intro id isMethod
  have narrows := sheds (· = before.functionAt id)
  refine ⟨(narrows.methods c).subset isMethod, ?_⟩
  rw [narrows.keeps c id isMethod rfl]

end Synthesizes

section Steps

variable {name : String} {isStatic : Bool} {rest : List FunctionId}

theorem map_properties_addProperty {α : Type} (tell : Property → α)
    (isMethod : id ∈ draft.forest.methods c) (place : ClassId) :
    ((addProperty settings draft c id name isStatic).forest.classAt place).properties.map tell =
      (draft.forest.classAt place).properties.map tell ++
        if place = c then [tell { name, getter := id, setter := none, isStatic }] else [] := by
  split
  · rename_i same
    subst same
    rw [classAt_addProperty isMethod]
    simp
  · rename_i different
    rw [forest_addProperty, Forest.classAt_modifyClass_of_ne different, List.append_nil]
    rfl

theorem folds_addProperty (isMethod : id ∈ draft.forest.methods c) (place : ClassId) :
    (addProperty settings draft c id name isStatic).forest.folds place =
      draft.forest.folds place ++ if place = c then [(id, isStatic)] else [] :=
  map_properties_addProperty _ isMethod place

theorem methods_addProperty_of_ne {place : ClassId} (different : place ≠ c) :
    (addProperty settings draft c id name isStatic).forest.methods place =
      draft.forest.methods place := by
  rw [forest_addProperty, Forest.methods, Forest.classAt_modifyClass_of_ne different]
  rfl

/-- A method becomes a property with the flag that it calls for. -/
theorem synthesizes_addProperty (sound : draft.forest.Sound)
    (isMethod : id ∈ draft.forest.methods c)
    (flag : foldsStatic settings (draft.forest.functionAt id) = isStatic) :
    Synthesizes settings draft.forest
      (addProperty settings draft c id name isStatic).forest where
  stays := Synthesizes.stays_of_sheds (sheds_addProperty sound isMethod).1
  kept := by
    intro place
    rw [folds_addProperty isMethod]
    exact List.subset_append_left _ _
  made := by
    intro place entry folded
    rw [folds_addProperty isMethod] at folded
    rcases List.mem_append.1 folded with old | isNew
    · exact .inl old
    · split at isNew
      · rename_i same
        rw [List.mem_singleton.1 isNew, same]
        exact .inr ⟨isMethod, flag.symm⟩
      · cases isNew
  taken := by
    intro place other isOther _
    by_cases here : place = c
    · subst here
      by_cases same : other = id
      · right
        rw [folds_addProperty isMethod, if_pos rfl, same, flag]
        exact List.mem_append_right _ (List.mem_singleton_self _)
      · left
        rw [methods_addProperty isMethod]
        exact (List.mem_erase_of_ne same).2 isOther
    · left
      rwa [methods_addProperty_of_ne here]

theorem map_properties_addSetter {α : Type} {tell : Property → α} (ignores : IgnoresSetter tell)
    (place : ClassId) :
    ((addSetter settings draft c id).forest.classAt place).properties.map tell =
      (draft.forest.classAt place).properties.map tell := by
  rw [addSetter, Draft.forest_modifyClass]
  rcases Forest.classAt_modifyClass_or
    (draft.modifyFunction id (·.rename settings.canonical.setter)).forest c
    (fun c => { c.removeMethod id with properties := setLast id c.properties }) place with
    old | ⟨rfl, changed⟩
  · rw [old]
    rfl
  · rw [changed]
    exact map_setLast ignores id _

theorem folds_addSetter (place : ClassId) :
    (addSetter settings draft c id).forest.folds place = draft.forest.folds place :=
  map_properties_addSetter (fun _ _ => rfl) place

/-- A method with parameters becomes a setter. -/
theorem synthesizes_addSetter (sound : draft.forest.Sound) (isMethod : id ∈ draft.forest.methods c)
    (takes : (draft.forest.functionAt id).params ≠ []) :
    Synthesizes settings draft.forest (addSetter settings draft c id).forest where
  stays := Synthesizes.stays_of_sheds (sheds_addSetter sound isMethod)
  kept := by
    intro place
    rw [folds_addSetter]
    exact List.Subset.refl _
  made := by
    intro place entry folded
    rw [folds_addSetter] at folded
    exact .inl folded
  taken := by
    intro place other isOther none
    have different : other ≠ id := fun same => takes (same ▸ none)
    left
    by_cases here : place = c
    · subst here
      rw [methods_addSetter isMethod]
      exact (List.mem_erase_of_ne different).2 isOther
    · rw [addSetter, Draft.forest_modifyClass, Forest.methods,
        Forest.classAt_modifyClass_of_ne here]
      exact isOther

theorem synthesizes_foldAccessor (sound : draft.forest.Sound)
    (remain : GettersRemain c (id :: rest) draft.forest) :
    Synthesizes settings draft.forest (foldAccessor settings c id draft).forest := by
  have added {name : String} (getter : Getter settings (draft.forest.functionAt id) name) :
      Synthesizes settings draft.forest
        (addProperty settings draft c id name false).forest := by
    have flag : foldsStatic settings (draft.forest.functionAt id) = false := by
      rw [foldsStatic, getter.marked, Bool.not_true, Bool.and_false]
    exact synthesizes_addProperty sound (remain.isMethod getter) flag
  have folding := folding_foldAccessor settings c id draft
  generalize foldAccessor settings c id draft = folded at folding ⊢
  cases folding with
  | skip => exact .refl _
  | property getter => exact added getter
  | @accessors name setter getter isSetter called single =>
      have moves : Moves settings {.edit .rename, .addProperty} draft.forest
          (addProperty settings draft c id name false).forest :=
        moves_addProperty (remain.isMethod getter) (by simp) (by simp)
      have takesOne := List.ne_nil_of_length_eq_add_one single
      exact (added getter).trans (synthesizes_addSetter (moves.sound sound) isSetter takesOne)

end Steps

/-! ## The passes -/

/-- What is kept by folding one accessor is kept by folding all of them. -/
theorem holds_foldAccessors {Invariant : Forest → Prop}
    (each : ∀ {draft : Draft} {c : ClassId} {id : FunctionId} {rest : List FunctionId},
      draft.forest.Sound → GettersRemain c (id :: rest) draft.forest → Invariant draft.forest →
        Invariant (foldAccessor settings c id draft).forest)
    (sound : draft.forest.Sound) (start : Invariant draft.forest) :
    Invariant (foldAccessors settings draft).forest := by
  have loop : LoopInvariant (fun forest => forest.Sound ∧ Invariant forest)
      (fun c rest forest => (forest.Sound ∧ Invariant forest) ∧ GettersRemain c rest forest) :=
    .beside fun c facts => .start facts.1 c
  refine (holds_forEachMethod loop (fun facts => ?_) ⟨sound, start⟩).2
  obtain ⟨⟨sound, invariant⟩, remain⟩ := facts
  obtain ⟨moves, remaining⟩ := @moves_foldAccessor settings _ _ _ _ remain
  exact ⟨⟨moves.sound sound, each sound remain invariant⟩, remaining⟩

/-- What is kept by adding a property for a good method is kept by a pass that adds some, all with
one flag. -/
theorem holds_addProperties {Invariant : Forest → Prop} {Good : Function → Prop}
    {Fits : FunctionId → Draft → Prop} {step : ClassId → FunctionId → Draft → Draft}
    {name : FunctionId → Draft → String} {isStatic : Bool}
    (adds : ∀ c id draft, Good (draft.forest.functionAt id) →
      step c id draft = addProperty settings draft c id (name id draft) isStatic ∧ Fits id draft ∨
        step c id draft = draft)
    (each : ∀ {draft : Draft} {c : ClassId} {id : FunctionId}, draft.forest.Sound →
      id ∈ draft.forest.methods c → Good (draft.forest.functionAt id) → Fits id draft →
        Invariant draft.forest →
          Invariant (addProperty settings draft c id (name id draft) isStatic).forest)
    (sound : draft.forest.Sound) (all : draft.forest.AllMethods Good)
    (start : Invariant draft.forest) : Invariant (draft.forEachMethod step).forest := by
  have loop : LoopInvariant
      (fun forest => (forest.Sound ∧ forest.AllMethods Good) ∧ Invariant forest)
      (fun c rest forest => ((forest.Sound ∧ forest.AllMethods Good) ∧ Invariant forest) ∧
        MethodsRemain c rest forest) :=
    .beside fun c facts => .start facts.1.1 c
  refine (holds_forEachMethod loop (fun {draft} {c} {id} {rest} facts => ?_)
    ⟨⟨sound, all⟩, start⟩).2
  obtain ⟨⟨⟨sound, all⟩, invariant⟩, remain⟩ := facts
  have isMethod := remain.2 id List.mem_cons_self
  rcases adds c id draft (all c id isMethod) with ⟨folded, fits⟩ | skipped
  · obtain ⟨moves, remaining⟩ :=
      @moves_addProperty_remain settings draft c id (name id draft) isStatic rest remain
    have sheds := (@sheds_addProperty settings draft c id (name id draft) isStatic sound isMethod).1
    have kept := each sound isMethod (all c id isMethod) fits invariant
    rw [folded]
    exact ⟨⟨⟨moves.sound sound, (sheds Good).allMethods all⟩, kept⟩, remaining⟩
  · rw [skipped]
    exact ⟨⟨⟨sound, all⟩, invariant⟩, remain.tail⟩

variable (settings)

theorem synthesizes_foldAccessors (sound : draft.forest.Sound) :
    Synthesizes settings draft.forest (foldAccessors settings draft).forest :=
  holds_foldAccessors (fun sound remain synthesizes =>
    synthesizes.trans (synthesizes_foldAccessor sound remain)) sound (.refl _)

theorem synthesizes_dropSuccessReturns (draft : Draft) :
    Synthesizes settings draft.forest (dropSuccessReturns draft).forest :=
  holds_forEachMethod (.same _)
    (fun synthesizes => synthesizes.trans (.modifyFunction (heading_dropSuccess _))) (.refl _)

variable {settings}

/-- A pass that folds methods with one flag forms members if good methods call for that flag. -/
theorem synthesizes_forEachMethod {Good : Function → Prop}
    {step : ClassId → FunctionId → Draft → Draft} {name : FunctionId → Draft → String}
    {isStatic : Bool}
    (adds : ∀ c id draft, Good (draft.forest.functionAt id) →
      step c id draft = addProperty settings draft c id (name id draft) isStatic ∧
          foldsStatic settings (draft.forest.functionAt id) = isStatic ∨
        step c id draft = draft)
    (sound : draft.forest.Sound) (all : draft.forest.AllMethods Good) :
    Synthesizes settings draft.forest (draft.forEachMethod step).forest :=
  holds_addProperties adds (fun sound isMethod _ flag synthesizes =>
    synthesizes.trans (synthesizes_addProperty sound isMethod flag)) sound all (.refl _)

/-- The static methods without parameters that are left are no getters by name. -/
theorem synthesizes_foldStatics (sound : draft.forest.Sound)
    (unfolded : draft.forest.AllMethods (Unfolded settings)) :
    Synthesizes settings draft.forest (foldStatics settings draft).forest := by
  let name (id : FunctionId) (draft : Draft) : String :=
    Text.replaceAll (draft.forest.functionAt id).name settings.markers.getter ""
  refine @synthesizes_forEachMethod settings draft (Unfolded settings) (foldStatic settings) name
    true (fun c id draft unfolded => ?_) sound unfolded
  rw [foldStatic]
  split
  · rename_i taken
    obtain ⟨-, noParams⟩ := Bool.and_eq_true_iff.1 taken
    have unnamed :
        Text.contains (draft.forest.functionAt id).name settings.markers.getter = false :=
      Bool.eq_false_of_not_eq_true fun named => unfolded named (List.isEmpty_iff.1 noParams)
    refine .inl ⟨rfl, ?_⟩
    rw [foldsStatic, taken, unnamed]
    rfl
  · exact .inr rfl

/-- No static method without parameters is left for the passes after that. -/
theorem synthesizes_foldForcedProperties (sound : draft.forest.Sound)
    (bound : draft.forest.AllMethods Bound) :
    Synthesizes settings draft.forest (foldForcedProperties settings draft).forest := by
  let name (id : FunctionId) (draft : Draft) : String := (draft.forest.functionAt id).name
  refine @synthesizes_forEachMethod settings draft Bound (foldForced settings) name false
    (fun c id draft bound => ?_) sound bound
  rw [foldForced]
  split
  · refine .inl ⟨rfl, ?_⟩
    cases isStatic : (draft.forest.functionAt id).isStatic with
    | false => rw [foldsStatic, isStatic, Bool.false_and, Bool.false_and]
    | true =>
        have takes : (draft.forest.functionAt id).params.isEmpty = false := by
          simpa using bound isStatic
        rw [foldsStatic, takes, Bool.and_false, Bool.false_and]
  · exact .inr rfl

end Accessors

namespace Conversion

open Accessors

/-- Once accessors are folded, no method is a getter by its name, whatever returns are dropped. -/
theorem unfolded_dropSuccessReturns (sound : draft.forest.Sound) :
    (dropSuccessReturns (foldAccessors settings draft)).forest.AllMethods (Unfolded settings) := by
  have all : draft.forest.AllMethods fun _ => True := fun _ _ _ => trivial
  have unfolded : (foldAccessors settings draft).forest.AllMethods (Unfolded settings) :=
    (unfolded_foldAccessors settings sound all).imp fun _ facts => facts.2
  exact (narrows_forEachMethod_modify (fun _ facts => facts.dropSuccess) _).allMethods unfolded

/-- Forming members leaves no static method without parameters. -/
theorem synthesizes_formMembers (sound : draft.forest.Sound) :
    Synthesizes settings draft.forest (formMembers settings draft).forest ∧
      (formMembers settings draft).forest.AllMethods Bound := by
  rw [formMembers]
  have unfolded := @unfolded_dropSuccessReturns settings draft sound
  have soundFolded := (makes_foldAccessors settings).sound_ofTotal sound
  have soundDropped := (makes_dropSuccessReturns settings).sound_ofTotal soundFolded
  have bound : (foldStatics settings (dropSuccessReturns
      (foldAccessors settings draft))).forest.AllMethods Bound :=
    (bound_foldStatics settings soundDropped unfolded).imp fun _ facts => facts.2
  have soundBound := (makes_foldStatics settings).sound_ofTotal soundDropped
  have forced := @synthesizes_foldForcedProperties settings _ soundBound bound
  have statics := synthesizes_foldStatics soundDropped unfolded
  refine ⟨(synthesizes_foldAccessors settings sound).trans
    ((synthesizes_dropSuccessReturns settings _).trans (statics.trans forced)), ?_⟩
  intro c id isMethod
  obtain ⟨wasMethod, same⟩ := forced.stays c id isMethod
  exact (bound c id wasMethod).of_heading same

theorem sound_formMembers (sound : draft.forest.Sound) :
    (formMembers settings draft).forest.Sound := by
  have folded := (makes_foldAccessors settings).sound_ofTotal sound
  have dropped := (makes_dropSuccessReturns settings).sound_ofTotal folded
  have bound := (makes_foldStatics settings).sound_ofTotal dropped
  exact (makes_foldForcedProperties settings).sound_ofTotal bound

theorem folds_applyRenames (sound : draft.forest.Sound) (c : ClassId) :
    (Corrections.applyRenames settings draft).forest.folds c = draft.forest.folds c :=
  (Corrections.makes_applyRenames settings draft sound).folds_eq (by simp) c

/-- Everything that is done for a header before its members are formed. -/
def beforeMembers (settings : Settings) (rootClass : String) (header : HeaderDeclarations) :
    List Pass :=
  beforeInitializers settings rootClass header ++
    [Pass.ofTotal (Corrections.extractInitializers settings)]

variable {rootClass : String} {header : HeaderDeclarations} {start : Draft}
  {headers : List HeaderDeclarations}

theorem exists_course_of_ok
    (finished : Pass.run (passes settings rootClass header) start = .ok final) :
    ∃ course : Course settings rootClass header start final,
      Pass.run (beforeMembers settings rootClass header) start = .ok course.initialized := by
  obtain ⟨course, before⟩ := exists_course finished
  have initializes : Pass.ofTotal (Corrections.extractInitializers settings) course.sized =
      .ok course.initialized := rfl
  exact ⟨course, Pass.run_append_of_ok before (Pass.run_cons_of_ok initializes rfl)⟩

namespace Course

variable (course : Course settings rootClass header start final)

include course in
theorem forest_final : final.forest =
    (Corrections.applyRenames settings (formMembers settings course.initialized)).forest := by
  have ends := (run_memberPasses settings header course.initialized).symm.trans course.ends
  exact (congrArg Draft.forest (Except.ok.inj ends).symm).trans (forest_noteDone header _)

variable (sound : start.forest.Sound)

include sound

/-- Until members are formed, no property is added and none gets another name. -/
theorem moves_initialized_of_start :
    Moves settings {kind | kind ≠ .addProperty ∧ kind ≠ .renameProperties}
      start.forest course.initialized.forest := by
  apply Moves.trans ((course.moves_hoisted_of_start sound).mono _)
  apply Moves.trans ((course.moves_listened_of_hoisted sound).mono _)
  apply Moves.trans ((course.moves_handled sound).mono _)
  apply (course.moves_initialized_of_handled sound).mono _
  all_goals simp [takeKinds, hoistKinds, handleKinds, referKinds, promoteKinds, sizeKinds,
    Set.subset_def]

theorem folds_initialized (c : ClassId) :
    course.initialized.forest.folds c = start.forest.folds c :=
  (course.moves_initialized_of_start sound).folds_eq (by simp) c

theorem folds_final (c : ClassId) :
    final.forest.folds c = (formMembers settings course.initialized).forest.folds c := by
  have soundFormed := @sound_formMembers settings _ (course.sound_initialized sound)
  rw [course.forest_final, folds_applyRenames soundFormed]

/-- The properties that a header leaves are old ones and those of methods it had before members were
formed, and every static method without parameters is among these. -/
theorem synthesizes_final :
    (∀ c, start.forest.folds c ⊆ final.forest.folds c) ∧
      (∀ c, ∀ entry ∈ final.forest.folds c, entry ∈ start.forest.folds c ∨
        entry.1 ∈ course.initialized.forest.methods c ∧
          entry.2 = foldsStatic settings (course.initialized.forest.functionAt entry.1)) ∧
      ∀ c, ∀ id ∈ course.initialized.forest.methods c,
        (course.initialized.forest.functionAt id).isStatic = true →
        (course.initialized.forest.functionAt id).params = [] →
        (id, foldsStatic settings (course.initialized.forest.functionAt id)) ∈
          final.forest.folds c := by
  obtain ⟨synthesizes, bound⟩ :=
    @synthesizes_formMembers settings _ (course.sound_initialized sound)
  simp only [course.folds_final sound, ← course.folds_initialized sound]
  refine ⟨synthesizes.kept, synthesizes.made, fun c id isMethod isStatic none => ?_⟩
  refine (synthesizes.taken c id isMethod none).resolve_left fun still => ?_
  obtain ⟨-, same⟩ := synthesizes.stays c id still
  exact ((bound c id still).of_heading same.symm) isStatic none

/-- Forming members leaves parameters and static functions as they are. -/
theorem call_final {id : FunctionId} (present : id < course.initialized.forest.functionCount) :
    (final.forest.functionAt id).isStatic = (course.initialized.forest.functionAt id).isStatic ∧
      (final.forest.functionAt id).params = (course.initialized.forest.functionAt id).params := by
  refine (course.moves_final sound).functionAt_induction
    (fun function => function.isStatic = (course.initialized.forest.functionAt id).isStatic ∧
      function.params = (course.initialized.forest.functionAt id).params)
    present ⟨rfl, rfl⟩ fun allowed step same => ?_
  cases step with
  | descend => simp [memberKinds] at allowed
  | edit edited =>
      cases edited with
      | rename => exact same
      | dropSuccess =>
          exact ⟨(isStatic_of_heading (heading_dropSuccess _)).trans same.1,
            (params_of_heading (heading_dropSuccess _)).trans same.2⟩
      | _ => simp [memberKinds] at allowed

end Course

/-! ## Whole runs -/

/-- What is known of the properties after some headers: each comes from a method as it was when the
members of its header were formed, and static methods without parameters have all become
properties. -/
structure Folded (settings : Settings) (headers : List HeaderDeclarations) (forest : Forest) :
    Prop where
  told : ∀ c, ∀ entry ∈ forest.folds c, ∃ origin,
    After (beforeMembers settings) settings headers origin ∧
    entry.1 ∈ origin.forest.methods c ∧
    entry.2 = foldsStatic settings (origin.forest.functionAt entry.1) ∧
    (forest.functionAt entry.1).isStatic = (origin.forest.functionAt entry.1).isStatic ∧
    (forest.functionAt entry.1).params = (origin.forest.functionAt entry.1).params
  all : ∀ c origin, After (beforeMembers settings) settings headers origin →
    ∀ id ∈ origin.forest.methods c,
    (origin.forest.functionAt id).isStatic = true → (origin.forest.functionAt id).params = [] →
    (id, foldsStatic settings (origin.forest.functionAt id)) ∈ forest.folds c

theorem Folded.next {done : List HeaderDeclarations} (folded : Folded settings done start.forest)
    (turn : Turn settings done header rootClass start final) :
    Folded settings (done ++ [header]) final.forest := by
  obtain ⟨course, before⟩ := exists_course_of_ok turn.finished
  have sound := turn.sound
  obtain ⟨kept, made, all⟩ := course.synthesizes_final sound
  have soundInitialized := course.sound_initialized sound
  constructor
  · intro c entry isFold
    rcases made c entry isFold with old | ⟨isMethod, flag⟩
    · obtain ⟨origin, after, wasMethod, flag, isStatic, params⟩ := folded.told c entry old
      have same := (rests_of_finished sound (sound.rests_of_mem_folds old) turn.finished).2.function
      rw [← same] at isStatic params
      exact ⟨origin, after.append _, wasMethod, flag, isStatic, params⟩
    · obtain ⟨isStatic, params⟩ :=
        course.call_final sound (soundInitialized.lt_of_mem_methods isMethod)
      exact ⟨course.initialized, turn.after before, isMethod, flag, isStatic, params⟩
  · intro c origin after id isMethod isStatic none
    rcases turn.after_cases after with old | ran
    · exact kept c (folded.all c origin old id isMethod isStatic none)
    · obtain rfl := Except.ok.inj (before.symm.trans ran)
      exact all c id isMethod isStatic none

theorem folded_convert {declarations : DeclarationSet} {result : Result}
    (converted : convert settings declarations = .ok result) :
    Folded settings declarations.headers result.draft.forest :=
  turn_induction (Folded settings)
    ⟨fun _ _ isFold => (nomatch isFold), fun _ _ after => absurd after not_after_nil⟩
    (fun turn folded => folded.next turn) converted

/-- The getter of a static property is static itself and takes no parameters. -/
theorem Folded.getter_of_static (folded : Folded settings headers forest)
    (isFold : (id, true) ∈ forest.folds c) :
    (forest.functionAt id).isStatic = true ∧ (forest.functionAt id).params = [] := by
  obtain ⟨origin, -, -, flag, isStatic, params⟩ := folded.told c _ isFold
  obtain ⟨static, none⟩ := Bool.and_eq_true_iff.1 (Bool.and_eq_true_iff.1 flag.symm).1
  exact ⟨isStatic.trans static, params.trans (List.isEmpty_iff.1 none)⟩

/-- A property of a finished conversion is static exactly when its getter is, takes no parameters,
and did not go by a getter's name when the members of its header were formed.  Every static method
without parameters becomes a property then, and the name decides on its flag. -/
theorem isStatic_properties_convert {declarations : DeclarationSet} {result : Result}
    (converted : convert settings declarations = .ok result) :
    (∀ c, ∀ property ∈ (result.draft.forest.classAt c).properties,
      ∃ origin, After (beforeMembers settings) settings declarations.headers origin ∧
        property.getter ∈ origin.forest.methods c ∧
        (result.draft.forest.functionAt property.getter).isStatic =
          (origin.forest.functionAt property.getter).isStatic ∧
        (result.draft.forest.functionAt property.getter).params =
          (origin.forest.functionAt property.getter).params ∧
        property.isStatic =
          ((result.draft.forest.functionAt property.getter).isStatic &&
            (result.draft.forest.functionAt property.getter).params.isEmpty &&
            !Text.contains (origin.forest.functionAt property.getter).name
              settings.markers.getter)) ∧
      ∀ c origin, After (beforeMembers settings) settings declarations.headers origin →
        ∀ id ∈ origin.forest.methods c, (origin.forest.functionAt id).isStatic = true →
          (origin.forest.functionAt id).params = [] →
          ∃ property ∈ (result.draft.forest.classAt c).properties, property.getter = id ∧
            property.isStatic =
              !Text.contains (origin.forest.functionAt id).name settings.markers.getter := by
  have folded := folded_convert converted
  constructor
  · intro c property member
    obtain ⟨origin, after, isMethod, flag, isStatic, params⟩ :=
      folded.told c (property.getter, property.isStatic)
        (Forest.mem_folds_iff.2 ⟨property, member, rfl, rfl⟩)
    refine ⟨origin, after, isMethod, isStatic, params, ?_⟩
    rw [isStatic, params]
    exact flag
  · intro c origin after id isMethod isStatic none
    obtain ⟨property, member, isGetter, flag⟩ :=
      Forest.mem_folds_iff.1 (folded.all c origin after id isMethod isStatic none)
    refine ⟨property, member, isGetter, flag.trans ?_⟩
    rw [foldsStatic, isStatic, none]
    rfl

/-- A version that is told without any object. -/
def libraryVersion : DeclarationSet where
  headers := [{
    file := "tox.h"
    functions := [{ name := "tox_version_major", returnType := { name := "uint32_t" } }] }]

theorem isStatic_libraryVersion :
    ∃ result property origin, convert Settings.default libraryVersion = .ok result ∧
      property ∈ (result.draft.forest.classAt 0).properties ∧ property.isStatic = true ∧
      After (beforeMembers Settings.default) Settings.default libraryVersion.headers origin ∧
      property.getter ∈ origin.forest.methods 0 ∧
      (origin.forest.functionAt property.getter).isStatic = true ∧
      (origin.forest.functionAt property.getter).params = [] ∧
      ∃ again ∈ (result.draft.forest.classAt 0).properties, again.getter = property.getter ∧
        again.isStatic = true := by
  obtain ⟨result, converted, known⟩ := exists_converted
    (fun result => (result.draft.forest.classAt 0).properties.map (·.isStatic))
    (show (convert Settings.default libraryVersion).toOption.map _ = some [true] by decide +kernel)
  obtain ⟨property, member, isStatic⟩ := List.mem_map.1 (known ▸ List.mem_singleton_self true)
  obtain ⟨told, folds⟩ := isStatic_properties_convert converted
  obtain ⟨origin, after, isMethod, sameStatic, sameParams, flag⟩ := told 0 property member
  rw [isStatic, sameStatic, sameParams] at flag
  obtain ⟨both, unnamed⟩ := Bool.and_eq_true_iff.1 flag.symm
  obtain ⟨static, noParams⟩ := Bool.and_eq_true_iff.1 both
  have none := List.isEmpty_iff.1 noParams
  obtain ⟨again, isAgain, isGetter, sameFlag⟩ :=
    folds 0 origin after property.getter isMethod static none
  have alsoStatic := sameFlag.trans unnamed
  exact ⟨result, property, origin, converted, member, isStatic, after, isMethod, static, none,
    again, isAgain, isGetter, alsoStatic⟩

/-- The same, with the name of a getter. -/
def libraryVersionGetter : DeclarationSet where
  headers := [{
    file := "tox.h"
    functions := [{ name := "tox_get_version", returnType := { name := "uint32_t" } }] }]

/-- The getter is static and takes no parameters, but its property is one of instances. -/
theorem not_isStatic_libraryVersionGetter :
    ∃ result, convert Settings.default libraryVersionGetter = .ok result ∧
      (result.draft.forest.classAt 0).properties =
        [{ name := "version", getter := 0, setter := none, isStatic := false }] ∧
      (result.draft.forest.functionAt 0).isStatic = true ∧
      (result.draft.forest.functionAt 0).params = [] := by
  obtain ⟨result, converted, known⟩ := exists_converted
    (fun result => decide ((result.draft.forest.classAt 0).properties =
        [{ name := "version", getter := 0, setter := none, isStatic := false }] ∧
      (result.draft.forest.functionAt 0).isStatic = true ∧
      (result.draft.forest.functionAt 0).params = []))
    (show (convert Settings.default libraryVersionGetter).toOption.map _ = some true by
      decide +kernel)
  exact ⟨result, converted, of_decide_eq_true known⟩

end Conversion

end Bindery
