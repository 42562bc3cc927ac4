import Bindery.Proofs.Marks
import Bindery.Proofs.Synthesis

/-!
# What properties are named and what they yield

Three passes fold methods into properties, and none of them looks at the properties that the class
has.  A property is named by what is left of the name of its method without the marker of getters,
and is renamed by the table of its class once with its own header and once with every later one.  So
two methods whose names differ in the marker only give two properties of one name.  Nor do the
passes look at what a method returns: one that returns nothing is folded like any other, and one
that throws has lost the truth value that it returned unless its name made it a getter before.
-/

namespace Bindery

variable {settings : Settings} {kind : MoveKind} {kinds : Set MoveKind} {draft final : Draft}
  {before after forest origin : Forest} {c : ClassId} {id : FunctionId}

namespace Text

theorem Chars.replaceFrom_eq_self {pattern replacement text : List Char}
    (absent : ¬pattern <:+: text) : Chars.replaceFrom pattern replacement 0 text = text := by
  have notEmpty : pattern.isEmpty = false := by
    cases pattern with
    | nil => exact absurd (List.nil_infix) absent
    | cons => rfl
  induction text with
  | nil => rw [replaceFrom, notEmpty]; rfl
  | cons first rest ih =>
      have notHere : pattern.isPrefixOf (first :: rest) = false := by
        rw [Bool.eq_false_iff]
        exact fun isHere => absent (List.isPrefixOf_iff_prefix.1 isHere).isInfix
      have notLater : ¬pattern <:+: rest := fun later =>
        absent (later.trans (List.suffix_cons first rest).isInfix)
      rw [replaceFrom, notEmpty, notHere, ih notLater]
      rfl

theorem replaceAll_eq_self {text pattern : String} (replacement : String)
    (absent : contains text pattern = false) : replaceAll text pattern replacement = text := by
  have notInfix : ¬pattern.toList <:+: text.toList := by
    rw [← contains_iff, absent]
    exact Bool.false_ne_true
  rw [replaceAll, Chars.replaceFrom_eq_self notInfix, String.ofList_toList]

end Text

/-! ## Getters and names -/

namespace Forest

/-- The getters of the properties of a class, each with the name of its property. -/
def labels (forest : Forest) (c : ClassId) : List (FunctionId × String) :=
  (forest.classAt c).properties.map fun property => (property.getter, property.name)

theorem mem_labels_iff {entry : FunctionId × String} : entry ∈ forest.labels c ↔
    ∃ property ∈ (forest.classAt c).properties,
      property.getter = entry.1 ∧ property.name = entry.2 := by
  simp only [labels, List.mem_map, Prod.ext_iff]

theorem lt_size_of_mem_labels {entry : FunctionId × String}
    (isLabel : entry ∈ forest.labels c) : c < forest.hierarchy.size := by
  by_contra beyond
  rw [labels, classAt_of_size_le (Nat.le_of_not_lt beyond)] at isLabel
  cases isLabel

theorem Sound.rests_of_mem_labels (sound : forest.Sound) {entry : FunctionId × String}
    (isLabel : entry ∈ forest.labels c) : forest.Rests entry.1 := by
  obtain ⟨property, member, isGetter, -⟩ := mem_labels_iff.1 isLabel
  have folded : (entry.1, property.isStatic) ∈ forest.folds c :=
    mem_folds_iff.2 ⟨property, member, isGetter, rfl⟩
  exact sound.rests_of_mem_folds folded

/-- Renaming a function changes nothing but its name. -/
theorem tell_functionAt_rename {α : Type} (tell : Function → α)
    (ignores : ∀ function name, tell (function.rename name) = tell function)
    {renamed : FunctionId} (name : String) :
    tell ((forest.modifyFunction renamed (·.rename name)).functionAt id) =
      tell (forest.functionAt id) := by
  by_cases same : id = renamed
  · subst same
    rcases forest.functionAt_modifyFunction_or id (·.rename name) with changed | ⟨absent, still⟩
    · rw [changed, ignores]
    · rw [still, absent]
  · rw [functionAt_modifyFunction_of_ne same]

end Forest

theorem Moves.labels_eq (moves : Moves settings kinds before after) (adds : .addProperty ∉ kinds)
    (renames : .renameProperties ∉ kinds) (place : ClassId) :
    after.labels place = before.labels place := by
  induction moves with
  | refl => rfl
  | tail _ last ih =>
      obtain ⟨kind, allowed, move⟩ := last
      rw [← ih]
      exact move.map_properties_eq (fun _ _ => rfl) (fun same => adds (same ▸ allowed))
        (fun same => absurd (same ▸ allowed) renames) place

namespace Accessors

/-! ## Forming members -/

/-- Whether a method is taken for a getter by its name. -/
def isGetter (settings : Settings) (function : Function) : Bool :=
  Text.contains function.name settings.markers.getter && function.params.isEmpty

/-- The name of the property that a method becomes. -/
def propertyName (settings : Settings) (function : Function) : String :=
  if function.params.isEmpty then Text.replaceAll function.name settings.markers.getter ""
  else function.name

/-- What the getter returns that a method becomes.  Only those that are getters by their names are
folded before returns are dropped that tell success. -/
def getterReturn (settings : Settings) (function : Function) : Return :=
  if isGetter settings function then function.ret else (dropSuccess function).ret

theorem Unfolded.isGetter_eq_false {function : Function} (unfolded : Unfolded settings function) :
    isGetter settings function = false := by
  rw [isGetter, Bool.eq_false_iff, Ne, Bool.and_eq_true, List.isEmpty_iff]
  exact fun both => unfolded both.1 both.2

theorem Unfolded.propertyName_eq {function : Function} (unfolded : Unfolded settings function) :
    propertyName settings function = function.name := by
  rw [propertyName]
  split
  · rename_i noParams
    apply Text.replaceAll_eq_self
    exact Bool.eq_false_of_not_eq_true fun named => unfolded named (List.isEmpty_iff.1 noParams)
  · rfl

theorem propertyName_dropSuccess (function : Function) :
    propertyName settings (dropSuccess function) = propertyName settings function := by
  have same := heading_dropSuccess function
  have name : (dropSuccess function).name = function.name := congrArg (·.1) same
  rw [propertyName, propertyName, params_of_heading same, name]

theorem Unfolded.of_dropSuccess {function : Function}
    (unfolded : Unfolded settings (Accessors.dropSuccess function)) :
    Unfolded settings function := by
  have same := heading_dropSuccess function
  have name : (Accessors.dropSuccess function).name = function.name := congrArg (·.1) same
  rw [Unfolded, name, params_of_heading same] at unfolded
  exact unfolded

/-- How far the members of a header are formed: methods are as they were, but for the change, and
new properties come after the old ones, with names and returns that the methods called for. -/
structure Forming (settings : Settings) (change : Function → Function) (origin forest : Forest) :
    Prop where
  methods : ∀ c, ∀ id ∈ forest.methods c, id ∈ origin.methods c ∧
    forest.functionAt id = change (origin.functionAt id)
  labels : ∀ c, ∃ new, forest.labels c = origin.labels c ++ new ∧ ∀ entry ∈ new,
    entry.1 ∈ origin.methods c ∧ entry.2 = propertyName settings (origin.functionAt entry.1) ∧
      (forest.functionAt entry.1).ret = getterReturn settings (origin.functionAt entry.1)

namespace Forming

variable {change : Function → Function} {name : String} {isStatic : Bool}

theorem start (origin : Forest) : Forming settings (fun function => function) origin origin where
  methods := fun _ _ isMethod => ⟨isMethod, rfl⟩
  labels := fun _ => ⟨[], (List.append_nil _).symm, fun _ isNew => nomatch isNew⟩

/-- What takes methods off and leaves names and returns as they are forms nothing. -/
theorem shed (forming : Forming settings change origin before) (sheds : before.Sheds after)
    (labels : ∀ c, after.labels c = before.labels c)
    (ret : ∀ id, (after.functionAt id).ret = (before.functionAt id).ret) :
    Forming settings change origin after where
  methods := by
    intro c id isMethod
    have narrows := sheds (· = before.functionAt id)
    obtain ⟨wasMethod, same⟩ := forming.methods c id ((narrows.methods c).subset isMethod)
    exact ⟨wasMethod, (narrows.keeps c id isMethod rfl).trans same⟩
  labels := by
    intro c
    obtain ⟨new, isNew, told⟩ := forming.labels c
    refine ⟨new, (labels c).trans isNew, fun entry member => ?_⟩
    rw [ret]
    exact told entry member

theorem labels_addProperty (isMethod : id ∈ draft.forest.methods c) (place : ClassId) :
    (addProperty settings draft c id name isStatic).forest.labels place =
      draft.forest.labels place ++ if place = c then [(id, name)] else [] :=
  map_properties_addProperty _ isMethod place

theorem addProperty (forming : Forming settings change origin draft.forest)
    (sound : draft.forest.Sound) (isMethod : id ∈ draft.forest.methods c)
    (isName : name = propertyName settings (origin.functionAt id))
    (yields : (draft.forest.functionAt id).ret = getterReturn settings (origin.functionAt id)) :
    Forming settings change origin
      (Accessors.addProperty settings draft c id name isStatic).forest where
  methods := by
    intro place other isOther
    have narrows := (@sheds_addProperty settings draft c id name isStatic sound isMethod).1
      (· = draft.forest.functionAt other)
    obtain ⟨wasMethod, same⟩ :=
      forming.methods place other ((narrows.methods place).subset isOther)
    exact ⟨wasMethod, (narrows.keeps place other isOther rfl).trans same⟩
  labels := by
    intro place
    have ret (other : FunctionId) : ((Accessors.addProperty settings draft c id name
        isStatic).forest.functionAt other).ret = (draft.forest.functionAt other).ret := by
      rw [forest_addProperty, Forest.functionAt_modifyClass]
      exact Forest.tell_functionAt_rename Function.ret (fun _ _ => rfl) _
    obtain ⟨new, isNew, told⟩ := forming.labels place
    simp only [ret, labels_addProperty isMethod, isNew, List.append_assoc]
    refine ⟨_, rfl, fun entry member => ?_⟩
    rcases List.mem_append.1 member with old | added
    · exact told entry old
    · split at added
      · rename_i same
        rw [List.mem_singleton.1 added, same]
        exact ⟨(forming.methods c id isMethod).1, isName, yields⟩
      · cases added

theorem addSetter (forming : Forming settings change origin draft.forest)
    (sound : draft.forest.Sound) (isMethod : id ∈ draft.forest.methods c) :
    Forming settings change origin (Accessors.addSetter settings draft c id).forest := by
  refine forming.shed (sheds_addSetter sound isMethod)
    (map_properties_addSetter fun _ _ => rfl) fun other => ?_
  exact Forest.tell_functionAt_rename Function.ret (fun _ _ => rfl) _

/-- A getter by its name becomes a property, perhaps with a setter. -/
theorem foldAccessor {rest : List FunctionId}
    (forming : Forming settings (fun function => function) origin draft.forest)
    (sound : draft.forest.Sound) (remain : GettersRemain c (id :: rest) draft.forest) :
    Forming settings (fun function => function) origin
      (Accessors.foldAccessor settings c id draft).forest := by
  have added {name : String} (getter : Getter settings (draft.forest.functionAt id) name) :
      Forming settings (fun function => function) origin
        (Accessors.addProperty settings draft c id name false).forest := by
    have isMethod := remain.isMethod getter
    obtain ⟨-, same⟩ := forming.methods c id isMethod
    have isName : name = propertyName settings (origin.functionAt id) := by
      rw [propertyName, ← same, getter.noParams, ← getter.isName]
      rfl
    have yields : (draft.forest.functionAt id).ret =
        getterReturn settings (origin.functionAt id) := by
      rw [getterReturn, Accessors.isGetter, ← same, getter.marked, getter.noParams]
      rfl
    exact forming.addProperty sound isMethod isName yields
  have folding := folding_foldAccessor settings c id draft
  generalize Accessors.foldAccessor settings c id draft = folded at folding ⊢
  cases folding with
  | skip => exact forming
  | property getter => exact added getter
  | @accessors name setter getter isSetter called single =>
      have moves : Moves settings {.edit .rename, .addProperty} draft.forest
          (Accessors.addProperty settings draft c id name false).forest :=
        moves_addProperty (remain.isMethod getter) (by simp) (by simp)
      exact (added getter).addSetter (moves.sound sound) isSetter

end Forming

/-! ## The passes -/

theorem forming_foldAccessors (sound : draft.forest.Sound) :
    Forming settings (fun function => function) draft.forest
      (foldAccessors settings draft).forest :=
  holds_foldAccessors (fun sound remain forming => forming.foldAccessor sound remain) sound
    (.start _)

/-- Dropping returns comes to every method, and to no getter. -/
theorem Forming.dropSuccessReturns
    (forming : Forming settings (fun function => function) origin draft.forest)
    (sound : draft.forest.Sound) :
    Forming settings dropSuccess origin (dropSuccessReturns draft).forest where
  methods := by
    intro c id isMethod
    have narrows : draft.forest.Narrows (fun _ => True)
        (Accessors.dropSuccessReturns draft).forest :=
      narrows_forEachMethod_modify (fun _ _ => trivial) draft
    have stays := (narrows.methods c).subset isMethod
    obtain ⟨wasMethod, same⟩ := forming.methods c id stays
    refine ⟨wasMethod, ?_⟩
    rw [Accessors.dropSuccessReturns, functionAt_forEachMethod_modify sound stays, same]
  labels := by
    intro c
    obtain ⟨new, isNew, told⟩ := forming.labels c
    have same := (makes_dropSuccessReturns settings draft sound).labels_eq (by simp) (by simp) c
    refine ⟨new, same.trans isNew, fun entry member => ?_⟩
    have isLabel : entry ∈ draft.forest.labels c := isNew ▸ List.mem_append_right _ member
    have spares : Forest.Spares entry.1 draft.forest (Accessors.dropSuccessReturns draft).forest :=
      spares_forEachMethod_modify (sound.rests_of_mem_labels isLabel).noMethod
    rw [spares.function]
    exact told entry member

/-- What the passes fold that come after returns are dropped. -/
theorem forming_forEachMethod {step : ClassId → FunctionId → Draft → Draft}
    {name : FunctionId → Draft → String} {isStatic : Bool}
    (adds : ∀ c id draft, Unfolded settings (draft.forest.functionAt id) →
      step c id draft = addProperty settings draft c id (name id draft) isStatic ∧
          name id draft = propertyName settings (draft.forest.functionAt id) ∨
        step c id draft = draft)
    (forming : Forming settings dropSuccess origin draft.forest)
    (sound : draft.forest.Sound) (all : draft.forest.AllMethods (Unfolded settings)) :
    Forming settings dropSuccess origin (draft.forEachMethod step).forest := by
  refine holds_addProperties adds
    (fun {draft} {c} {id} sound isMethod unfolded isName forming => ?_) sound all forming
  obtain ⟨-, same⟩ := forming.methods c id isMethod
  rw [same] at unfolded isName
  rw [propertyName_dropSuccess] at isName
  -- Getters by their names are all folded by now, so this return was dropped if it told success.
  have yields : (draft.forest.functionAt id).ret =
      getterReturn settings (origin.functionAt id) := by
    rw [same, getterReturn, unfolded.of_dropSuccess.isGetter_eq_false]
    rfl
  exact forming.addProperty sound isMethod isName yields

theorem Forming.foldStatics (forming : Forming settings dropSuccess origin draft.forest)
    (sound : draft.forest.Sound) (all : draft.forest.AllMethods (Unfolded settings)) :
    Forming settings dropSuccess origin (foldStatics settings draft).forest := by
  let name (id : FunctionId) (draft : Draft) : String :=
    Text.replaceAll (draft.forest.functionAt id).name settings.markers.getter ""
  refine @forming_forEachMethod settings draft origin (foldStatic settings) name true
    (fun c id draft unfolded => ?_) forming sound all
  rw [foldStatic]
  split
  · rename_i taken
    refine .inl ⟨rfl, ?_⟩
    rw [propertyName, (Bool.and_eq_true_iff.1 taken).2]
    rfl
  · exact .inr rfl

theorem Forming.foldForcedProperties (forming : Forming settings dropSuccess origin draft.forest)
    (sound : draft.forest.Sound) (all : draft.forest.AllMethods (Unfolded settings)) :
    Forming settings dropSuccess origin (foldForcedProperties settings draft).forest := by
  let name (id : FunctionId) (draft : Draft) : String := (draft.forest.functionAt id).name
  refine @forming_forEachMethod settings draft origin (foldForced settings) name false
    (fun c id draft unfolded => ?_) forming sound all
  rw [foldForced]
  split
  · exact .inl ⟨rfl, unfolded.propertyName_eq.symm⟩
  · exact .inr rfl

end Accessors

/-! ## Renaming -/

namespace Corrections

/-- What the settings call a property of a class. -/
def correctedName (settings : Settings) (className name : String) : String :=
  match settings.renames.get? className with
  | none => name
  | some names => (names.properties.get? name).getD name

def correctedLabel (settings : Settings) (className : String) (entry : FunctionId × String) :
    FunctionId × String :=
  (entry.1, correctedName settings className entry.2)

theorem contents_foldl_renameMethod (names : Table String) (ids : List FunctionId)
    (draft : Draft) :
    (ids.foldl (renameMethod names) draft).forest.classes = draft.forest.classes ∧
      (ids.foldl (renameMethod names) draft).forest.hierarchy = draft.forest.hierarchy := by
  induction ids generalizing draft with
  | nil => exact ⟨rfl, rfl⟩
  | cons id rest ih =>
      have same : (renameMethod names draft id).forest.classes = draft.forest.classes ∧
          (renameMethod names draft id).forest.hierarchy = draft.forest.hierarchy := by
        rw [renameMethod]
        split <;> exact ⟨rfl, rfl⟩
      exact ⟨(ih _).1.trans same.1, (ih _).2.trans same.2⟩

theorem hierarchy_renameMembers (c : ClassId) (draft : Draft) :
    (renameMembers settings c draft).forest.hierarchy = draft.forest.hierarchy := by
  rw [renameMembers]
  cases settings.renames.get? (draft.forest.className c) with
  | none => rfl
  | some names => exact (contents_foldl_renameMethod names.functions _ _).2

/-- Of what stands in the classes, only the names of properties change. -/
theorem classAt_renameMembers (c : ClassId) (draft : Draft) (place : ClassId) :
    (renameMembers settings c draft).forest.classAt place =
      (draft.forest.modifyClass c fun content =>
        { content with properties := content.properties.map fun property =>
            { property with
              name := correctedName settings (draft.forest.className c) property.name } }).classAt
        place := by
  rw [renameMembers]
  cases found : settings.renames.get? (draft.forest.className c) with
  | none =>
      have same : correctedName settings (draft.forest.className c) = fun name => name := by
        funext name
        rw [correctedName, found]
      rw [same]
      symm
      rcases draft.forest.classAt_modifyClass_or c _ place with unchanged | ⟨rfl, changed⟩
      · exact unchanged
      · rw [changed, List.map_id']
  | some names =>
      have corrects (property : Property) : renameProperty names.properties property =
          { property with
            name := correctedName settings (draft.forest.className c) property.name } := by
        rw [correctedName, found]
        rfl
      dsimp only
      rw [Forest.classAt, (contents_foldl_renameMethod names.functions _ _).1, funext corrects]
      rfl

theorem labels_renameMembers_self (c : ClassId) (draft : Draft) :
    (renameMembers settings c draft).forest.labels c =
      (draft.forest.labels c).map (correctedLabel settings (draft.forest.className c)) := by
  rw [Forest.labels, classAt_renameMembers]
  rcases Nat.lt_or_ge c draft.forest.hierarchy.size with valid | beyond
  · rw [Forest.classAt_modifyClass_self valid, Forest.labels, List.map_map, List.map_map]
    rfl
  · rw [Forest.classAt_of_size_le, Forest.labels, Forest.classAt_of_size_le beyond]
    · rfl
    · exact beyond

theorem labels_renameMembers_of_ne {place : ClassId} (different : place ≠ c) (draft : Draft) :
    (renameMembers settings c draft).forest.labels place = draft.forest.labels place := by
  rw [Forest.labels, classAt_renameMembers, Forest.classAt_modifyClass_of_ne different]
  rfl

theorem labels_applyRenames (draft : Draft) (c : ClassId) :
    (applyRenames settings draft).forest.labels c =
      (draft.forest.labels c).map (correctedLabel settings (draft.forest.className c)) := by
  have loop (classes : List ClassId) (different : classes.Nodup) (draft : Draft) :
      (classes.foldl (fun draft c => renameMembers settings c draft) draft).forest.labels c =
        if c ∈ classes then (draft.forest.labels c).map
          (correctedLabel settings (draft.forest.className c))
        else draft.forest.labels c := by
    induction classes generalizing draft with
    | nil => rfl
    | cons first rest ih =>
        obtain ⟨fresh, different⟩ := List.nodup_cons.1 different
        have sameName : (renameMembers settings first draft).forest.className c =
            draft.forest.className c := by
          rw [Forest.className, hierarchy_renameMembers]
          rfl
        rw [List.foldl_cons, ih different, sameName]
        by_cases isFirst : c = first
        · subst isFirst
          rw [if_neg fresh, if_pos List.mem_cons_self, labels_renameMembers_self]
        · rw [labels_renameMembers_of_ne isFirst]
          simp only [List.mem_cons, isFirst, false_or]
  have distinct : draft.forest.allClasses.Nodup := draft.forest.hierarchy.nodup_all
  rw [applyRenames, Draft.forEachClass, loop _ distinct]
  split
  · rfl
  · rename_i beyond
    have none : draft.forest.labels c = [] := by
      rw [Forest.labels, Forest.classAt_of_size_le]
      · rfl
      · exact Nat.le_of_not_lt fun valid => beyond (Hierarchy.mem_all_iff.2 valid)
    rw [none]
    rfl

end Corrections

namespace Conversion

open Accessors Corrections

variable {rootClass : String} {header : HeaderDeclarations} {start : Draft}

theorem forming_formMembers (sound : draft.forest.Sound) :
    Forming settings dropSuccess draft.forest (formMembers settings draft).forest := by
  have unfolded := @unfolded_dropSuccessReturns settings draft sound
  have soundFolded := (makes_foldAccessors settings).sound_ofTotal sound
  have soundDropped := (makes_dropSuccessReturns settings).sound_ofTotal soundFolded
  have soundBound := (makes_foldStatics settings).sound_ofTotal soundDropped
  have stillUnfolded := (bound_foldStatics settings soundDropped unfolded).imp
    fun _ facts => facts.1
  have dropped := (forming_foldAccessors sound).dropSuccessReturns soundFolded
  exact (dropped.foldStatics soundDropped unfolded).foldForcedProperties soundBound stillUnfolded

namespace Course

variable (course : Course settings rootClass header start final) (sound : start.forest.Sound)

include sound

theorem labels_initialized (c : ClassId) :
    course.initialized.forest.labels c = start.forest.labels c :=
  (course.moves_initialized_of_start sound).labels_eq (by simp) (by simp) c

theorem hierarchy_final : final.forest.hierarchy = course.initialized.forest.hierarchy := by
  have narrows : course.initialized.forest.Narrows (fun _ => True) final.forest :=
    (course.moves_final sound).narrows (by simp [memberKinds, narrowingKinds, Set.subset_def])
      fun _ _ _ => trivial
  exact narrows.hierarchy

/-- A header leaves the properties there were and new ones made of methods, all of them with
corrected names. -/
theorem labels_final (c : ClassId) :
    ∃ new, final.forest.labels c = (start.forest.labels c ++ new).map
        (correctedLabel settings (course.initialized.forest.className c)) ∧
      ∀ entry ∈ new, entry.1 ∈ course.initialized.forest.methods c ∧
        entry.2 = propertyName settings (course.initialized.forest.functionAt entry.1) ∧
        (final.forest.functionAt entry.1).ret =
          getterReturn settings (course.initialized.forest.functionAt entry.1) := by
  have soundInitialized := course.sound_initialized sound
  have isForest := course.forest_final
  have soundFormed := @sound_formMembers settings _ soundInitialized
  obtain ⟨new, isNew, told⟩ := (@forming_formMembers settings _ soundInitialized).labels c
  have sameName : (formMembers settings course.initialized).forest.className c =
      course.initialized.forest.className c := by
    have renames := (makes_applyRenames settings).ok rfl soundFormed
    have narrows : (formMembers settings course.initialized).forest.Narrows (fun _ => True)
        final.forest := by
      rw [isForest]
      exact renames.narrows (by simp [narrowingKinds, Set.subset_def]) fun _ _ _ => trivial
    rw [Forest.className, ← narrows.hierarchy, course.hierarchy_final sound]
    rfl
  refine ⟨new, ?_, fun entry member => ?_⟩
  · rw [isForest, labels_applyRenames, isNew, course.labels_initialized sound, sameName]
  · have isLabel : entry ∈ (formMembers settings course.initialized).forest.labels c :=
      isNew ▸ List.mem_append_right _ member
    have spares := spares_applyRenames settings (soundFormed.rests_of_mem_labels isLabel).noMethod
    rw [isForest, spares.function]
    exact told entry member

/-- A getter of a finished header was one before, or it was a method when members were formed. -/
theorem label_cases {name : String} (isLabel : (id, name) ∈ final.forest.labels c) :
    (∃ former, (id, former) ∈ start.forest.labels c ∧
        name = correctedName settings (course.initialized.forest.className c) former) ∨
      id ∈ course.initialized.forest.methods c ∧
        name = correctedName settings (course.initialized.forest.className c)
          (propertyName settings (course.initialized.forest.functionAt id)) ∧
        (final.forest.functionAt id).ret =
          getterReturn settings (course.initialized.forest.functionAt id) := by
  obtain ⟨new, isNew, told⟩ := course.labels_final sound c
  rw [isNew] at isLabel
  obtain ⟨⟨getter, given⟩, member, corrected⟩ := List.mem_map.1 isLabel
  obtain ⟨rfl, rfl⟩ := Prod.mk.inj corrected
  rcases List.mem_append.1 member with old | added
  · exact .inl ⟨given, old, rfl⟩
  · obtain ⟨isMethod, isName, yields⟩ := told _ added
    exact .inr ⟨isMethod, congrArg _ isName, yields⟩

theorem label_final_of_start {former : String} (isLabel : (id, former) ∈ start.forest.labels c) :
    (id, correctedName settings (course.initialized.forest.className c) former) ∈
      final.forest.labels c := by
  obtain ⟨new, isNew, -⟩ := course.labels_final sound c
  rw [isNew]
  exact List.mem_map.2 ⟨_, List.mem_append_left _ isLabel, rfl⟩

/-- A getter that was a method when members were formed was no getter before. -/
theorem label_of_method {name : String} (isMethod : id ∈ course.initialized.forest.methods c)
    (isLabel : (id, name) ∈ final.forest.labels c) :
    name = correctedName settings (course.initialized.forest.className c)
        (propertyName settings (course.initialized.forest.functionAt id)) ∧
      (final.forest.functionAt id).ret =
        getterReturn settings (course.initialized.forest.functionAt id) := by
  rcases course.label_cases sound isLabel with ⟨former, old, -⟩ | ⟨-, told⟩
  · rw [← course.labels_initialized sound] at old
    have rests := (course.sound_initialized sound).rests_of_mem_labels old
    exact absurd isMethod (rests.noMethod c)
  · exact told

end Course

end Conversion

end Bindery
