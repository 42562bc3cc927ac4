import Bindery.Proofs.FixedPoint
import Bindery.Proofs.Replacements
import Mathlib.Data.List.Find

/-!
# Which setter a getter gets

The turn of a getter in the pass over accessors adds one property to its class.  The setter of that
is the first method that is still there and has the getter's own name with the marker replaced
everywhere, if it takes one parameter.  What happens in one class is nothing to another class, as
long as they share no methods.
-/

namespace Bindery

/-- Whether the methods of a class are different, and methods of no other class. -/
structure Forest.Owns (forest : Forest) (c : ClassId) : Prop where
  nodup : (forest.methods c).Nodup
  alone : ∀ id ∈ forest.methods c, ∀ other, id ∈ forest.methods other → other = c

theorem Forest.MethodsDistinct.owns {forest : Forest} (distinct : forest.MethodsDistinct)
    (c : ClassId) : forest.Owns c :=
  ⟨distinct.nodup c, fun _ isMethod _ isOther => distinct.unique isOther isMethod⟩

namespace Accessors

variable {settings : Settings} {draft : Draft} {before middle after forest : Forest}
  {c d : ClassId} {id getter setter other : FunctionId} {ids visited rest : List FunctionId}

/-- The name that the setter for a getter should have. -/
def setterName (settings : Settings) (function : Function) : String :=
  Text.replaceAll function.name settings.markers.getter settings.markers.setter

/-- The setter that a getter finds: the first other method of the name, if it takes one parameter.
-/
def partner? (settings : Settings) (forest : Forest) (c : ClassId) (getter : FunctionId) :
    Option FunctionId :=
  (((forest.methods c).erase getter).find? fun id =>
    (forest.functionAt id).name == setterName settings (forest.functionAt getter)).filter fun id =>
      (forest.functionAt id).params.length == 1

/-- The property that a getter becomes. -/
def propertyOf (settings : Settings) (forest : Forest) (getter : FunctionId)
    (setter : Option FunctionId) : Property where
  name := Text.replaceAll (forest.functionAt getter).name settings.markers.getter ""
  getter := getter
  setter := setter
  isStatic := false

theorem params_of_isGetter {function : Function} (getter : isGetter settings function = true) :
    function.params = [] :=
  List.isEmpty_iff.1 (Bool.and_eq_true_iff.1 getter).2

/-! ## The turn of a getter -/

theorem partner?_eq_some (found : partner? settings forest c getter = some setter) :
    setter ∈ (forest.methods c).erase getter ∧
      (forest.functionAt setter).name = setterName settings (forest.functionAt getter) ∧
      (forest.functionAt setter).params.length = 1 := by
  obtain ⟨isFirst, one⟩ := Option.filter_eq_some_iff.1 found
  have named := List.find?_some isFirst
  exact ⟨List.mem_of_find?_eq_some isFirst, beq_iff_eq.1 named, beq_iff_eq.1 one⟩

/-- A method that alone has its name is found just by that name. -/
theorem partner?_eq_some_iff (isMethod : setter ∈ (forest.methods c).erase getter)
    (one : (forest.functionAt setter).params.length = 1)
    (sole : ∀ id ∈ forest.methods c, (forest.functionAt id).name = (forest.functionAt setter).name →
      id = setter) :
    partner? settings forest c getter = some setter ↔
      setterName settings (forest.functionAt getter) = (forest.functionAt setter).name := by
  refine ⟨fun found => (partner?_eq_some found).2.1.symm, fun named => ?_⟩
  have isFound : (((forest.methods c).erase getter).find? fun id =>
      (forest.functionAt id).name == setterName settings (forest.functionAt getter)).isSome := by
    rw [List.find?_isSome]
    exact ⟨setter, isMethod, beq_iff_eq.2 named.symm⟩
  obtain ⟨first, isFirst⟩ := Option.isSome_iff_exists.1 isFound
  have firstNamed := List.find?_some isFirst
  obtain rfl : first = setter :=
    sole first (List.mem_of_mem_erase (List.mem_of_find?_eq_some isFirst))
      ((beq_iff_eq.1 firstNamed).trans named)
  rw [partner?, isFirst, Option.filter_eq_some_iff]
  exact ⟨rfl, beq_iff_eq.2 one⟩

section Added

variable {name wanted : String} {isStatic : Bool}

theorem functionAt_addProperty_of_ne (different : id ≠ getter) :
    (addProperty settings draft c getter name isStatic).forest.functionAt id =
      draft.forest.functionAt id := by
  rw [forest_addProperty, Forest.functionAt_modifyClass,
    Forest.functionAt_modifyFunction_of_ne different]

theorem findMethod?_addProperty (nodup : (draft.forest.methods c).Nodup)
    (isMethod : getter ∈ draft.forest.methods c) :
    (addProperty settings draft c getter name isStatic).forest.findMethod? c wanted =
      ((draft.forest.methods c).erase getter).find? fun id =>
        (draft.forest.functionAt id).name == wanted := by
  rw [Forest.findMethod?, methods_addProperty isMethod]
  refine List.find?_congr fun id isOther => ?_
  rw [functionAt_addProperty_of_ne (nodup.mem_erase_iff.1 isOther).1]

theorem classAt_addSetter (isMethod : setter ∈ draft.forest.methods c) :
    (addSetter settings draft c setter).forest.classAt c =
      { (draft.forest.classAt c).removeMethod setter with
        properties := setLast setter (draft.forest.classAt c).properties } := by
  have valid : c < (draft.modifyFunction setter
      (·.rename settings.canonical.setter)).forest.hierarchy.size :=
    Forest.lt_size_of_mem_methods isMethod
  rw [addSetter, Draft.forest_modifyClass, Forest.classAt_modifyClass_self valid]
  rfl

theorem functionAt_addSetter_of_ne (different : id ≠ setter) :
    (addSetter settings draft c setter).forest.functionAt id = draft.forest.functionAt id :=
  Forest.functionAt_modifyFunction_of_ne different

end Added

/-- A getter becomes a property, and then its partner becomes the setter of that. -/
theorem foldAccessor_of_isGetter (nodup : (draft.forest.methods c).Nodup)
    (isMethod : getter ∈ draft.forest.methods c)
    (isGetter : isGetter settings (draft.forest.functionAt getter) = true) :
    foldAccessor settings c getter draft =
      let added := addProperty settings draft c getter
        (Text.replaceAll (draft.forest.functionAt getter).name settings.markers.getter "") false
      match partner? settings draft.forest c getter with
      | none => added
      | some setter => addSetter settings added c setter := by
  obtain ⟨marked, noParams⟩ := Bool.and_eq_true_iff.1 isGetter
  rw [foldAccessor]
  dsimp only
  rw [if_neg (by simp [marked, noParams]), ← setterName, findMethod?_addProperty nodup isMethod,
    partner?]
  cases isFirst : ((draft.forest.methods c).erase getter).find? fun id =>
      (draft.forest.functionAt id).name == setterName settings (draft.forest.functionAt getter) with
  | none => rfl
  | some first =>
      dsimp only
      rw [params_addProperty]
      by_cases one : (draft.forest.functionAt first).params.length = 1
      · rw [if_pos one, Option.filter_some, if_pos (beq_iff_eq.2 one)]
      · rw [if_neg one, Option.filter_some, if_neg (fun same => one (beq_iff_eq.1 same))]

/-- What the turn of a getter does to its class: there is one property more, and the getter and the
setter that it finds are no methods any more. -/
structure Folds (settings : Settings) (c : ClassId) (getter : FunctionId)
    (before after : Forest) : Prop where
  properties : (after.classAt c).properties = (before.classAt c).properties ++
    [propertyOf settings before getter (partner? settings before c getter)]
  methods : ∀ id, id ∈ after.methods c ↔
    id ∈ before.methods c ∧ id ≠ getter ∧ partner? settings before c getter ≠ some id
  nodup : (after.methods c).Nodup
  functions : ∀ id ∈ after.methods c, after.functionAt id = before.functionAt id

theorem folds_foldAccessor (nodup : (draft.forest.methods c).Nodup)
    (isMethod : getter ∈ draft.forest.methods c)
    (isGetter : isGetter settings (draft.forest.functionAt getter) = true) :
    Folds settings c getter draft.forest (foldAccessor settings c getter draft).forest := by
  rw [foldAccessor_of_isGetter nodup isMethod isGetter]
  generalize propertyName : Text.replaceAll _ _ "" = name
  have methods : (addProperty settings draft c getter name false).forest.methods c =
      (draft.forest.methods c).erase getter := methods_addProperty isMethod
  have nodupErased := nodup.erase getter
  cases found : partner? settings draft.forest c getter with
  | none =>
      dsimp only
      constructor
      case properties => rw [classAt_addProperty isMethod, propertyOf, propertyName, found]
      case methods =>
        intro id
        rw [methods, nodup.mem_erase_iff, found]
        simp [and_comm]
      case nodup => rwa [methods]
      case functions =>
        intro id still
        rw [methods] at still
        exact functionAt_addProperty_of_ne (nodup.mem_erase_iff.1 still).1
  | some setter =>
      dsimp only
      have isSetter : setter ∈ (addProperty settings draft c getter name false).forest.methods c :=
        methods ▸ (partner?_eq_some found).1
      constructor
      case properties =>
        rw [classAt_addSetter isSetter, classAt_addProperty isMethod, propertyOf, propertyName,
          found]
        exact setLast_append setter _ _
      case methods =>
        intro id
        rw [methods_addSetter isSetter, methods, nodupErased.mem_erase_iff, nodup.mem_erase_iff,
          found]
        simp only [ne_eq, Option.some.injEq]
        exact ⟨fun ⟨notSetter, notGetter, isThere⟩ => ⟨isThere, notGetter, fun same =>
          notSetter same.symm⟩, fun ⟨isThere, notGetter, notSetter⟩ => ⟨fun same =>
          notSetter same.symm, notGetter, isThere⟩⟩
      case nodup =>
        rw [methods_addSetter isSetter, methods]
        exact nodupErased.erase setter
      case functions =>
        intro id still
        rw [methods_addSetter isSetter, methods, nodupErased.mem_erase_iff] at still
        rw [functionAt_addSetter_of_ne still.1,
          functionAt_addProperty_of_ne (nodup.mem_erase_iff.1 still.2).1]

theorem params_foldAccessor : ((foldAccessor settings c id draft).forest.functionAt other).params =
    (draft.forest.functionAt other).params := by
  have folding := folding_foldAccessor settings c id draft
  generalize foldAccessor settings c id draft = folded at folding ⊢
  cases folding with
  | skip => rfl
  | property => exact params_addProperty
  | accessors => rw [params_addSetter, params_addProperty]

theorem foldAccessor_of_not_isGetter
    (unlike : isGetter settings (draft.forest.functionAt id) = false) :
    foldAccessor settings c id draft = draft := by
  rw [foldAccessor]
  dsimp only
  rw [if_pos]
  rw [isGetter, Bool.and_eq_false_iff] at unlike
  simpa using unlike

theorem methods_modifyClass_subset {change : Class → Class}
    (fewer : ∀ content : Class, (change content).methods ⊆ content.methods) (place : ClassId) :
    (forest.modifyClass c change).methods place ⊆ forest.methods place := by
  rcases forest.classAt_modifyClass_or c change place with same | ⟨rfl, changed⟩
  · rw [Forest.methods, same]
    exact List.Subset.refl _
  · rw [Forest.methods, changed]
    exact fewer _

theorem methods_addProperty_subset {name : String} {isStatic : Bool} (place : ClassId) :
    (addProperty settings draft c id name isStatic).forest.methods place ⊆
      draft.forest.methods place := by
  rw [forest_addProperty]
  exact methods_modifyClass_subset (fun _ => List.erase_subset) place

theorem methods_addSetter_subset (place : ClassId) :
    (addSetter settings draft c setter).forest.methods place ⊆ draft.forest.methods place :=
  methods_modifyClass_subset (fun _ => List.erase_subset) place

/-- Methods only leave. -/
theorem methods_foldAccessor_subset (place : ClassId) :
    (foldAccessor settings c id draft).forest.methods place ⊆ draft.forest.methods place := by
  have folding := folding_foldAccessor settings c id draft
  generalize foldAccessor settings c id draft = folded at folding ⊢
  cases folding with
  | skip => exact List.Subset.refl _
  | property => exact methods_addProperty_subset place
  | accessors =>
      exact List.Subset.trans (methods_addSetter_subset place) (methods_addProperty_subset place)

/-- The turns of some methods of a class, one after another. -/
def turns (settings : Settings) (c : ClassId) (ids : List FunctionId) (draft : Draft) : Draft :=
  ids.foldl (fun draft id => foldAccessor settings c id draft) draft

/-- The turns of the methods that some classes have when the pass comes to them. -/
def turnsIn (settings : Settings) (classes : List ClassId) (draft : Draft) : Draft :=
  classes.foldl (fun draft c => turns settings c (draft.forest.methods c) draft) draft

theorem foldAccessors_eq_turnsIn (settings : Settings) (draft : Draft) :
    foldAccessors settings draft = turnsIn settings draft.forest.allClasses draft :=
  rfl

theorem turns_cons : turns settings c (id :: rest) draft =
    turns settings c rest (foldAccessor settings c id draft) :=
  rfl

theorem turns_append (more : List FunctionId) :
    turns settings c (ids ++ more) draft = turns settings c more (turns settings c ids draft) :=
  List.foldl_append

theorem turnsIn_append (classes more : List ClassId) :
    turnsIn settings (classes ++ more) draft =
      turnsIn settings more (turnsIn settings classes draft) :=
  List.foldl_append

theorem turnsIn_cons (classes : List ClassId) :
    turnsIn settings (c :: classes) draft =
      turnsIn settings classes (turns settings c (draft.forest.methods c) draft) :=
  rfl

theorem methods_turns_subset (place : ClassId) :
    (turns settings c ids draft).forest.methods place ⊆ draft.forest.methods place := by
  induction ids generalizing draft with
  | nil => exact List.Subset.refl _
  | cons id rest ih => exact List.Subset.trans ih (methods_foldAccessor_subset place)

/-! ## Other classes -/

/-- What a part of the loop does to a class that it does not come to: nothing. -/
structure LeavesAlone (c : ClassId) (before after : Forest) : Prop where
  content : after.classAt c = before.classAt c
  functions : ∀ id ∈ before.methods c, after.functionAt id = before.functionAt id
  params : ∀ id, (after.functionAt id).params = (before.functionAt id).params
  methods : ∀ place, after.methods place ⊆ before.methods place

namespace LeavesAlone

theorem refl (forest : Forest) : LeavesAlone c forest forest :=
  ⟨rfl, fun _ _ => rfl, fun _ => rfl, fun _ => List.Subset.refl _⟩

theorem methods_eq (leavesAlone : LeavesAlone c before after) :
    after.methods c = before.methods c :=
  congrArg Class.methods leavesAlone.content

theorem trans (first : LeavesAlone c before middle) (second : LeavesAlone c middle after) :
    LeavesAlone c before after where
  content := second.content.trans first.content
  functions := fun id isMethod =>
    (second.functions id (first.methods_eq ▸ isMethod)).trans (first.functions id isMethod)
  params := fun id => (second.params id).trans (first.params id)
  methods := fun place => List.Subset.trans (second.methods place) (first.methods place)

theorem owns (leavesAlone : LeavesAlone c before after) (owns : before.Owns c) : after.Owns c := by
  refine ⟨leavesAlone.methods_eq ▸ owns.nodup, fun id isMethod other isOther => ?_⟩
  rw [leavesAlone.methods_eq] at isMethod
  exact owns.alone id isMethod other (leavesAlone.methods other isOther)

theorem addProperty {name : String} {isStatic : Bool} (different : d ≠ c)
    (foreign : id ∉ draft.forest.methods c) :
    LeavesAlone c draft.forest (addProperty settings draft d id name isStatic).forest where
  content := by
    rw [forest_addProperty, Forest.classAt_modifyClass_of_ne (Ne.symm different)]
    rfl
  functions := fun _ isMethod =>
    functionAt_addProperty_of_ne fun same => foreign (same ▸ isMethod)
  params := fun _ => params_addProperty
  methods := methods_addProperty_subset

theorem addSetter (different : d ≠ c) (foreign : setter ∉ draft.forest.methods c) :
    LeavesAlone c draft.forest (addSetter settings draft d setter).forest where
  content := Forest.classAt_modifyClass_of_ne (Ne.symm different)
  functions := fun _ isMethod =>
    functionAt_addSetter_of_ne fun same => foreign (same ▸ isMethod)
  params := fun _ => params_addSetter
  methods := methods_addSetter_subset

theorem foldAccessor (owns : draft.forest.Owns c) (different : d ≠ c)
    (foreign : id ∉ draft.forest.methods c) :
    LeavesAlone c draft.forest (foldAccessor settings d id draft).forest := by
  have folding := folding_foldAccessor settings d id draft
  generalize Accessors.foldAccessor settings d id draft = folded at folding ⊢
  cases folding with
  | skip => exact .refl _
  | property => exact .addProperty different foreign
  | @accessors name setter getter isSetter called single =>
      have added : LeavesAlone c draft.forest
          (Accessors.addProperty settings draft d id name false).forest :=
        .addProperty different foreign
      have isForeign : setter ∉
          (Accessors.addProperty settings draft d id name false).forest.methods c :=
        fun isMethod => different ((added.owns owns).alone setter isMethod d isSetter)
      exact added.trans (.addSetter different isForeign)

theorem turns (owns : draft.forest.Owns c) (different : d ≠ c)
    (foreign : ∀ id ∈ ids, id ∉ draft.forest.methods c) :
    LeavesAlone c draft.forest (turns settings d ids draft).forest := by
  induction ids generalizing draft with
  | nil => exact .refl _
  | cons id rest ih =>
      obtain ⟨isForeign, foreign⟩ := List.forall_mem_cons.1 foreign
      have first : LeavesAlone c draft.forest (Accessors.foldAccessor settings d id draft).forest :=
        .foldAccessor owns different isForeign
      refine first.trans (ih (first.owns owns) fun other later => ?_)
      rw [first.methods_eq]
      exact foreign other later

theorem turnsIn {classes : List ClassId} (owns : draft.forest.Owns c) (elsewhere : c ∉ classes) :
    LeavesAlone c draft.forest (turnsIn settings classes draft).forest := by
  induction classes generalizing draft with
  | nil => exact .refl _
  | cons d rest ih =>
      obtain ⟨different, elsewhere⟩ := not_or.1 (List.mem_cons.not.1 elsewhere)
      have first : LeavesAlone c draft.forest
          (Accessors.turns settings d (draft.forest.methods d) draft).forest :=
        .turns owns (Ne.symm different) fun id isOther isMethod =>
          different (owns.alone id isMethod d isOther).symm
      exact first.trans (ih (first.owns owns) elsewhere)

end LeavesAlone

end Accessors

end Bindery
