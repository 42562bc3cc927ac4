import Bindery.Proofs.Partners
import Bindery.Proofs.Stopping

/-!
# Getters and their own companions

The companion of a getter is the method that has the getter's name with a size suffix.  A search
takes the first method whose name only has to contain the keyword, so it finds the companion of
another getter where that comes first.  Where no keyword goes for more than the getter's own
companions, the order of the methods is nothing to the result: while the loop goes through a class,
the getters to come still have their companions, and those that had their turn got one of their own.
-/

namespace Bindery

namespace Text

theorem afterFirst_isSuffix (text marker : String) :
    (afterFirst text marker).toList <:+ text.toList := by
  unfold afterFirst
  split
  · rename_i before after split
    rw [Chars.splitAtFirst?_eq_some split, String.toList_ofList]
    exact List.suffix_append _ _
  · exact List.suffix_refl _

end Text

namespace Sizing

variable {settings : Settings} {rule : Rule} {draft final : Draft}
  {start before middle after forest : Forest}
  {c d : ClassId} {getter other id accessor : FunctionId} {ids rest : List FunctionId}
  {name companion marker : String} {function : Function} {stopped : Stopped}
  {result : Except Stopped Draft}

/-- Whether a name is another one with a size suffix. -/
def IsCompanion (settings : Settings) (name companion : String) : Prop :=
  ∃ suffix ∈ settings.markers.sizeSuffixes, companion = name ++ suffix

instance : Decidable (IsCompanion settings name companion) :=
  inferInstanceAs (Decidable (∃ _ ∈ _, _))

/-- What a getter is sized by, where no override applies. -/
def derivedKeyword (settings : Settings) (function : Function) : String :=
  Text.afterFirst function.name settings.markers.getter

/-- A companion goes by each keyword that its getter contains. -/
theorem IsCompanion.isSizeOf {keyword : String} (isCompanion : IsCompanion settings name companion)
    (contained : keyword.toList <:+: name.toList) :
    Sizing.isSizeOf settings keyword companion = true := by
  obtain ⟨suffix, isSuffix, rfl⟩ := isCompanion
  have contains : Text.contains (name ++ suffix) keyword = true := by
    rw [Text.contains_iff, String.toList_append]
    exact contained.trans (List.infix_append' [] _ _)
  have isSize : isSizeName settings (name ++ suffix) = true := by
    refine List.any_eq_true.2 ⟨suffix, isSuffix, Text.endsWith_iff.2 ?_⟩
    rw [String.toList_append]
    exact List.suffix_append _ _
  rw [Sizing.isSizeOf, contains, isSize]
  rfl

/-! ## Classes whose getters have their own companions -/

/-- Whether the keywords of some methods of a class go just for companions of their own. -/
structure HaveCompanions (settings : Settings) (applies : Function → Bool) (forest : Forest)
    (c : ClassId) : Prop where
  companion : ∀ getter ∈ forest.methods c, applies (forest.functionAt getter) = true →
    ∃ id ∈ forest.methods c,
      IsCompanion settings (forest.functionAt getter).name (forest.functionAt id).name
  own : ∀ getter ∈ forest.methods c, applies (forest.functionAt getter) = true →
    ∀ id ∈ forest.methods c,
      isSizeOf settings (derivedKeyword settings (forest.functionAt getter))
        (forest.functionAt id).name = true →
      IsCompanion settings (forest.functionAt getter).name (forest.functionAt id).name
  unshared : ∀ getter ∈ forest.methods c, applies (forest.functionAt getter) = true →
    ∀ other ∈ forest.methods c, applies (forest.functionAt other) = true →
    ∀ id ∈ forest.methods c,
      IsCompanion settings (forest.functionAt getter).name (forest.functionAt id).name →
      IsCompanion settings (forest.functionAt other).name (forest.functionAt id).name →
      getter = other

/-- Whether these are the methods that a rule is for, and no override comes between. -/
structure Accompanied (settings : Settings) (rule : Rule) (forest : Forest) (c : ClassId) : Prop
    extends HaveCompanions settings rule.applies forest c where
  keyword : ∀ getter ∈ forest.methods c, rule.applies (forest.functionAt getter) = true →
    rule.keywordAt forest c getter = derivedKeyword settings (forest.functionAt getter)

namespace HaveCompanions

variable {applies fewer : Function → Bool}

theorem mono (companions : HaveCompanions settings applies forest c)
    (narrower : ∀ function, fewer function = true → applies function = true) :
    HaveCompanions settings fewer forest c where
  companion := fun getter isMethod isOne => companions.companion getter isMethod (narrower _ isOne)
  own := fun getter isMethod isOne => companions.own getter isMethod (narrower _ isOne)
  unshared := fun getter isMethod isOne other isOther isToo =>
    companions.unshared getter isMethod (narrower _ isOne) other isOther (narrower _ isToo)

/-- A getter is the companion of no other one, since its own companion would be that of the other
one as well. -/
theorem eq_of_isCompanion (companions : HaveCompanions settings applies start c)
    (isMethod : getter ∈ start.methods c) (isOne : applies (start.functionAt getter) = true)
    (isOther : other ∈ start.methods c) (isToo : applies (start.functionAt other) = true)
    (isCompanion : IsCompanion settings (start.functionAt other).name
      (start.functionAt getter).name) :
    getter = other := by
  obtain ⟨id, isHere, isOwn⟩ := companions.companion getter isMethod isOne
  refine companions.unshared getter isMethod isOne other isOther isToo id isHere isOwn ?_
  apply companions.own other isOther isToo id isHere
  apply isOwn.isSizeOf
  obtain ⟨suffix, -, named⟩ := isCompanion
  rw [named, String.toList_append]
  exact (Text.afterFirst_isSuffix _ _).isInfix.trans (List.infix_append' [] _ _)

end HaveCompanions

/-! ## The turn of a method, seen from its class and from others -/

theorem mem_methods_detach (isMethod : id ∈ draft.forest.methods d) (different : id ≠ accessor) :
    id ∈ (detach draft c accessor marker).forest.methods d := by
  rw [forest_detach]
  split
  · change id ∈ ((draft.forest.modifyClass c (·.removeMethod accessor)).classAt d).methods
    rcases draft.forest.classAt_modifyClass_or c (·.removeMethod accessor) d with
      same | ⟨-, removed⟩
    · rwa [same]
    · rw [removed]
      exact (List.mem_erase_of_ne different).2 isMethod
  · exact isMethod

theorem methods_detach_of_ne (different : c ≠ d) :
    (detach draft d accessor marker).forest.methods c = draft.forest.methods c := by
  rw [forest_detach]
  split
  · exact congrArg Class.methods (Forest.classAt_modifyClass_of_ne different)
  · rfl

theorem Serves.methods_of_ne (serves : Serves settings rule d id draft result) (different : c ≠ d) :
    (reached result).forest.methods c = draft.forest.methods c := by
  cases serves with
  | skip => rfl
  | fail _ _ _ same => rw [reached, same]
  | serve _ _ _ changes =>
      rw [reached, changes]
      exact methods_detach_of_ne different

/-- The turn of a getter that has a companion comes to an end, and the getter gets what its class
has for the keyword. -/
theorem Serves.exists_served (serves : Serves settings rule c getter draft result)
    (isMethod : getter ∈ draft.forest.methods c)
    (applies : rule.applies (draft.forest.functionAt getter) = true)
    (isHere : id ∈ draft.forest.methods c)
    (isSize : isSizeOf settings (rule.keywordAt draft.forest c getter)
      (draft.forest.functionAt id).name = true) :
    ∃ accessor ∈ draft.forest.methods c, isSizeOf settings (rule.keywordAt draft.forest c getter)
        (draft.forest.functionAt accessor).name = true ∧
      ∃ next, result = .ok next ∧
        next.forest.functionAt getter = rule.serve accessor (draft.forest.functionAt getter) ∧
        ∀ other ∈ draft.forest.methods c, other ≠ accessor → other ∈ next.forest.methods c := by
  have isFound :
      (ownAccessor? settings draft.forest (rule.keywordAt draft.forest c getter) c).isSome :=
    List.find?_isSome.2 ⟨id, isHere, isSize⟩
  obtain ⟨own, first⟩ := Option.isSome_iff_exists.1 isFound
  have foundOwn : accessor? settings draft.forest (rule.keywordAt draft.forest c getter) c
      draft.forest.allClasses = some own := by
    rw [accessor?, first]
    rfl
  cases serves with
  | skip idle => simp [idle isMethod] at applies
  | fail _ _ missing => simp [foundOwn] at missing
  | @serve accessor next _ _ found changes =>
      obtain rfl : own = accessor := Option.some.inj (foundOwn.symm.trans found)
      have fits := List.find?_some first
      refine ⟨own, List.mem_of_find?_eq_some first, fits, next, rfl,
        functionAt_of_changes applies changes, fun other isOther different => ?_⟩
      rw [changes]
      exact mem_methods_detach isOther different

/-- What the turns in other classes do, seen from a class: nothing to its methods, and nothing to
the functions that are methods of no other class. -/
structure Aside (settings : Settings) (c : ClassId) (before after : Forest) : Prop where
  takes : Takes (fun name => Text.contains name settings.markers.getter = true) before after
  methods : after.methods c = before.methods c
  functions : ∀ id, (∀ d, d ≠ c → id ∉ before.methods d) →
    after.functionAt id = before.functionAt id

namespace Aside

theorem refl (forest : Forest) : Aside settings c forest forest :=
  ⟨.refl _, rfl, fun _ _ => rfl⟩

theorem serves (aside : Aside settings c before draft.forest) (different : d ≠ c)
    (serves : Serves settings rule d id draft result) :
    Aside settings c before (reached result).forest where
  takes := aside.takes.trans serves.takes
  methods := (serves.methods_of_ne (Ne.symm different)).trans aside.methods
  functions := by
    intro other foreign
    rw [serves.functionAt_eq, aside.functions other foreign]
    rintro rfl isMethod
    exact absurd ((aside.takes.methods d).subset isMethod) (foreign d different)

end Aside

/-! ## The loop -/

/-- How far a loop is in a class, with some methods still to come.  What is gone was the companion
of a getter that had its turn. -/
structure Progress (settings : Settings) (rule : Rule) (c : ClassId) (start : Forest)
    (ids : List FunctionId) (forest : Forest) : Prop where
  takes : Takes (fun name => Text.contains name settings.markers.getter = true) start forest
  pending : ∀ id ∈ ids, forest.functionAt id = start.functionAt id
  idle : ∀ id, (∀ d, d ≠ c → id ∉ start.methods d) →
    (id ∈ start.methods c → rule.applies (start.functionAt id) = false) →
    forest.functionAt id = start.functionAt id
  gone : ∀ id ∈ start.methods c, id ∉ forest.methods c → ∃ getter ∈ start.methods c, getter ∉ ids ∧
    rule.applies (start.functionAt getter) = true ∧
    IsCompanion settings (start.functionAt getter).name (start.functionAt id).name
  served : ∀ getter ∈ start.methods c, getter ∉ ids →
    rule.applies (start.functionAt getter) = true → ∃ id ∈ start.methods c,
      IsCompanion settings (start.functionAt getter).name (start.functionAt id).name ∧
      forest.functionAt getter = rule.serve id (start.functionAt getter)

namespace Progress

/-- When the loop enters the class, all of its methods are to come. -/
theorem enter (owns : start.Owns c) (aside : Aside settings c start forest) :
    Progress settings rule c start (start.methods c) forest where
  takes := aside.takes
  pending := fun id isMethod => aside.functions id fun d different isOther =>
    different (owns.alone id isMethod d isOther)
  idle := fun id foreign _ => aside.functions id foreign
  gone := fun _ isMethod isGone => absurd (aside.methods ▸ isMethod) isGone
  served := fun _ isMethod isDone => absurd isMethod isDone

/-- What happens in other classes is nothing to a class that the loop has been through. -/
theorem leave (owns : start.Owns c) (progress : Progress settings rule c start [] middle)
    (aside : Aside settings c middle after) : Progress settings rule c start [] after := by
  have foreign {id : FunctionId} (only : ∀ d, d ≠ c → id ∉ start.methods d) :
      after.functionAt id = middle.functionAt id :=
    aside.functions id fun d different isOther =>
      only d different ((progress.takes.methods d).subset isOther)
  refine ⟨progress.takes.trans aside.takes, fun _ isPending => (nomatch isPending),
    fun id only idle => ?_, ?_, fun getter isMethod isDone applies => ?_⟩
  · rw [foreign only, progress.idle id only idle]
  · rw [aside.methods]
    exact progress.gone
  · rw [foreign fun d different isOther => different (owns.alone getter isMethod d isOther)]
    exact progress.served getter isMethod isDone applies

variable (accompanied : Accompanied settings rule start c)

include accompanied

/-- A getter whose turn is to come is still there, and so are its companions. -/
theorem mem_methods (progress : Progress settings rule c start ids forest)
    (isPending : getter ∈ ids)
    (isMethod : getter ∈ start.methods c)
    (applies : rule.applies (start.functionAt getter) = true) :
    getter ∈ forest.methods c ∧ ∀ id ∈ start.methods c,
      IsCompanion settings (start.functionAt getter).name (start.functionAt id).name →
      id ∈ forest.methods c := by
  constructor
  · by_contra isGone
    obtain ⟨other, isOther, isDone, appliesOther, isCompanion⟩ :=
      progress.gone getter isMethod isGone
    obtain rfl := accompanied.eq_of_isCompanion isMethod applies isOther appliesOther isCompanion
    exact isDone isPending
  · intro id isHere isOwn
    by_contra isGone
    obtain ⟨other, isOther, isDone, appliesOther, isCompanion⟩ := progress.gone id isHere isGone
    obtain rfl := accompanied.unshared getter isMethod applies other isOther appliesOther id isHere
      isOwn isCompanion
    exact isDone isPending

/-- The turn of a getter gets it one of its own companions. -/
theorem turn_of_applies (nodup : (id :: rest).Nodup) (isMethod : id ∈ start.methods c)
    (applies : rule.applies (start.functionAt id) = true)
    (progress : Progress settings rule c start (id :: rest) draft.forest)
    (serves : Serves settings rule c id draft result) :
    ∃ next, result = .ok next ∧ Progress settings rule c start rest next.forest := by
  obtain ⟨fresh, -⟩ := List.nodup_cons.1 nodup
  have same := progress.pending id List.mem_cons_self
  have others (other : FunctionId) (different : other ≠ id) :
      (reached result).forest.functionAt other = draft.forest.functionAt other :=
    serves.functionAt_eq fun isThis => absurd isThis different
  have takes := progress.takes.trans serves.takes
  obtain ⟨stillMethod, stillHere⟩ :=
    progress.mem_methods accompanied List.mem_cons_self isMethod applies
  obtain ⟨companion, isHere, isOwn⟩ := accompanied.companion id isMethod applies
  -- What the getter looks for is told by its name, which no turn changes.
  have keyword : rule.keywordAt draft.forest c id =
      derivedKeyword settings (start.functionAt id) := by
    rw [← accompanied.keyword id isMethod applies, Rule.keywordAt, Rule.keywordAt, same,
      Forest.className, progress.takes.hierarchy]
    rfl
  have isSize : isSizeOf settings (rule.keywordAt draft.forest c id)
      (draft.forest.functionAt companion).name = true := by
    rw [keyword, progress.takes.name]
    exact isOwn.isSizeOf (Text.afterFirst_isSuffix _ _).isInfix
  obtain ⟨accessor, isAccessor, goesBy, next, rfl, served, stay⟩ :=
    serves.exists_served stillMethod (same ▸ applies) (stillHere companion isHere isOwn) isSize
  have atStart : accessor ∈ start.methods c := (progress.takes.methods c).subset isAccessor
  rw [keyword, progress.takes.name] at goesBy
  have isCompanion := accompanied.own id isMethod applies accessor atStart goesBy
  refine ⟨next, rfl, ?_⟩
  constructor
  case takes => exact takes
  case pending =>
    intro other isPending
    have different : other ≠ id := fun isThis => fresh (isThis ▸ isPending)
    exact (others other different).trans (progress.pending other (List.mem_cons_of_mem _ isPending))
  case idle =>
    intro other only idle
    have different : other ≠ id := by
      rintro rfl
      simp [idle isMethod] at applies
    exact (others other different).trans (progress.idle other only idle)
  case gone =>
    intro other isOther isGone
    -- Only the accessor that was found leaves in this turn.
    by_cases isTaken : other = accessor
    · exact ⟨id, isMethod, fresh, applies, isTaken ▸ isCompanion⟩
    · have wasGone : other ∉ draft.forest.methods c := fun wasThere =>
        isGone (stay other wasThere isTaken)
      obtain ⟨getter, isGetter, isDone, rest⟩ := progress.gone other isOther wasGone
      exact ⟨getter, isGetter, fun later => isDone (List.mem_cons_of_mem _ later), rest⟩
  case served =>
    intro getter isGetter isDone appliesGetter
    by_cases isThis : getter = id
    · subst isThis
      exact ⟨accessor, atStart, isCompanion, served.trans (congrArg _ same)⟩
    · obtain ⟨companion, isHere, isOwn, wasServed⟩ := progress.served getter isGetter
        (List.mem_cons.not.2 (not_or.2 ⟨isThis, isDone⟩)) appliesGetter
      exact ⟨companion, isHere, isOwn, (others getter isThis).trans wasServed⟩

omit accompanied in
/-- Nothing happens to a method that the rule is not for. -/
theorem turn_of_idle (idle : rule.applies (start.functionAt id) = false)
    (progress : Progress settings rule c start (id :: rest) draft.forest)
    (serves : Serves settings rule c id draft result) :
    ∃ next, result = .ok next ∧ Progress settings rule c start rest next.forest := by
  have same := progress.pending id List.mem_cons_self
  cases serves with
  | fail _ applies => simp [same, idle] at applies
  | serve _ applies => simp [same, idle] at applies
  | skip =>
      refine ⟨draft, rfl, progress.takes, fun other isPending =>
        progress.pending other (List.mem_cons_of_mem _ isPending), progress.idle,
        fun other isOther isGone => ?_, fun getter isGetter isDone applies => ?_⟩
      · obtain ⟨getter, isGetter, isDone, rest⟩ := progress.gone other isOther isGone
        exact ⟨getter, isGetter, fun later => isDone (List.mem_cons_of_mem _ later), rest⟩
      · have different : getter ≠ id := by
          rintro rfl
          simp [idle] at applies
        exact progress.served getter isGetter (List.mem_cons.not.2 (not_or.2 ⟨different, isDone⟩))
          applies

/-- The loop over the methods of the class comes to an end, with all of its getters served. -/
theorem foldlM {step : ClassId → FunctionId → Draft → Except Stopped Draft}
    (each : ∀ c id draft, Serves settings rule c id draft (step c id draft))
    (nodup : ids.Nodup) (areMethods : ids ⊆ start.methods c)
    (progress : Progress settings rule c start ids draft.forest) :
    ∃ left, ids.foldlM (fun draft id => step c id draft) draft = .ok left ∧
      Progress settings rule c start [] left.forest := by
  induction ids generalizing draft with
  | nil => exact ⟨draft, rfl, progress⟩
  | cons id rest ih =>
      obtain ⟨isMethod, areMethods⟩ := List.cons_subset.1 areMethods
      have turn : ∃ next, step c id draft = .ok next ∧
          Progress settings rule c start rest next.forest := by
        by_cases applies : rule.applies (start.functionAt id) = true
        · exact progress.turn_of_applies accompanied nodup isMethod applies (each c id draft)
        · exact progress.turn_of_idle (Bool.eq_false_iff.2 applies) (each c id draft)
      obtain ⟨next, goesOn, progress⟩ := turn
      obtain ⟨left, finished, done⟩ := ih (List.nodup_cons.1 nodup).2 areMethods progress
      refine ⟨left, ?_, done⟩
      rw [List.foldlM_cons, goesOn]
      exact finished

end Progress

/-- A loop comes to a class only once. -/
theorem not_mem_of_allClasses_eq {earlier later : List ClassId}
    (classes : forest.allClasses = earlier ++ c :: later) : c ∉ earlier ∧ c ∉ later := by
  have distinct : (earlier ++ c :: later).Nodup := classes ▸ forest.hierarchy.nodup_all
  refine ⟨fun isEarlier => ?_, (List.nodup_cons.1 distinct.of_append_right).1⟩
  exact List.disjoint_of_nodup_append distinct isEarlier List.mem_cons_self

section Pass

variable {step : ClassId → FunctionId → Draft → Except Stopped Draft}
  (each : ∀ c id draft, Serves settings rule c id draft (step c id draft))

include each

/-- Other classes are gone through without this one being touched. -/
theorem Aside.foldlM {classes : List ClassId} (elsewhere : c ∉ classes)
    (aside : Aside settings c before draft.forest) :
    Aside settings c before (reached (classes.foldlM (fun draft d =>
      (draft.forest.methods d).foldlM (fun draft id => step d id draft) draft) draft)).forest := by
  induction classes generalizing draft with
  | nil => exact aside
  | cons d rest ih =>
      obtain ⟨different, elsewhere⟩ := not_or.1 (List.mem_cons.not.1 elsewhere)
      rw [List.foldlM_cons]
      refine reached_bind ?_ fun next aside => ih elsewhere aside
      exact kept_foldlM
        (fun draft id aside => aside.serves (Ne.symm different) (each d id draft)) aside

variable (owns : draft.forest.Owns c) (accompanied : Accompanied settings rule draft.forest c)

include owns accompanied

/-- Once the loop has come to a class whose getters have their own companions, it gets through that.
-/
theorem exists_progress_of_enters {earlier : List ClassId} {entered : Draft}
    (elsewhere : c ∉ earlier)
    (enters : earlier.foldlM (fun draft d => (draft.forest.methods d).foldlM
      (fun draft id => step d id draft) draft) draft = .ok entered) :
    ∃ left, (entered.forest.methods c).foldlM (fun draft id => step c id draft) entered = .ok left ∧
      Progress settings rule c draft.forest [] left.forest := by
  have aside : Aside settings c draft.forest (reached (.ok entered)).forest := by
    rw [← enters]
    exact Aside.foldlM each elsewhere (.refl _)
  rw [show entered.forest.methods c = draft.forest.methods c from aside.methods]
  exact Progress.foldlM accompanied each owns.nodup (List.Subset.refl _) (.enter owns aside)

theorem not_stopsAt : ¬StopsAt step draft c id stopped := by
  rintro ⟨turn, @⟨earlier, later, front, back, entered, classes, enters, methods, turns⟩, stops⟩
  obtain ⟨left, finished, -⟩ := exists_progress_of_enters each owns accompanied
    (not_mem_of_allClasses_eq classes).1 enters
  have failed : (entered.forest.methods c).foldlM (fun draft id => step c id draft) entered =
      .error stopped :=
    foldlM_eq_error_iff.2 ⟨front, id, back, turn, methods, turns, stops⟩
  simp [failed] at finished

theorem progress_tryForEachMethod (finished : draft.tryForEachMethod step = .ok final) :
    Progress settings rule c draft.forest [] final.forest := by
  by_cases isClass : c ∈ draft.forest.allClasses
  · obtain ⟨earlier, later, classes⟩ := List.append_of_mem isClass
    obtain ⟨notEarlier, notLater⟩ := not_mem_of_allClasses_eq classes
    rw [Draft.tryForEachMethod, classes, List.foldlM_append] at finished
    obtain ⟨entered, enters, finished⟩ := exists_ok_of_bind finished
    rw [List.foldlM_cons] at finished
    obtain ⟨left, leaves, finished⟩ := exists_ok_of_bind finished
    obtain ⟨same, isLeft, progress⟩ :=
      exists_progress_of_enters each owns accompanied notEarlier enters
    obtain rfl := Except.ok.inj (isLeft.symm.trans leaves)
    have aside : Aside settings c same.forest (reached (.ok final)).forest := by
      rw [← finished]
      exact Aside.foldlM each notLater (.refl _)
    exact progress.leave owns aside
  · have aside : Aside settings c draft.forest (reached (.ok final)).forest := by
      rw [← finished]
      exact Aside.foldlM each isClass (.refl _)
    have empty : draft.forest.methods c = [] := by
      refine List.eq_nil_iff_forall_not_mem.2 fun id isMethod => isClass ?_
      exact Hierarchy.mem_all_iff.2 (Forest.lt_size_of_mem_methods isMethod)
    have progress : Progress settings rule c draft.forest (draft.forest.methods c) final.forest :=
      .enter owns aside
    rwa [empty] at progress

end Pass

/-! ## Both rules -/

/-- Whether a method returns a buffer of unknown size, or fills one. -/
def needsCompanion (settings : Settings) (function : Function) : Bool :=
  needsReturnAccessor settings function || (filledBuffer? settings function).isSome

/-- Whether the getters of a class have different names, no overrides, and companions of their own.
-/
structure Companioned (settings : Settings) (forest : Forest) (c : ClassId) : Prop where
  distinct : ∀ getter ∈ forest.methods c,
    needsCompanion settings (forest.functionAt getter) = true →
    ∀ other ∈ forest.methods c, needsCompanion settings (forest.functionAt other) = true →
      (forest.functionAt getter).name = (forest.functionAt other).name → getter = other
  returned : ∀ getter ∈ forest.methods c,
    needsReturnAccessor settings (forest.functionAt getter) = true →
    returnKeyword settings (forest.className c) (forest.functionAt getter) =
      .derived (derivedKeyword settings (forest.functionAt getter))
  filled : ∀ getter ∈ forest.methods c,
    (filledBuffer? settings (forest.functionAt getter)).isSome = true →
    getterKeyword settings (forest.functionAt getter) =
      .derived (derivedKeyword settings (forest.functionAt getter))
  companion : ∀ getter ∈ forest.methods c,
    needsCompanion settings (forest.functionAt getter) = true →
    ∃ id ∈ forest.methods c,
      IsCompanion settings (forest.functionAt getter).name (forest.functionAt id).name

/-- Whether no getter of a class can be taken in: its keyword goes for none of the methods but its
own companions, these are not those of another getter as well, and it needs one only once. -/
structure Unmistaken (settings : Settings) (forest : Forest) (c : ClassId) : Prop where
  own : ∀ getter ∈ forest.methods c, needsCompanion settings (forest.functionAt getter) = true →
    ∀ id ∈ forest.methods c,
      isSizeOf settings (derivedKeyword settings (forest.functionAt getter))
        (forest.functionAt id).name = true →
      IsCompanion settings (forest.functionAt getter).name (forest.functionAt id).name
  unshared : ∀ getter ∈ forest.methods c,
    needsCompanion settings (forest.functionAt getter) = true →
    ∀ other ∈ forest.methods c, needsCompanion settings (forest.functionAt other) = true →
    ∀ id ∈ forest.methods c,
      IsCompanion settings (forest.functionAt getter).name (forest.functionAt id).name →
      IsCompanion settings (forest.functionAt other).name (forest.functionAt id).name →
      (forest.functionAt getter).name = (forest.functionAt other).name
  once : ∀ getter ∈ forest.methods c,
    needsReturnAccessor settings (forest.functionAt getter) = true →
    filledBuffer? settings (forest.functionAt getter) = none

theorem needsCompanion_of_returned (needed : needsReturnAccessor settings function = true) :
    needsCompanion settings function = true :=
  Bool.or_eq_true_iff.2 (.inl needed)

theorem needsCompanion_of_filled (filled : (filledBuffer? settings function).isSome = true) :
    needsCompanion settings function = true :=
  Bool.or_eq_true_iff.2 (.inr filled)

theorem Companioned.haveCompanions (companioned : Companioned settings start c)
    (unmistaken : Unmistaken settings start c) :
    HaveCompanions settings (needsCompanion settings) start c where
  companion := companioned.companion
  own := unmistaken.own
  unshared := fun getter isMethod needs other isOther needsOther id isHere isOwn isShared =>
    companioned.distinct getter isMethod needs other isOther needsOther
      (unmistaken.unshared getter isMethod needs other isOther needsOther id isHere isOwn isShared)

section Both

variable (companioned : Companioned settings start c) (unmistaken : Unmistaken settings start c)

include companioned unmistaken

theorem accompanied_returns : Accompanied settings (.returns settings) start c where
  toHaveCompanions := (companioned.haveCompanions unmistaken).mono fun _ needed =>
    needsCompanion_of_returned needed
  keyword := fun getter isMethod needed =>
    congrArg Keyword.search (companioned.returned getter isMethod needed)

variable (owns : start.Owns c) (progress : Progress settings (.returns settings) c start [] after)

include owns progress

omit companioned in
/-- A getter that fills a buffer is what it was before, after the rule for returned buffers. -/
theorem functionAt_of_filled (isMethod : getter ∈ start.methods c)
    (filled : (filledBuffer? settings (after.functionAt getter)).isSome = true) :
    after.functionAt getter = start.functionAt getter ∧
      needsReturnAccessor settings (start.functionAt getter) = false := by
  have unneeded : needsReturnAccessor settings (start.functionAt getter) = false := by
    by_contra needed
    rw [Bool.not_eq_false] at needed
    obtain ⟨id, -, -, served⟩ := progress.served getter isMethod List.not_mem_nil needed
    have same : filledBuffer? settings (after.functionAt getter) =
        filledBuffer? settings (start.functionAt getter) := by
      rw [served]
      rfl
    rw [same, unmistaken.once getter isMethod needed] at filled
    cases filled
  refine ⟨progress.idle getter (fun d different isOther => ?_) fun _ => unneeded, unneeded⟩
  exact different (owns.alone getter isMethod d isOther)

omit owns in
/-- What the rule for returned buffers takes off a class is no getter that only fills one, and the
companion of no such getter. -/
theorem mem_methods_of_unneeded (isMethod : getter ∈ start.methods c)
    (needs : needsCompanion settings (start.functionAt getter) = true)
    (unneeded : needsReturnAccessor settings (start.functionAt getter) = false) :
    getter ∈ after.methods c ∧ ∀ id ∈ start.methods c,
      IsCompanion settings (start.functionAt getter).name (start.functionAt id).name →
      id ∈ after.methods c := by
  have companions := companioned.haveCompanions unmistaken
  have unlike {other : FunctionId}
      (needed : (Rule.returns settings).applies (start.functionAt other) = true) :
      getter ≠ other := by
    rintro rfl
    have stillNeeded : needsReturnAccessor settings (start.functionAt getter) = true := needed
    simp [unneeded] at stillNeeded
  constructor
  · by_contra isGone
    obtain ⟨other, isOther, -, needed, isCompanion⟩ := progress.gone getter isMethod isGone
    exact unlike needed (companions.eq_of_isCompanion isMethod needs isOther
      (needsCompanion_of_returned needed) isCompanion)
  · intro id isHere isOwn
    by_contra isGone
    obtain ⟨other, isOther, -, needed, isCompanion⟩ := progress.gone id isHere isGone
    exact unlike needed (companions.unshared getter isMethod needs other isOther
      (needsCompanion_of_returned needed) id isHere isOwn isCompanion)

/-- The getters that fill a buffer still have their companions after the rule for returned buffers.
-/
theorem accompanied_fills : Accompanied settings (.fills settings) after c := by
  have companions := companioned.haveCompanions unmistaken
  have atStart {id : FunctionId} (isMethod : id ∈ after.methods c) : id ∈ start.methods c :=
    (progress.takes.methods c).subset isMethod
  have same {getter : FunctionId} (isMethod : getter ∈ after.methods c)
      (filled : (filledBuffer? settings (after.functionAt getter)).isSome = true) :=
    functionAt_of_filled unmistaken owns progress (atStart isMethod) filled
  have needs {getter : FunctionId} (isMethod : getter ∈ after.methods c)
      (filled : (filledBuffer? settings (after.functionAt getter)).isSome = true) :
      needsCompanion settings (start.functionAt getter) = true :=
    needsCompanion_of_filled ((same isMethod filled).1 ▸ filled)
  refine ⟨⟨fun getter isMethod filled => ?_, fun getter isMethod filled id isHere isSize => ?_,
    fun getter isMethod filled other isOther filledOther id isHere isOwn isShared => ?_⟩,
    fun getter isMethod filled => ?_⟩
  · have isNeeded := needs isMethod filled
    obtain ⟨id, isHere, isOwn⟩ := companions.companion getter (atStart isMethod) isNeeded
    rw [progress.takes.name]
    refine ⟨id, ?_, progress.takes.name id ▸ isOwn⟩
    exact (mem_methods_of_unneeded companioned unmistaken progress (atStart isMethod) isNeeded
      (same isMethod filled).2).2 id isHere isOwn
  · rw [(same isMethod filled).1, progress.takes.name] at isSize
    rw [progress.takes.name, progress.takes.name]
    exact companions.own getter (atStart isMethod) (needs isMethod filled) id (atStart isHere)
      isSize
  · rw [progress.takes.name, progress.takes.name] at isOwn isShared
    exact companions.unshared getter (atStart isMethod) (needs isMethod filled) other
      (atStart isOther) (needs isOther filledOther) id (atStart isHere) isOwn isShared
  · have keyword := congrArg Keyword.search (companioned.filled getter (atStart isMethod)
      ((same isMethod filled).1 ▸ filled))
    rw [← (same isMethod filled).1] at keyword
    exact keyword

omit companioned unmistaken in
theorem owns_of_progress : after.Owns c where
  nodup := (progress.takes.methods c).nodup owns.nodup
  alone := fun id isMethod d isOther =>
    owns.alone id ((progress.takes.methods c).subset isMethod) d
      ((progress.takes.methods d).subset isOther)

variable {done : Forest} (later : Progress settings (.fills settings) c after [] done)

include later

omit companioned in
/-- A getter that returns a buffer keeps the companion that the first rule found. -/
theorem exists_companion_of_needed (isMethod : getter ∈ start.methods c)
    (needed : needsReturnAccessor settings (start.functionAt getter) = true) :
    ∃ id ∈ start.methods c,
      IsCompanion settings (start.functionAt getter).name (start.functionAt id).name ∧
      (done.functionAt getter).ret.type.sizeAccessor = some (.getter id) := by
  obtain ⟨id, isHere, isOwn, served⟩ := progress.served getter isMethod List.not_mem_nil needed
  have unfilled : (filledBuffer? settings (after.functionAt getter)).isSome = false := by
    by_contra filled
    rw [Bool.not_eq_false] at filled
    have unneeded := (functionAt_of_filled unmistaken owns progress isMethod filled).2
    simp [unneeded] at needed
  have stays : done.functionAt getter = after.functionAt getter :=
    later.idle getter (fun d different isOther =>
      different (owns.alone getter isMethod d ((progress.takes.methods d).subset isOther)))
      fun _ => unfilled
  refine ⟨id, isHere, isOwn, ?_⟩
  rw [stays, served]
  rfl

/-- A getter that only fills a buffer gets a companion from the second rule. -/
theorem exists_companion_of_unneeded (isMethod : getter ∈ start.methods c)
    (needs : needsCompanion settings (start.functionAt getter) = true)
    (unneeded : needsReturnAccessor settings (start.functionAt getter) = false) :
    ∃ id ∈ start.methods c,
      IsCompanion settings (start.functionAt getter).name (start.functionAt id).name ∧
      (done.functionAt getter).ret.type.sizeAccessor = some (.getter id) := by
  have same : after.functionAt getter = start.functionAt getter :=
    progress.idle getter (fun d different isOther =>
      different (owns.alone getter isMethod d isOther)) fun _ => unneeded
  have filled : (filledBuffer? settings (after.functionAt getter)).isSome = true := by
    rw [same]
    simpa [needsCompanion, unneeded] using needs
  obtain ⟨id, isHere, isOwn, served⟩ := later.served getter
    (mem_methods_of_unneeded companioned unmistaken progress isMethod needs unneeded).1
    List.not_mem_nil filled
  rw [progress.takes.name, progress.takes.name] at isOwn
  refine ⟨id, (progress.takes.methods c).subset isHere, isOwn, ?_⟩
  obtain ⟨position, isFilled⟩ := Option.isSome_iff_exists.1 filled
  obtain ⟨⟨array, isBuffer, -⟩, -⟩ := filledBuffer?_eq_some isFilled
  rw [served, Rule.serve_fills isFilled, promote_eq id isBuffer]
  rfl

end Both

/-- Where the getters of a class have companions of their own and cannot be taken in, the rules for
getters never give up at one of them, and size each of them by a companion of its own, in whatever
order the methods stand.  If the rules for buffers give up at all, it is in another class. -/
theorem companions_resolved (owns : draft.forest.Owns c)
    (companioned : Companioned settings draft.forest c)
    (unmistaken : Unmistaken settings draft.forest c) :
    (∀ id stopped, ¬FailsAt settings draft c id stopped) ∧
    (∀ stopped, resolveBuffers settings draft = .error stopped →
      ∃ d id, d ≠ c ∧ FailsAt settings draft d id stopped) ∧
    ∀ final, (resolveReturns settings draft >>= resolveFilledBuffers settings) = .ok final →
      ∀ getter ∈ draft.forest.methods c,
        needsCompanion settings (draft.forest.functionAt getter) = true →
        ∃ id ∈ draft.forest.methods c,
          IsCompanion settings (draft.forest.functionAt getter).name
            (draft.forest.functionAt id).name ∧
          (final.forest.functionAt getter).ret.type.sizeAccessor = some (.getter id) := by
  have returns := accompanied_returns companioned unmistaken
  have between {answered : Draft} (finished : resolveReturns settings draft = .ok answered) :
      Progress settings (.returns settings) c draft.forest [] answered.forest :=
    progress_tryForEachMethod (serves_resolveReturn settings) owns returns finished
  have never (id : FunctionId) (stopped : Stopped) : ¬FailsAt settings draft c id stopped := by
    rintro (stops | ⟨answered, finished, stops⟩)
    · exact not_stopsAt (serves_resolveReturn settings) owns returns stops
    · have progress := between finished
      exact not_stopsAt (serves_resolveFilled settings) (owns_of_progress owns progress)
        (accompanied_fills companioned unmistaken owns progress) stops
  refine ⟨never, ?_, ?_⟩
  · intro stopped failed
    obtain ⟨d, id, fails⟩ := resolveBuffers_eq_error_iff.1 failed
    refine ⟨d, id, ?_, fails⟩
    rintro rfl
    exact never id stopped fails
  · intro final finished getter isMethod needs
    obtain ⟨answered, first, second⟩ := exists_ok_of_bind finished
    have progress := between first
    have later : Progress settings (.fills settings) c answered.forest [] final.forest :=
      progress_tryForEachMethod (serves_resolveFilled settings) (owns_of_progress owns progress)
        (accompanied_fills companioned unmistaken owns progress) second
    cases needed : needsReturnAccessor settings (draft.forest.functionAt getter) with
    | true => exact exists_companion_of_needed unmistaken owns progress later isMethod needed
    | false =>
        exact exists_companion_of_unneeded companioned unmistaken owns progress later isMethod needs
          needed

/-- A class with some getters that fill a buffer, and with their companions in the opposite order.
-/
def reversedCompanions (getters : List String) : Draft :=
  let bytes : ValueType :=
    { ValueType.void with
      kind := .scalar .byte
      isArray := true
      ctype := { name := "uint8_t", isPointer := true } }
  let getter (name : String) : Function :=
    { name, cname := "", ret := { type := .void }
      params := [.plain { name := "buffer", type := bytes }] }
  let companion (name : String) : Function :=
    { name := name ++ "_size", cname := "", params := [],
      ret := { type := { ValueType.void with kind := .scalar .ulong } } }
  let stored := getters.map getter ++ getters.reverse.map companion
  let toxClass := (Forest.empty.requireClass none "Tox").1
  { forest := { toxClass with functions := stored }.modifyClass 0 fun c =>
      { c with methods := List.range stored.length } }

/-- The keywords `name` and `status` have nothing to do with each other. -/
theorem companions_nameAndStatus :
    (reversedCompanions ["get_name", "get_status"]).forest.Owns 0 ∧
    Companioned Settings.default (reversedCompanions ["get_name", "get_status"]).forest 0 ∧
    Unmistaken Settings.default (reversedCompanions ["get_name", "get_status"]).forest 0 ∧
    ∃ final,
      (resolveReturns Settings.default (reversedCompanions ["get_name", "get_status"]) >>=
        resolveFilledBuffers Settings.default) = .ok final ∧
      ∃ id ∈ (reversedCompanions ["get_name", "get_status"]).forest.methods 0,
        IsCompanion Settings.default "get_name"
          ((reversedCompanions ["get_name", "get_status"]).forest.functionAt id).name ∧
        (final.forest.functionAt 0).ret.type.sizeAccessor = some (.getter id) := by
  have distinct : (reversedCompanions ["get_name", "get_status"]).forest.MethodsDistinct := by
    decide +kernel
  have companioned : Companioned Settings.default
      (reversedCompanions ["get_name", "get_status"]).forest 0 :=
    ⟨by decide +kernel, by decide +kernel, by decide +kernel, by decide +kernel⟩
  have unmistaken : Unmistaken Settings.default
      (reversedCompanions ["get_name", "get_status"]).forest 0 :=
    ⟨by decide +kernel, by decide +kernel, by decide +kernel⟩
  have finishes :
      (resolveReturns Settings.default (reversedCompanions ["get_name", "get_status"]) >>=
        resolveFilledBuffers Settings.default).toBool = true := by decide +kernel
  refine ⟨distinct.owns 0, companioned, unmistaken, ?_⟩
  cases result : resolveReturns Settings.default (reversedCompanions ["get_name", "get_status"]) >>=
      resolveFilledBuffers Settings.default with
  | error stopped =>
      rw [result] at finishes
      cases finishes
  | ok final =>
      exact ⟨final, rfl, (companions_resolved (distinct.owns 0) companioned unmistaken).2.2 final
        result 0 (by decide +kernel) (by decide +kernel)⟩

/-- The first of two getters of a `name` gets the companion of the second one, which comes first,
and the second one gets what is left. -/
theorem swapped_selfAndPeerName :
    (reversedCompanions ["self_get_name", "peer_get_name"]).forest.Owns 0 ∧
    Companioned Settings.default (reversedCompanions ["self_get_name", "peer_get_name"]).forest 0 ∧
    (List.range 4).map (fun id =>
      ((reversedCompanions ["self_get_name", "peer_get_name"]).forest.functionAt id).name) =
        ["self_get_name", "peer_get_name", "peer_get_name_size", "self_get_name_size"] ∧
    (resolveReturns Settings.default (reversedCompanions ["self_get_name", "peer_get_name"]) >>=
      resolveFilledBuffers Settings.default).toOption.map (fun final =>
        ((final.forest.functionAt 0).ret.type.sizeAccessor,
          (final.forest.functionAt 1).ret.type.sizeAccessor)) =
      some (some (.getter 2), some (.getter 3)) := by
  have distinct :
      (reversedCompanions ["self_get_name", "peer_get_name"]).forest.MethodsDistinct := by
    decide +kernel
  exact ⟨distinct.owns 0,
    ⟨by decide +kernel, by decide +kernel, by decide +kernel, by decide +kernel⟩,
    by decide +kernel, by decide +kernel⟩

end Sizing

end Bindery
