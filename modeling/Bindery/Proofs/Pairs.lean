import Bindery.Proofs.Partners

/-!
# Pairs of accessors

A pair that belongs together by its names is folded into one property if the marker of getters
stands only once in the getter's name, and no getter before it comes to the same name of a setter.
The loop is cut at the turn of the getter: of the setters that alone have their names, those are
left then that no getter has called.
-/

namespace Bindery

/-- The methods of a class that have a given name. -/
def Forest.namesakes (forest : Forest) (c : ClassId) (name : String) : List FunctionId :=
  (forest.methods c).filter fun id => (forest.functionAt id).name == name

namespace Accessors

variable {settings : Settings} {draft : Draft} {before middle after forest : Forest} {c : ClassId}
  {id getter setter : FunctionId} {ids visited rest : List FunctionId}

/-! ## The methods of a class -/

/-- Whether a getter comes to the name of a method when it looks for its setter. -/
def Calls (settings : Settings) (forest : Forest) (getter setter : FunctionId) : Prop :=
  isGetter settings (forest.functionAt getter) = true ∧
    setterName settings (forest.functionAt getter) = (forest.functionAt setter).name

instance : Decidable (Calls settings forest getter setter) :=
  inferInstanceAs (Decidable (_ ∧ _))

/-- Whether a method of one parameter alone has its name. -/
structure Sole (forest : Forest) (c : ClassId) (setter : FunctionId) : Prop where
  isMethod : setter ∈ forest.methods c
  one : (forest.functionAt setter).params.length = 1
  alone : ∀ id ∈ forest.methods c, (forest.functionAt id).name = (forest.functionAt setter).name →
    id = setter

theorem Sole.ne_of_isGetter (sole : Sole forest c setter)
    (isGetter : isGetter settings (forest.functionAt getter) = true) : setter ≠ getter := by
  rintro rfl
  have one := sole.one
  rw [params_of_isGetter isGetter] at one
  cases one

/-- What is left of a class after the loop came to some of its methods: the others are still there
unless they take parameters, and of the setters those that no getter has called. -/
structure Passed (settings : Settings) (c : ClassId) (before : Forest)
    (visited rest : List FunctionId) (after : Forest) : Prop where
  kept : ∀ id ∈ after.methods c,
    id ∈ before.methods c ∧ after.functionAt id = before.functionAt id
  nodup : (after.methods c).Nodup
  params : ∀ id, (after.functionAt id).params = (before.functionAt id).params
  waits : ∀ id ∈ rest, (before.functionAt id).params = [] → id ∈ after.methods c
  setters : ∀ setter, Sole before c setter →
    (setter ∈ after.methods c ↔ ∀ getter ∈ visited, ¬Calls settings before getter setter)

/-- Whether a class only got properties at the end, whose getters are among some methods. -/
def Appends (c : ClassId) (ids : List FunctionId) (before after : Forest) : Prop :=
  ∃ more, (after.classAt c).properties = (before.classAt c).properties ++ more ∧
    ∀ property ∈ more, property.getter ∈ ids

theorem Appends.refl (forest : Forest) : Appends c [] forest forest :=
  ⟨[], (List.append_nil _).symm, fun _ member => nomatch member⟩

theorem Appends.trans {more : List FunctionId} (first : Appends c ids before middle)
    (second : Appends c more middle after) : Appends c (ids ++ more) before after := by
  obtain ⟨added, isMiddle, getters⟩ := first
  obtain ⟨others, isAfter, moreGetters⟩ := second
  refine ⟨added ++ others, by rw [isAfter, isMiddle, List.append_assoc], fun property member => ?_⟩
  rcases List.mem_append.1 member with early | late
  · exact List.mem_append_left _ (getters property early)
  · exact List.mem_append_right _ (moreGetters property late)

theorem Folds.appends (folds : Folds settings c getter before after) :
    Appends c [getter] before after :=
  ⟨_, folds.properties, fun property member => by
    rw [List.mem_singleton.1 member]
    exact List.mem_singleton_self _⟩

theorem Passed.start (nodup : (before.methods c).Nodup) (leavesAlone : LeavesAlone c before after) :
    Passed settings c before [] (before.methods c) after where
  kept := fun id isThere => by
    have wasMethod := leavesAlone.methods_eq ▸ isThere
    exact ⟨wasMethod, leavesAlone.functions id wasMethod⟩
  nodup := leavesAlone.methods_eq ▸ nodup
  params := leavesAlone.params
  waits := fun _ isMethod _ => leavesAlone.methods_eq ▸ isMethod
  setters := fun _ sole => iff_of_true (leavesAlone.methods_eq ▸ sole.isMethod) fun _ visited =>
    nomatch visited

namespace Passed

theorem skip (passed : Passed settings c before visited (id :: rest) after)
    (unlike : isGetter settings (before.functionAt id) = false) :
    Passed settings c before (visited ++ [id]) rest after where
  kept := passed.kept
  nodup := passed.nodup
  params := passed.params
  waits := fun other later => passed.waits other (List.mem_cons_of_mem _ later)
  setters := by
    intro setter sole
    rw [passed.setters setter sole, List.forall_mem_append, List.forall_mem_singleton]
    refine (and_iff_left ?_).symm
    intro calls
    rw [calls.1] at unlike
    cases unlike

/-- A getter finds a method that alone has its name if that is still there and has the name for
which the getter looks. -/
theorem partner?_eq_some_iff (passed : Passed settings c before visited rest middle)
    (same : middle.functionAt id = before.functionAt id)
    (isGetter : isGetter settings (before.functionAt id) = true) (sole : Sole before c setter) :
    partner? settings middle c id = some setter ↔
      setter ∈ middle.methods c ∧ Calls settings before id setter := by
  have different := sole.ne_of_isGetter isGetter
  by_cases isThere : setter ∈ middle.methods c
  · have sameSetter := (passed.kept setter isThere).2
    rw [Accessors.partner?_eq_some_iff (passed.nodup.mem_erase_iff.2 ⟨different, isThere⟩)
      (sameSetter ▸ sole.one), same, sameSetter]
    · exact ⟨fun named => ⟨isThere, isGetter, named⟩, fun calls => calls.2.2⟩
    · intro other isOther named
      obtain ⟨wasMethod, sameOther⟩ := passed.kept other isOther
      rw [sameOther, sameSetter] at named
      exact sole.alone other wasMethod named
  · refine iff_of_false (fun found => isThere ?_) fun calls => isThere calls.1
    exact List.mem_of_mem_erase (partner?_eq_some found).1

/-- The setters that are left after the turn of a getter are those that it does not call either. -/
theorem setter_mem_iff (passed : Passed settings c before visited rest middle)
    (same : middle.functionAt id = before.functionAt id)
    (isGetter : isGetter settings (before.functionAt id) = true)
    (folds : Folds settings c id middle after) (sole : Sole before c setter) :
    setter ∈ after.methods c ↔ setter ∈ middle.methods c ∧ ¬Calls settings before id setter := by
  have different := sole.ne_of_isGetter isGetter
  rw [folds.methods, ne_eq _ (some setter), passed.partner?_eq_some_iff same isGetter sole]
  exact and_congr_right fun isThere => by simp [different, isThere]

theorem turn (fresh : id ∉ rest) (passed : Passed settings c before visited (id :: rest) middle)
    (same : middle.functionAt id = before.functionAt id)
    (isGetter : isGetter settings (before.functionAt id) = true)
    (folds : Folds settings c id middle after)
    (params : ∀ other, (after.functionAt other).params = (middle.functionAt other).params) :
    Passed settings c before (visited ++ [id]) rest after where
  kept := by
    intro other still
    obtain ⟨wasMethod, sameOther⟩ := passed.kept other ((folds.methods other).1 still).1
    exact ⟨wasMethod, (folds.functions other still).trans sameOther⟩
  nodup := folds.nodup
  params := fun other => (params other).trans (passed.params other)
  waits := by
    intro other later noParams
    refine (folds.methods other).2 ⟨passed.waits other (List.mem_cons_of_mem _ later) noParams,
      fun sameId => fresh (sameId ▸ later), fun found => ?_⟩
    have one := (partner?_eq_some found).2.2
    rw [passed.params, noParams] at one
    cases one
  setters := by
    intro setter sole
    rw [passed.setter_mem_iff same isGetter folds sole, passed.setters setter sole,
      List.forall_mem_append, List.forall_mem_singleton]

/-- A method whose turn has come and that was a getter at the start is one still. -/
theorem functionAt_of_isGetter (passed : Passed settings c before visited (id :: rest) middle)
    (isGetter : isGetter settings (before.functionAt id) = true) :
    id ∈ middle.methods c ∧ middle.functionAt id = before.functionAt id := by
  have isThere := passed.waits id List.mem_cons_self (params_of_isGetter isGetter)
  exact ⟨isThere, (passed.kept id isThere).2⟩

theorem folds_foldAccessor (passed : Passed settings c before visited (id :: rest) draft.forest)
    (isGetter : isGetter settings (before.functionAt id) = true) :
    Folds settings c id draft.forest (foldAccessor settings c id draft).forest := by
  obtain ⟨isThere, same⟩ := passed.functionAt_of_isGetter isGetter
  exact Accessors.folds_foldAccessor passed.nodup isThere (same ▸ isGetter)

theorem foldAccessor (fresh : id ∉ rest)
    (passed : Passed settings c before visited (id :: rest) draft.forest) :
    Passed settings c before (visited ++ [id]) rest (foldAccessor settings c id draft).forest ∧
      Appends c [id] draft.forest (foldAccessor settings c id draft).forest := by
  cases isGetter : isGetter settings (before.functionAt id) with
  | true =>
      obtain ⟨-, same⟩ := passed.functionAt_of_isGetter isGetter
      have folds := passed.folds_foldAccessor isGetter
      exact ⟨passed.turn fresh same isGetter folds fun _ => params_foldAccessor, folds.appends⟩
  | false =>
      -- a method that has become a setter meanwhile has another name, but still its parameter
      have unlike : Accessors.isGetter settings (draft.forest.functionAt id) = false := by
        rw [Bool.eq_false_iff]
        intro now
        have noParams := params_of_isGetter now
        rw [passed.params] at noParams
        have isThere := passed.waits id List.mem_cons_self noParams
        rw [(passed.kept id isThere).2, isGetter] at now
        cases now
      rw [foldAccessor_of_not_isGetter unlike]
      exact ⟨passed.skip isGetter, [], (List.append_nil _).symm, fun _ member => nomatch member⟩

theorem turns (nodup : (ids ++ rest).Nodup)
    (passed : Passed settings c before visited (ids ++ rest) draft.forest) :
    Passed settings c before (visited ++ ids) rest (turns settings c ids draft).forest ∧
      Appends c ids draft.forest (turns settings c ids draft).forest := by
  induction ids generalizing visited draft with
  | nil =>
      rw [List.append_nil]
      exact ⟨passed, .refl _⟩
  | cons id more ih =>
      obtain ⟨fresh, nodup⟩ := List.nodup_cons.1 nodup
      obtain ⟨next, appends⟩ := passed.foldAccessor fresh
      obtain ⟨last, others⟩ := ih nodup next
      rw [List.append_assoc] at last
      exact ⟨last, appends.trans others⟩

end Passed

/-! ## The turn of a getter among all -/

/-- The loop over a class, cut at the turn of a getter: the forests before and after that turn, what
the loop has done by then and what it does later. -/
structure Visit (settings : Settings) (c : ClassId) (visited : List FunctionId)
    (getter : FunctionId) (rest : List FunctionId) (before middle after last : Forest) : Prop where
  passed : Passed settings c before visited (getter :: rest) middle
  early : Appends c visited before middle
  folds : Folds settings c getter middle after
  late : Appends c rest after last
  fewer : last.methods c ⊆ after.methods c

/-- What happens in other classes comes after the turn as well as before it. -/
theorem Visit.trans {last : Forest}
    (visit : Visit settings c visited getter rest before middle after last)
    (leavesAlone : LeavesAlone c last forest) :
    Visit settings c visited getter rest before middle after forest where
  passed := visit.passed
  early := visit.early
  folds := visit.folds
  late := by
    rw [Appends, leavesAlone.content]
    exact visit.late
  fewer := by
    rw [leavesAlone.methods_eq]
    exact visit.fewer

section Cut

variable {start : Draft} (owns : draft.forest.Owns c)
  (listed : draft.forest.methods c = visited ++ getter :: rest)
  (isGetter : isGetter settings (draft.forest.functionAt getter) = true)

include owns listed isGetter

/-- The turn of a getter, in the middle of the methods of its class. -/
theorem exists_visit_of_leavesAlone (leavesAlone : LeavesAlone c draft.forest start.forest) :
    (∃ middle after, Visit settings c visited getter rest draft.forest middle after
      (turns settings c (visited ++ getter :: rest) start).forest) ∧
      (turns settings c (visited ++ getter :: rest) start).forest.Owns c := by
  have nodup : (visited ++ getter :: rest).Nodup := listed ▸ owns.nodup
  obtain ⟨fresh, nodupRest⟩ := List.nodup_cons.1 nodup.of_append_right
  have atStart : Passed settings c draft.forest [] (visited ++ getter :: rest) start.forest :=
    listed ▸ .start owns.nodup leavesAlone
  obtain ⟨atGetter, early⟩ := atStart.turns nodup
  obtain ⟨atRest, -⟩ := atGetter.foldAccessor fresh
  rw [← List.append_nil rest] at atRest nodupRest
  obtain ⟨atEnd, late⟩ := atRest.turns nodupRest
  rw [turns_append, turns_cons]
  refine ⟨⟨_, _, atGetter, ?_, atGetter.folds_foldAccessor isGetter, late,
    methods_turns_subset c⟩, atEnd.nodup, fun id isHere other isOther => ?_⟩
  · rwa [Appends, leavesAlone.content] at early
  · rw [← turns_cons, ← turns_append] at isHere isOther
    exact owns.alone id (leavesAlone.methods c (methods_turns_subset c isHere)) other
      (leavesAlone.methods other (methods_turns_subset other isOther))

/-- The same in the middle of all classes. -/
theorem exists_visit : ∃ middle after,
    Visit settings c visited getter rest draft.forest middle after
      (foldAccessors settings draft).forest := by
  have isMethod : getter ∈ draft.forest.methods c := by simp [listed]
  have isClass : c ∈ draft.forest.allClasses :=
    Hierarchy.mem_all_iff.2 (Forest.lt_size_of_mem_methods isMethod)
  obtain ⟨earlier, later, classes⟩ := List.append_of_mem isClass
  have distinct : (earlier ++ c :: later).Nodup := classes ▸ draft.forest.hierarchy.nodup_all
  have notEarlier : c ∉ earlier := fun isEarlier =>
    List.disjoint_of_nodup_append distinct isEarlier List.mem_cons_self
  have notLater : c ∉ later := (List.nodup_cons.1 distinct.of_append_right).1
  have leavesAlone : LeavesAlone c draft.forest (turnsIn settings earlier draft).forest :=
    .turnsIn owns notEarlier
  obtain ⟨⟨middle, after, visit⟩, ownsThen⟩ :=
    exists_visit_of_leavesAlone owns listed isGetter leavesAlone
  refine ⟨middle, after, ?_⟩
  rw [foldAccessors_eq_turnsIn, classes, turnsIn_append, turnsIn_cons, leavesAlone.methods_eq,
    listed]
  exact visit.trans (.turnsIn ownsThen notLater)

end Cut

/-- The properties that a class has got. -/
def gained (c : ClassId) (before after : Forest) : List Property :=
  (after.classAt c).properties.drop (before.classAt c).properties.length

/-- What a whole run makes of a getter with a given partner: it is no method any more, and of the
properties that its class has got just one is its own.  Its partner is a setter which it calls and
which no getter before it has called, and that is no method any more either. -/
structure Accessed (settings : Settings) (c : ClassId) (getter : FunctionId)
    (partner : Option FunctionId) (before after : Forest) : Prop where
  gone : getter ∉ after.methods c
  isGained : propertyOf settings before getter partner ∈ gained c before after
  unique : ∀ property ∈ gained c before after, property.getter = getter →
    property = propertyOf settings before getter partner
  called : ∀ setter, Sole before c setter → (partner = some setter ↔
    Calls settings before getter setter ∧
      ∀ rival ∈ (before.methods c).takeWhile (· != getter), ¬Calls settings before rival setter)
  leaves : ∀ setter, partner = some setter → setter ∉ after.methods c

theorem takeWhile_ne_getter (fresh : getter ∉ visited) :
    (visited ++ getter :: rest).takeWhile (· != getter) = visited := by
  have others : ∀ id ∈ visited, (id != getter) = true := fun id isVisited =>
    bne_iff_ne.2 fun same => fresh (same ▸ isVisited)
  rw [List.takeWhile_append_of_pos others]
  simp

/-- The loop over all classes, seen from a getter. -/
theorem accessed_foldAccessors (owns : draft.forest.Owns c)
    (isMethod : getter ∈ draft.forest.methods c)
    (isGetter : isGetter settings (draft.forest.functionAt getter) = true) :
    ∃ partner, Accessed settings c getter partner draft.forest
      (foldAccessors settings draft).forest := by
  obtain ⟨visited, rest, listed⟩ := List.append_of_mem isMethod
  have nodup : (visited ++ getter :: rest).Nodup := listed ▸ owns.nodup
  have notVisited : getter ∉ visited := fun isVisited =>
    List.disjoint_of_nodup_append nodup isVisited List.mem_cons_self
  have fresh : getter ∉ rest := (List.nodup_cons.1 nodup.of_append_right).1
  obtain ⟨middle, after, passed, ⟨added, isMiddle, early⟩, folds, ⟨more, isLast, late⟩, fewer⟩ :=
    exists_visit owns listed isGetter
  have same := (passed.functionAt_of_isGetter isGetter).2
  have gains : gained c draft.forest (foldAccessors settings draft).forest =
      added ++ propertyOf settings draft.forest getter (partner? settings middle c getter) ::
        more := by
    rw [gained, isLast, folds.properties, isMiddle, propertyOf, same]
    simp [propertyOf]
  refine ⟨partner? settings middle c getter, ?_, ?_, ?_, fun setter sole => ?_,
    fun setter found still => ?_⟩
  · exact fun still => ((folds.methods getter).1 (fewer still)).2.1 rfl
  · rw [gains]
    exact List.mem_append_right _ List.mem_cons_self
  · intro property member isHere
    rw [gains, List.mem_append, List.mem_cons] at member
    rcases member with isEarly | isTurn | isLate
    · exact absurd (isHere ▸ early property isEarly) notVisited
    · exact isTurn
    · exact absurd (isHere ▸ late property isLate) fresh
  · rw [passed.partner?_eq_some_iff same isGetter sole, passed.setters setter sole, listed,
      takeWhile_ne_getter notVisited, and_comm]
  · exact ((folds.methods setter).1 (fewer still)).2.2 found

/-! ## Pairs -/

/-- Whether two methods of a class belong together by their names: a getter and a setter with the
same texts around the markers, and each of them alone with its name. -/
structure Pair (settings : Settings) (forest : Forest) (c : ClassId) (front back : String)
    (getter setter : FunctionId) : Prop where
  getters : forest.namesakes c (front ++ settings.markers.getter ++ back) = [getter]
  noParams : (forest.functionAt getter).params = []
  setters : forest.namesakes c (front ++ settings.markers.setter ++ back) = [setter]
  one : (forest.functionAt setter).params.length = 1

namespace Pair

variable {front back : String} (pair : Pair settings forest c front back getter setter)

include pair

theorem getter_named : getter ∈ forest.methods c ∧
    (forest.functionAt getter).name = front ++ settings.markers.getter ++ back := by
  have isNamed : getter ∈ forest.namesakes c (front ++ settings.markers.getter ++ back) :=
    pair.getters ▸ List.mem_singleton_self _
  simpa [Forest.namesakes] using isNamed

theorem setter_named : setter ∈ forest.methods c ∧
    (forest.functionAt setter).name = front ++ settings.markers.setter ++ back := by
  have isNamed : setter ∈ forest.namesakes c (front ++ settings.markers.setter ++ back) :=
    pair.setters ▸ List.mem_singleton_self _
  simpa [Forest.namesakes] using isNamed

theorem isGetter : isGetter settings (forest.functionAt getter) = true := by
  rw [Accessors.isGetter, pair.getter_named.2, Text.contains_append, pair.noParams]
  rfl

theorem sole : Sole forest c setter where
  isMethod := pair.setter_named.1
  one := pair.one
  alone := by
    intro id isMethod named
    have isNamed : id ∈ forest.namesakes c (front ++ settings.markers.setter ++ back) := by
      rw [pair.setter_named.2] at named
      simp [Forest.namesakes, isMethod, named]
    rw [pair.setters] at isNamed
    exact List.mem_singleton.1 isNamed

/-- The getter comes to the setter's name if its marker does not stand anywhere else. -/
theorem calls (unbordered : Text.Unbordered settings.markers.getter)
    (before : Text.contains front settings.markers.getter = false)
    (after : Text.contains back settings.markers.getter = false) :
    Calls settings forest getter setter := by
  refine ⟨pair.isGetter, ?_⟩
  rw [setterName, pair.getter_named.2, pair.setter_named.2,
    Text.replaceAll_append_of_absent unbordered _ before after]

end Pair

/-- A getter and a setter that belong together by their names become one property of the text around
the marker if and only if the marker stands nowhere else in the getter's name and no getter before
it calls the setter.  In any case the getter is no method any more. -/
theorem foldAccessors_pairs_iff {front back : String}
    (unbordered : Text.Unbordered settings.markers.getter) (owns : draft.forest.Owns c)
    (pair : Pair settings draft.forest c front back getter setter) :
    getter ∉ (foldAccessors settings draft).forest.methods c ∧
      ((setter ∉ (foldAccessors settings draft).forest.methods c ∧
        ∃ property ∈ gained c draft.forest (foldAccessors settings draft).forest,
          property.name = front ++ back ∧ property.getter = getter ∧
            property.setter = some setter) ↔
      Text.contains front settings.markers.getter = false ∧
        Text.contains back settings.markers.getter = false ∧
        ∀ rival ∈ (draft.forest.methods c).takeWhile (· != getter),
          ¬Calls settings draft.forest rival setter) := by
  obtain ⟨isMethod, isNamed⟩ := pair.getter_named
  obtain ⟨partner, accessed⟩ := accessed_foldAccessors owns isMethod pair.isGetter
  have called := accessed.called setter pair.sole
  refine ⟨accessed.gone, fun folded => ?_, fun ⟨before, after, unrivalled⟩ => ?_⟩
  · obtain ⟨-, property, member, name, isGetter, isSetter⟩ := folded
    rw [accessed.unique property member isGetter] at name isSetter
    rw [propertyOf, isNamed] at name
    obtain ⟨before, after⟩ := (Text.replaceAll_append_eq_iff unbordered).1 name
    exact ⟨before, after, (called.1 isSetter).2⟩
  · have isPartner := called.2 ⟨pair.calls unbordered before after, unrivalled⟩
    refine ⟨accessed.leaves setter isPartner, _, accessed.isGained, ?_, rfl, isPartner⟩
    rw [propertyOf, isNamed]
    exact (Text.replaceAll_append_eq_iff unbordered).2 ⟨before, after⟩

/-- A getter and a setter of one value. -/
def accessorsOf (value : String) : Draft :=
  let number : ValueType := { ValueType.void with kind := .scalar .uint }
  let toxClass := (Forest.empty.requireClass none "Tox").1
  let stored := [
    { name := "get_" ++ value, cname := "", ret := { type := number }, params := [] },
    { name := "set_" ++ value, cname := "", ret := default,
      params := [.plain { name := value, type := number }] }].foldl Forest.addFunction toxClass
  { forest := stored.modifyClass 0 fun c => { c with methods := [0, 1] } }

/-- That the marker of setters stands in the name of the value does no harm to the pair. -/
theorem foldAccessors_pairs_resetDelay :
    Text.Unbordered Settings.default.markers.getter ∧
      (accessorsOf "reset_delay").forest.Owns 0 ∧
      Pair Settings.default (accessorsOf "reset_delay").forest 0 "" "reset_delay" 0 1 ∧
      0 ∉ (foldAccessors Settings.default (accessorsOf "reset_delay")).forest.methods 0 ∧
      1 ∉ (foldAccessors Settings.default (accessorsOf "reset_delay")).forest.methods 0 ∧
      ∃ property ∈ gained 0 (accessorsOf "reset_delay").forest
          (foldAccessors Settings.default (accessorsOf "reset_delay")).forest,
        property.name = "reset_delay" ∧ property.getter = 0 ∧ property.setter = some 1 := by
  have unbordered : Text.Unbordered Settings.default.markers.getter := by decide +kernel
  have distinct : (accessorsOf "reset_delay").forest.MethodsDistinct := by decide +kernel
  have pair : Pair Settings.default (accessorsOf "reset_delay").forest 0 "" "reset_delay" 0 1 :=
    ⟨by decide +kernel, by decide +kernel, by decide +kernel, by decide +kernel⟩
  obtain ⟨gone, pairs⟩ := foldAccessors_pairs_iff unbordered (distinct.owns 0) pair
  have unrivalled : ∀ rival ∈ ((accessorsOf "reset_delay").forest.methods 0).takeWhile (· != 0),
      ¬Calls Settings.default (accessorsOf "reset_delay").forest rival 1 := by decide +kernel
  obtain ⟨left, folded⟩ := pairs.2 ⟨by decide +kernel, by decide +kernel, unrivalled⟩
  exact ⟨unbordered, distinct.owns 0, pair, gone, left, folded⟩

/-- The marker of getters is taken out of the name of the value as well, so that the property has
another name and the setter is not found. -/
theorem foldAccessors_targetRate :
    Pair Settings.default (accessorsOf "target_rate").forest 0 "" "target_rate" 0 1 ∧
      (foldAccessors Settings.default (accessorsOf "target_rate")).forest.methods 0 = [1] ∧
      ((foldAccessors Settings.default (accessorsOf "target_rate")).forest.classAt 0).properties =
        [{ name := "tarrate", getter := 0, setter := none, isStatic := false }] :=
  ⟨⟨by decide +kernel, by decide +kernel, by decide +kernel, by decide +kernel⟩,
    by decide +kernel, by decide +kernel⟩

end Accessors

end Bindery
