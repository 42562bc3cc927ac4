import Bindery.Proofs.Sight

/-!
# The rules that can give up

Buffers that are returned and buffers that getters fill are resolved alike: a rule says to which
methods it applies, by which keyword it searches for an accessor, and what it makes of a method that
gets one.  Both rules go through all methods, so where the rules for buffers give up, it is at the
turn of one method.
-/

namespace Bindery

namespace Sizing

variable {settings : Settings} {draft turn final : Draft} {stopped : Stopped} {c : ClassId}
  {id : FunctionId} {function : Function} {position : Nat}

/-- A rule for methods that are of no use without an accessor. -/
structure Rule where
  applies : Function → Bool
  keyword (className : String) : Function → Keyword
  serve (accessor : FunctionId) : Function → Function
  name_serve (accessor : FunctionId) (function : Function) :
    (serve accessor function).name = function.name
  isStatic_serve (accessor : FunctionId) (function : Function) :
    (serve accessor function).isStatic = function.isStatic
  applies_default : applies default = false

namespace Rule

/-- The rule for buffers that are returned. -/
def returns (settings : Settings) : Rule where
  applies := needsReturnAccessor settings
  keyword := returnKeyword settings
  serve := fun accessor function =>
    { function with ret := { function.ret with type := function.ret.type.withGetter accessor } }
  name_serve := fun _ _ => rfl
  isStatic_serve := fun _ _ => rfl
  applies_default := rfl

theorem promote_same (position : Nat) (accessor : FunctionId) (function : Function) :
    (promote position accessor function).name = function.name ∧
      (promote position accessor function).isStatic = function.isStatic := by
  unfold promote
  split <;> exact ⟨rfl, rfl⟩

/-- The rule for buffers that getters fill. -/
def fills (settings : Settings) : Rule where
  applies := fun function => (filledBuffer? settings function).isSome
  keyword := fun _ => getterKeyword settings
  serve := fun accessor function =>
    match filledBuffer? settings function with
    | some position => promote position accessor function
    | none => function
  name_serve := by
    intro accessor function
    cases filledBuffer? settings function with
    | none => rfl
    | some position => exact (promote_same position accessor function).1
  isStatic_serve := by
    intro accessor function
    cases filledBuffer? settings function with
    | none => rfl
    | some position => exact (promote_same position accessor function).2
  applies_default := by
    have unfilled : filledBuffer? settings default = none := by
      rw [filledBuffer?_eq]
      split <;> rfl
    rw [unfilled]
    rfl

theorem serve_fills {accessor : FunctionId}
    (filled : filledBuffer? settings function = some position) :
    (fills settings).serve accessor function = promote position accessor function := by
  simp only [fills, filled]

theorem present_of_applies {rule : Rule} {forest : Forest}
    (applies : rule.applies (forest.functionAt id) = true) : id < forest.functionCount := by
  by_contra absent
  rw [Forest.functionAt_of_absent absent, rule.applies_default] at applies
  cases applies

/-- The keyword by which the rule searches for the accessor of a method. -/
def keywordAt (rule : Rule) (forest : Forest) (c : ClassId) (id : FunctionId) : String :=
  (rule.keyword (forest.className c) (forest.functionAt id)).search

end Rule

/-! ## The turn of a method -/

/-- How the turn of a method ends under a rule: nothing happens to it, or nothing is found for it,
or it is served, which may take the accessor off the class. -/
inductive Serves (settings : Settings) (rule : Rule) (c : ClassId) (id : FunctionId)
    (draft : Draft) : Except Stopped Draft → Prop
  | skip (idle : id ∈ draft.forest.methods c →
        rule.applies (draft.forest.functionAt id) = false) :
      Serves settings rule c id draft (.ok draft)
  | fail {stopped : Stopped} (isMethod : id ∈ draft.forest.methods c)
      (applies : rule.applies (draft.forest.functionAt id) = true)
      (missing : accessor? settings draft.forest (rule.keywordAt draft.forest c id) c
        draft.forest.allClasses = none)
      (same : stopped.draft.forest = draft.forest) :
      Serves settings rule c id draft (.error stopped)
  | serve {accessor : FunctionId} {next : Draft} (isMethod : id ∈ draft.forest.methods c)
      (applies : rule.applies (draft.forest.functionAt id) = true)
      (found : accessor? settings draft.forest (rule.keywordAt draft.forest c id) c
        draft.forest.allClasses = some accessor)
      (changes : next.forest =
        (detach draft c accessor settings.markers.getter).forest.modifyFunction id
          (rule.serve accessor)) :
      Serves settings rule c id draft (.ok next)

theorem serves_resolveReturn (settings : Settings) (c : ClassId) (id : FunctionId) (draft : Draft) :
    Serves settings (.returns settings) c id draft (resolveReturn settings c id draft) := by
  rw [resolveReturn]
  dsimp only
  split
  · rename_i idle
    refine .skip fun isMethod => ?_
    have unneeded := idle.resolve_left (not_not.2 isMethod)
    rwa [Bool.not_eq_true'] at unneeded
  · rename_i needed
    obtain ⟨isMethod, needed⟩ := not_or.1 needed
    rw [not_not] at isMethod
    have applies : needsReturnAccessor settings (draft.forest.functionAt id) = true := by
      simpa using needed
    split
    · rename_i searched found
      exact .fail isMethod applies (congrArg Prod.snd found) (forest_of_search found)
    · rename_i searched accessor found
      refine .serve isMethod applies (congrArg Prod.snd found) ?_
      rw [Draft.forest_modifyFunction, forest_detach, forest_detach, forest_of_search found]
      rfl

theorem serves_resolveFilled (settings : Settings) (c : ClassId) (id : FunctionId) (draft : Draft) :
    Serves settings (.fills settings) c id draft (resolveFilled settings c id draft) := by
  rw [resolveFilled]
  dsimp only
  split
  · rename_i unfilled
    exact .skip fun _ => by simp [Rule.fills, unfilled]
  · rename_i position filled
    have applies : (filledBuffer? settings (draft.forest.functionAt id)).isSome = true := by
      rw [filled]
      rfl
    split
    · rename_i gone
      exact .skip fun isMethod => absurd isMethod gone
    · rename_i isMethod
      rw [not_not] at isMethod
      split
      · rename_i searched found
        exact .fail isMethod applies (congrArg Prod.snd found) (forest_of_search found)
      · rename_i searched accessor found
        refine .serve isMethod applies (congrArg Prod.snd found) ?_
        rw [Draft.forest_note, Draft.forest_modifyFunction, forest_detach, forest_detach,
          forest_of_search found]
        apply Forest.modifyFunction_congr
        have same :
            (if Text.contains (draft.forest.functionAt accessor).name settings.markers.getter ∧
                accessor ∈ draft.forest.methods c then draft.forest.detach c accessor
              else draft.forest).functionAt id = draft.forest.functionAt id := by
          split <;> rfl
        rw [same]
        exact (Rule.serve_fills filled).symm

namespace Serves

variable {rule : Rule} {result : Except Stopped Draft}

/-- A turn takes at most the accessor off the class, and that has the marker of getters. -/
theorem takes (serves : Serves settings rule c id draft result) :
    Takes (fun name => Text.contains name settings.markers.getter = true) draft.forest
      (reached result).forest := by
  cases serves with
  | skip idle => exact .refl _
  | fail _ _ _ same =>
      rw [reached, same]
      exact .refl _
  | serve _ _ _ changes =>
      rw [reached, changes]
      exact (Takes.detach draft c _ _).trans
        (.modifyFunction (rule.name_serve _ _) (rule.isStatic_serve _ _))

theorem functionAt_of_changes {accessor : FunctionId} {next : Draft}
    (applies : rule.applies (draft.forest.functionAt id) = true)
    (changes : next.forest = (detach draft c accessor settings.markers.getter).forest.modifyFunction
      id (rule.serve accessor)) :
    next.forest.functionAt id = rule.serve accessor (draft.forest.functionAt id) := by
  have count : (detach draft c accessor settings.markers.getter).forest.functionCount =
      draft.forest.functionCount := by
    rw [forest_detach]
    split <;> rfl
  have present : id < (detach draft c accessor settings.markers.getter).forest.functionCount :=
    count ▸ Rule.present_of_applies applies
  rw [changes, Forest.functionAt_modifyFunction_self present, functionAt_detach]

/-- A turn changes no function but that of the method, and only where the rule applies to it. -/
theorem functionAt_eq (serves : Serves settings rule c id draft result) {other : FunctionId}
    (idle : other = id → id ∈ draft.forest.methods c →
      rule.applies (draft.forest.functionAt id) = false) :
    (reached result).forest.functionAt other = draft.forest.functionAt other := by
  cases serves with
  | skip => rfl
  | fail _ _ _ same => rw [reached, same]
  | serve isMethod applies _ changes =>
      have different : other ≠ id := by
        intro same
        simp [idle same isMethod] at applies
      rw [reached, changes, Forest.functionAt_modifyFunction_of_ne different, functionAt_detach]

end Serves

/-! ## The turn at which a loop gives up -/

/-- Whether a loop over all methods comes to a method of a class, and with which draft. -/
inductive ComesTo (step : ClassId → FunctionId → Draft → Except Stopped Draft) (start : Draft)
    (c : ClassId) (id : FunctionId) (turn : Draft) : Prop
  | intro {earlier later : List ClassId} {front back : List FunctionId} {entered : Draft}
      (classes : start.forest.allClasses = earlier ++ c :: later)
      (enters : earlier.foldlM (fun draft d => (draft.forest.methods d).foldlM
        (fun draft id => step d id draft) draft) start = .ok entered)
      (methods : entered.forest.methods c = front ++ id :: back)
      (turns : front.foldlM (fun draft id => step c id draft) entered = .ok turn)

/-- Whether a loop gives up at the turn of a method. -/
def StopsAt (step : ClassId → FunctionId → Draft → Except Stopped Draft) (start : Draft)
    (c : ClassId) (id : FunctionId) (stopped : Stopped) : Prop :=
  ∃ turn, ComesTo step start c id turn ∧ step c id turn = .error stopped

section Loops

variable {step : ClassId → FunctionId → Draft → Except Stopped Draft}

theorem foldlM_eq_error_iff {α : Type} {items : List α} {visit : Draft → α → Except Stopped Draft} :
    items.foldlM visit draft = .error stopped ↔ ∃ front item back turn,
      items = front ++ item :: back ∧ front.foldlM visit draft = .ok turn ∧
        visit turn item = .error stopped := by
  constructor
  · intro failed
    induction items generalizing draft with
    | nil => cases failed
    | cons item rest ih =>
        rw [List.foldlM_cons] at failed
        rcases error_or_exists_ok_of_bind failed with stops | ⟨next, goesOn, failed⟩
        · exact ⟨[], item, rest, draft, rfl, rfl, stops⟩
        · obtain ⟨front, last, back, turn, rfl, early, stops⟩ := ih failed
          refine ⟨item :: front, last, back, turn, rfl, ?_, stops⟩
          rw [List.foldlM_cons, goesOn]
          exact early
  · rintro ⟨front, item, back, turn, rfl, early, stops⟩
    rw [List.foldlM_append, early]
    change (visit turn item >>= fun next => back.foldlM visit next) = .error stopped
    rw [stops]
    rfl

theorem tryForEachMethod_eq_error_iff :
    draft.tryForEachMethod step = .error stopped ↔ ∃ c id, StopsAt step draft c id stopped := by
  rw [Draft.tryForEachMethod, foldlM_eq_error_iff]
  constructor
  · rintro ⟨earlier, c, later, entered, classes, enters, failed⟩
    obtain ⟨front, id, back, turn, methods, turns, stops⟩ := foldlM_eq_error_iff.1 failed
    exact ⟨c, id, turn, .intro classes enters methods turns, stops⟩
  · rintro ⟨c, id, turn, ⟨classes, enters, methods, turns⟩, stops⟩
    exact ⟨_, c, _, _, classes, enters,
      foldlM_eq_error_iff.2 ⟨_, id, _, turn, methods, turns, stops⟩⟩

/-- What every step keeps still holds when the loop comes to a method. -/
theorem ComesTo.kept {Invariant : Forest → Prop} (comes : ComesTo step draft c id turn)
    (keeps : ∀ draft c id, Invariant draft.forest → Invariant (reached (step c id draft)).forest)
    (holds : Invariant draft.forest) : Invariant turn.forest := by
  obtain @⟨earlier, _, front, _, entered, classes, enters, methods, turns⟩ := comes
  have inClass (c : ClassId) (ids : List FunctionId) (draft : Draft)
      (holds : Invariant draft.forest) :
      Invariant (reached (ids.foldlM (fun draft id => step c id draft) draft)).forest :=
    kept_foldlM (fun draft id => keeps draft c id) holds
  have atEntry : Invariant (reached (.ok entered)).forest := by
    rw [← enters]
    exact kept_foldlM (fun draft c => inClass c (draft.forest.methods c) draft) holds
  change Invariant (reached (.ok turn)).forest
  rw [← turns]
  exact inClass c front entered atEntry

end Loops

/-- Whether the rules for buffers give up at the turn of a method. -/
def FailsAt (settings : Settings) (draft : Draft) (c : ClassId) (id : FunctionId)
    (stopped : Stopped) : Prop :=
  StopsAt (resolveReturn settings) draft c id stopped ∨
    ∃ answered, resolveReturns settings draft = .ok answered ∧
      StopsAt (resolveFilled settings) answered c id stopped

/-- The other rules never give up. -/
theorem resolveBuffers_eq_error_iff :
    resolveBuffers settings draft = .error stopped ↔
      ∃ c id, FailsAt settings draft c id stopped := by
  have split : resolveBuffers settings draft = .error stopped ↔
      resolveReturns settings draft = .error stopped ∨ ∃ answered,
        resolveReturns settings draft = .ok answered ∧
          resolveFilledBuffers settings answered = .error stopped := by
    rw [resolveBuffers_eq]
    cases returns : resolveReturns settings draft with
    | error cause => simp [bind, Except.bind]
    | ok answered =>
        cases fills : resolveFilledBuffers settings answered <;>
          simp [bind, Except.bind, fills]
  rw [split, resolveReturns, tryForEachMethod_eq_error_iff]
  constructor
  · rintro (⟨c, id, stops⟩ | ⟨answered, finished, failed⟩)
    · exact ⟨c, id, .inl stops⟩
    · obtain ⟨c, id, stops⟩ := tryForEachMethod_eq_error_iff.1 failed
      exact ⟨c, id, .inr ⟨answered, finished, stops⟩⟩
  · rintro ⟨c, id, stops | ⟨answered, finished, stops⟩⟩
    · exact .inl ⟨c, id, stops⟩
    · exact .inr ⟨answered, finished, tryForEachMethod_eq_error_iff.2 ⟨c, id, stops⟩⟩

end Sizing

end Bindery
