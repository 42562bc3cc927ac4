import Bindery.Proofs.Narrowing
import Bindery.Proofs.Types
import Bindery.Settings.Defaults

/-!
# What the rules for buffers leave behind

Where the rules for buffers come to an end, every method that is left knows the size of what it
returns, and no getter is left to fill a buffer for its caller.  Where they give up, they name a
method and a keyword that no accessor in sight goes by.  The named method has a buffer of unknown
size, with one exception: a getter that returns an array of truth values counts as one that returns
only success.
-/

namespace Bindery

variable {settings : Settings} {kinds : Set MoveKind} {draft next final : Draft}
  {function changed : Function} {c : ClassId} {id accessor : FunctionId} {keyword marker : String}

namespace Sizing

/-- Whether a method is meant to hand out what it fills: it is named like a getter, or configured
as one. -/
def actsAsGetter (settings : Settings) (function : Function) : Bool :=
  Text.contains function.name settings.markers.getter
    || (settings.keywords.getterFunctions.get? function.name).isSome

/-- Whether the return is the scalar `void` or `bool`, be it a single value or an array. -/
def returnsSuccess (function : Function) : Bool :=
  function.ret.type.isScalar .void || function.ret.type.isScalar .bool

theorem filledBuffer?_eq (settings : Settings) (function : Function) :
    filledBuffer? settings function =
      if actsAsGetter settings function && returnsSuccess function then
        function.params.findIdx? (·.isPlainArray)
      else none := by
  simp only [filledBuffer?, actsAsGetter, returnsSuccess, Bool.and_eq_true, ite_and]

/-- A getter has no more buffers to fill if it returns a single value. -/
def Drained (settings : Settings) (function : Function) : Prop :=
  actsAsGetter settings function = true → function.ret.type.isArray = false →
    returnsSuccess function = true → ∀ argument ∈ function.params, argument.isPlainArray = false

/-- Whether no buffer of a method is left to its caller. -/
structure Resolved (settings : Settings) (function : Function) : Prop where
  returned : function.ret.type.isArray = true → function.ret.type.isText = false →
    function.ret.replaced = none → function.ret.type.sizeAccessor.isSome = true
  event : function.ret.type.ctype.isPointer = true →
    Text.contains function.cname settings.markers.event = true →
    function.ret.type.name ∉ settings.eventReturnExclusions →
    function.ret.type.sizeAccessor.isSome = true
  drained : Drained settings function

theorem resolved_iff : Resolved settings function ↔
    needsReturnAccessor settings function = false ∧ Drained settings function := by
  constructor
  · rintro ⟨returned, event, drained⟩
    refine ⟨?_, drained⟩
    rw [needsReturnAccessor, returnsBuffer, returnsEvent]
    cases sized : function.ret.type.sizeAccessor with
    | some accessor => simp
    | none =>
        rw [sized] at returned event
        simp only [Option.isSome_none, Bool.false_eq_true, imp_false] at returned event
        by_contra needed
        simp only [Option.isNone_none, Bool.and_true, Bool.not_eq_false, Bool.or_eq_true,
          Bool.and_eq_true, Bool.not_eq_true', Option.isNone_iff_eq_none, List.contains_eq_mem,
          decide_eq_false_iff_not] at needed
        rcases needed with ⟨⟨isArray, isText⟩, kept⟩ | ⟨⟨isPointer, isEvent⟩, included⟩
        · exact returned isArray isText kept
        · exact event isPointer isEvent included
  · rintro ⟨answered, drained⟩
    rw [needsReturnAccessor, returnsBuffer, returnsEvent] at answered
    refine ⟨fun isArray isText kept => ?_, fun isPointer isEvent included => ?_, drained⟩
    · simpa [isArray, isText, kept] using answered
    · simpa [isPointer, isEvent, included] using answered

theorem drained_of_filledBuffer? (none : filledBuffer? settings function = none) :
    Drained settings function := by
  intro getter _ success argument member
  rw [filledBuffer?_eq, getter, success] at none
  simpa using List.findIdx?_eq_none_iff.1 none argument member

/-! ## What each rewriting keeps -/

theorem answered_of_sized (sized : function.ret.type.sizeAccessor.isSome = true) :
    needsReturnAccessor settings function = false := by
  simp [needsReturnAccessor, Option.isNone_eq_false_iff.2 sized]

theorem resolved_promote {position : Nat}
    (found : filledBuffer? settings function = some position) :
    Resolved settings (promote position accessor function) := by
  obtain ⟨⟨buffer, isBuffer, isArray⟩, -⟩ := filledBuffer?_eq_some found
  rw [promote_eq accessor isBuffer, resolved_iff]
  refine ⟨answered_of_sized rfl, fun _ single => ?_⟩
  have stillArray : buffer.type.isArray = false := single
  simp [isArray] at stillArray

/-- The buffers of a method stay resolved while its parameters are sized and paired. -/
theorem Resolved.changeParams {params : List Argument} (resolved : Resolved settings function)
    (plain : ∀ parameter, .plain parameter ∈ params → ∃ declared,
      .plain declared ∈ function.params ∧ declared.type.isArray = parameter.type.isArray) :
    Resolved settings { function with params } where
  returned := resolved.returned
  event := resolved.event
  drained := by
    intro getter single success argument member
    cases argument with
    | buffer data length => rfl
    | plain parameter =>
        obtain ⟨declared, isDeclared, same⟩ := plain parameter member
        have noArray := resolved.drained getter single success _ isDeclared
        simpa [Argument.isPlainArray, Argument.plain?, same] using noArray

theorem Resolved.step {kind : MoveKind} (resolved : Resolved settings function)
    (sizing : kind ∈ ({.detach, .edit .sizeParameter, .edit .pair} : Set MoveKind))
    (step : Step settings kind function changed) : Resolved settings changed := by
  have plain (member : kind ∈ ({.edit .sizeParameter, .edit .pair} : Set MoveKind)) :
      ∀ parameter, .plain parameter ∈ changed.params → ∃ declared,
        .plain declared ∈ function.params ∧ declared.type.isArray = parameter.type.isArray := by
    intro parameter isPlain
    obtain ⟨declared, isDeclared, stems⟩ := step.paramsStem parameter isPlain
    exact ⟨declared, isDeclared, stems.isArray.symm⟩
  cases step with
  | descend => simp at sizing
  | edit edited =>
      cases edited with
      | sizeParameter accessor unsized => exact resolved.changeParams (plain (by simp))
      | pair => exact resolved.changeParams (plain (by simp))
      | _ => simp at sizing

theorem resolved_default (settings : Settings) : Resolved settings default where
  returned := fun isArray => nomatch isArray
  event := fun isPointer => nomatch isPointer
  drained := fun _ _ _ _ member => nomatch member

theorem narrows_detach {Good : Function → Prop} :
    draft.forest.Narrows Good (detach draft c accessor marker).forest := by
  have moves : Moves Settings.default {.detach} draft.forest
      (detach draft c accessor marker).forest :=
    moves_detach (Set.mem_singleton _)
  refine moves.narrows (by simp [narrowingKinds]) fun allowed step => ?_
  obtain rfl := Set.mem_singleton_iff.1 allowed
  cases step

/-- Taking an accessor off the class and changing the method that it serves makes that method
good. -/
theorem settles_modifyFunction_detach {Good : Function → Prop} {change : Function → Function}
    (draft : Draft) (c : ClassId) (accessor : FunctionId) (marker : String)
    (absent : Good default) (good : Good (change (draft.forest.functionAt id))) :
    Settles Good c id draft.forest
      ((detach draft c accessor marker).modifyFunction id change).forest where
  narrows := narrows_detach.trans (.modifyFunction fun _ => by rwa [functionAt_detach])
  settled := by
    intro _
    rw [Draft.forest_modifyFunction]
    rcases Forest.functionAt_modifyFunction_or _ id change with changed | ⟨-, isDefault⟩
    · rwa [changed, functionAt_detach]
    · rwa [isDefault]

/-! ## The rules one by one -/

/-- Whether the size of what a method returns is known, as far as it has to be. -/
def Answered (settings : Settings) (function : Function) : Prop :=
  needsReturnAccessor settings function = false

theorem settles_resolveReturn (finished : resolveReturn settings c id draft = .ok next) :
    Settles (Answered settings) c id draft.forest next.forest := by
  rw [resolveReturn] at finished
  dsimp only at finished
  split at finished
  · rename_i skipped
    obtain rfl := Except.ok.inj finished
    refine ⟨.refl _, fun isMethod => ?_⟩
    simpa [Answered] using skipped.resolve_left (not_not.2 isMethod)
  · split at finished
    · cases finished
    · rename_i searched accessor found
      obtain rfl := Except.ok.inj finished
      rw [← forest_of_search found]
      exact settles_modifyFunction_detach searched c accessor _ rfl (answered_of_sized rfl)

/-- What a getter fills becomes its return, and that is the end of it for the getter. -/
theorem settles_resolveFilled (answered : draft.forest.AllMethods (Answered settings))
    (finished : resolveFilled settings c id draft = .ok next) :
    next.forest.AllMethods (Answered settings) ∧
      Settles (Resolved settings) c id draft.forest next.forest := by
  rw [resolveFilled] at finished
  dsimp only at finished
  split at finished
  · rename_i unfilled
    obtain rfl := Except.ok.inj finished
    refine ⟨answered, .refl _, fun isMethod => ?_⟩
    exact resolved_iff.2 ⟨answered c id isMethod, drained_of_filledBuffer? unfilled⟩
  · rename_i position filled
    split at finished
    · rename_i gone
      obtain rfl := Except.ok.inj finished
      exact ⟨answered, .refl _, fun isMethod => absurd isMethod gone⟩
    · split at finished
      · cases finished
      · rename_i searched accessor found
        obtain rfl := Except.ok.inj finished
        have sameForest := forest_of_search found
        have resolves : Resolved settings
            (promote position accessor (searched.forest.functionAt id)) :=
          resolved_promote (sameForest ▸ filled)
        rw [← sameForest] at answered ⊢
        rw [Draft.forest_note]
        have answers := settles_modifyFunction_detach searched c accessor settings.markers.getter
          (show Answered settings default from rfl) (resolved_iff.1 resolves).1
        exact ⟨answers.narrows.allMethods answered,
          settles_modifyFunction_detach searched c accessor _ (resolved_default settings) resolves⟩

/-- The kinds of moves that are left once no getter fills a buffer any more. -/
def passedKinds : Set MoveKind :=
  {.detach, .edit .sizeParameter, .edit .pair}

/-- The rules for buffers that are passed, one after the other. -/
def resolvePassed (settings : Settings) (draft : Draft) : Draft :=
  resolveResiduals settings (pairParameters settings (resolveOverrides settings
    (resolveSetters settings draft)))

section Passed

variable {Good : Function → Prop}
  (keeps : ∀ {kind function changed}, kind ∈ passedKinds → Step settings kind function changed →
    Good function → Good changed)

include keeps

theorem narrows_of_passedKinds (moves : Moves settings kinds draft.forest next.forest)
    (passed : kinds ⊆ passedKinds) :
    draft.forest.Narrows Good next.forest := by
  refine moves.narrows (fun kind allowed => ?_) fun allowed step => keeps (passed allowed) step
  have sizing := passed allowed
  rcases sizing with rfl | rfl | rfl <;> simp [narrowingKinds]

/-- The rules for buffers that are passed keep what each of their steps keeps. -/
theorem narrows_resolvePassed_of_keeps (draft : Draft) :
    draft.forest.Narrows Good (resolvePassed settings draft).forest := by
  have setters (draft : Draft) :
      draft.forest.Narrows Good (resolveSetters settings draft).forest :=
    narrows_forEachMethod (fun _ _ _ => narrows_of_passedKinds keeps resolves_resolveSetter.moves
      (by simp [passedKinds, Set.insert_subset_iff])) draft
  have overrides (draft : Draft) :
      draft.forest.Narrows Good (resolveOverrides settings draft).forest :=
    narrows_forEachMethod (fun _ _ _ => narrows_of_passedKinds keeps resolves_resolveOverride.moves
      (by simp [passedKinds])) draft
  have pairs (draft : Draft) :
      draft.forest.Narrows Good (pairParameters settings draft).forest :=
    narrows_forEachMethod (fun _ _ _ => narrows_of_passedKinds keeps
      (moves_modifyFunction (Set.mem_singleton _) (.pair _)) (by simp [passedKinds])) draft
  have residuals (draft : Draft) :
      draft.forest.Narrows Good (resolveResiduals settings draft).forest :=
    narrows_forEachMethod (fun _ _ _ => narrows_foldl (fun _ _ => narrows_of_passedKinds keeps
      resolves_resolveResidual.moves (by simp [passedKinds])) _ _) draft
  exact (setters draft).trans ((overrides _).trans ((pairs _).trans (residuals _)))

end Passed

theorem narrows_resolvePassed (settings : Settings) (draft : Draft) :
    draft.forest.Narrows (Resolved settings) (resolvePassed settings draft).forest :=
  narrows_resolvePassed_of_keeps (fun passed step resolved => resolved.step passed step) draft

theorem resolveBuffers_eq (settings : Settings) (draft : Draft) :
    resolveBuffers settings draft =
      resolveReturns settings draft >>= fun answered =>
        resolveFilledBuffers settings answered >>= fun drained =>
          .ok (resolvePassed settings drained) :=
  rfl

theorem answered_resolveReturns (finished : resolveReturns settings draft = .ok final) :
    final.forest.AllMethods (Answered settings) :=
  (settles_tryForEachMethod (.same fun _ => True)
    (fun _ result => ⟨trivial, settles_resolveReturn result⟩) trivial finished).2

theorem resolved_resolveFilledBuffers (answered : draft.forest.AllMethods (Answered settings))
    (finished : resolveFilledBuffers settings draft = .ok final) :
    final.forest.AllMethods (Resolved settings) :=
  (settles_tryForEachMethod (.same fun forest => forest.AllMethods (Answered settings))
    (fun answered result => settles_resolveFilled answered result) answered finished).2

theorem resolved_resolveBuffers (finished : resolveBuffers settings draft = .ok final) :
    final.forest.AllMethods (Resolved settings) := by
  rw [resolveBuffers_eq] at finished
  obtain ⟨answered, returns, finished⟩ := exists_ok_of_bind finished
  obtain ⟨drained, fills, finished⟩ := exists_ok_of_bind finished
  obtain rfl := Except.ok.inj finished
  exact (narrows_resolvePassed settings drained).allMethods
    (resolved_resolveFilledBuffers (answered_resolveReturns returns) fills)

/-! ## Where the rules give up -/

/-- Whether nothing goes by a keyword that a buffer of the class could be sized with. -/
structure Unsized (settings : Settings) (forest : Forest) (keyword : String) (c : ClassId) :
    Prop where
  methods : ∀ id ∈ forest.methods c,
    isSizeOf settings keyword (forest.functionAt id).name = false
  staticMethods : ∀ other, ∀ id ∈ forest.methods other, (forest.functionAt id).isStatic = true →
    isSizeOf settings keyword (forest.functionAt id).name = false
  staticProperties : ∀ other, ∀ property ∈ (forest.classAt other).properties,
    property.isStatic = true → isSizeOf settings keyword property.name = false

theorem unsized_of_accessor? {forest : Forest}
    (none : accessor? settings forest keyword c forest.allClasses = none) :
    Unsized settings forest keyword c := by
  obtain ⟨own, static⟩ := Option.or_eq_none_iff.1 none
  have elsewhere (other : ClassId) (valid : other < forest.hierarchy.size) :
      staticAccessor? settings forest keyword other = Option.none :=
    List.findSome?_eq_none_iff.1 static other (Hierarchy.mem_all_iff.2 valid)
  constructor
  · intro id isMethod
    simpa using List.find?_eq_none.1 own id isMethod
  · intro other id isMethod isStatic
    obtain ⟨noMethod, -⟩ := Option.or_eq_none_iff.1
      (elsewhere other (Forest.lt_size_of_mem_methods isMethod))
    simpa [isStatic] using List.find?_eq_none.1 noMethod id isMethod
  · intro other property member isStatic
    have valid : other < forest.hierarchy.size := by
      by_contra beyond
      rw [Forest.classAt_of_size_le (Nat.le_of_not_lt beyond)] at member
      cases member
    obtain ⟨-, noProperty⟩ := Option.or_eq_none_iff.1 (elsewhere other valid)
    have unlike := List.find?_eq_none.1 (Option.map_eq_none_iff.1 noProperty) property member
    simpa [isStatic] using unlike

theorem Keyword.getLast?_overriddenBy (derived : String) (override? : Option String) :
    ((Keyword.derived derived).overriddenBy override?).tried.getLast? =
      some ((Keyword.derived derived).overriddenBy override?).search := by
  cases override? with
  | none => rfl
  | some override => rfl

/-- Whether a loop gave up at a method of a class, over the keyword it tried last. -/
def GivesUp (settings : Settings) (c : ClassId) (id : FunctionId) (stopped : Stopped) : Prop :=
  id ∈ stopped.draft.forest.methods c ∧ ∃ keywords keyword,
    stopped.cause = .convention (.missingSizeAccessor (stopped.draft.forest.qualifiedName c)
      (stopped.draft.forest.functionAt id).name keywords) ∧
    keywords.getLast? = some keyword ∧ Unsized settings stopped.draft.forest keyword c

theorem givesUp_missing {searched : Draft} {derived : String} {override? : Option String}
    (isMethod : id ∈ draft.forest.methods c)
    (found : search settings draft ((Keyword.derived derived).overriddenBy override?).search c =
      (searched, none)) :
    GivesUp settings c id
      (missing searched ((Keyword.derived derived).overriddenBy override?) c id) := by
  have sameForest := forest_of_search found
  rw [← sameForest] at isMethod
  refine ⟨isMethod, _, _, rfl, Keyword.getLast?_overriddenBy derived override?, ?_⟩
  apply unsized_of_accessor?
  change accessor? settings searched.forest _ c searched.forest.allClasses = none
  rw [sameForest]
  exact congrArg Prod.snd found

theorem givesUp_resolveReturn {stopped : Stopped}
    (failed : resolveReturn settings c id draft = .error stopped) :
    GivesUp settings c id stopped ∧
      needsReturnAccessor settings (stopped.draft.forest.functionAt id) = true := by
  rw [resolveReturn] at failed
  dsimp only at failed
  split at failed
  · cases failed
  · rename_i needed
    obtain ⟨isMethod, needed⟩ := not_or.1 needed
    split at failed
    · rename_i searched found
      obtain rfl := Except.error.inj failed
      refine ⟨givesUp_missing (not_not.1 isMethod) found, ?_⟩
      change needsReturnAccessor settings (searched.forest.functionAt id) = true
      rw [forest_of_search found]
      simpa using needed
    · cases failed

theorem givesUp_resolveFilled {stopped : Stopped}
    (failed : resolveFilled settings c id draft = .error stopped) :
    GivesUp settings c id stopped ∧
      (filledBuffer? settings (stopped.draft.forest.functionAt id)).isSome = true := by
  rw [resolveFilled] at failed
  dsimp only at failed
  split at failed
  · cases failed
  · rename_i position filled
    split at failed
    · cases failed
    · rename_i isMethod
      split at failed
      · rename_i searched found
        obtain rfl := Except.error.inj failed
        refine ⟨givesUp_missing (not_not.1 isMethod) found, ?_⟩
        change (filledBuffer? settings (searched.forest.functionAt id)).isSome = true
        rw [forest_of_search found, filled]
        rfl
      · cases failed

/-- A getter that returns an array of truth values and takes an array besides.  The scalar of its
return is all that is looked at, so it counts as a getter that returns only success. -/
def FillsBesideArray (settings : Settings) (function : Function) : Prop :=
  actsAsGetter settings function = true ∧ function.ret.type.isArray = true ∧
    returnsSuccess function = true ∧ ∃ argument ∈ function.params, argument.isPlainArray = true

theorem unresolved_of_needed (needed : needsReturnAccessor settings function = true) :
    ¬ Resolved settings function := by
  intro resolved
  have answered := (resolved_iff.1 resolved).1
  simp [needed] at answered

theorem unresolved_or_fillsBesideArray (filled : (filledBuffer? settings function).isSome = true) :
    ¬ Resolved settings function ∨ FillsBesideArray settings function := by
  rw [filledBuffer?_eq] at filled
  split at filled
  · rename_i both
    obtain ⟨getter, success⟩ := Bool.and_eq_true_iff.1 both
    obtain ⟨argument, member, isArray⟩ : ∃ argument ∈ function.params,
        argument.isPlainArray = true := by simpa using filled
    cases single : function.ret.type.isArray with
    | true => exact .inr ⟨getter, single, success, argument, member, isArray⟩
    | false =>
        refine .inl fun resolved => ?_
        simp [resolved.drained getter single success argument member] at isArray
  · cases filled

/-- Where the rules for buffers come to an end, all methods are resolved.  Where they give up, it
is for a method of which this fails, or for a getter of truth values that fills an array besides,
and nothing in sight goes by the keyword that was tried last. -/
theorem resolveBuffers_cases (settings : Settings) (draft : Draft) :
    match resolveBuffers settings draft with
    | .ok final => final.forest.AllMethods (Resolved settings)
    | .error stopped => ∃ c id, GivesUp settings c id stopped ∧
        (¬ Resolved settings (stopped.draft.forest.functionAt id) ∨
          FillsBesideArray settings (stopped.draft.forest.functionAt id)) := by
  cases result : resolveBuffers settings draft with
  | ok final => exact resolved_resolveBuffers result
  | error stopped =>
      rw [resolveBuffers_eq] at result
      cases returns : resolveReturns settings draft with
      | error cause =>
          rw [returns] at result
          obtain rfl := Except.error.inj result
          obtain ⟨c, id, reached, failed⟩ := exists_stopped_of_tryForEachMethod returns
          obtain ⟨givesUp, needed⟩ := givesUp_resolveReturn failed
          exact ⟨c, id, givesUp, .inl (unresolved_of_needed needed)⟩
      | ok answered =>
          rw [returns] at result
          cases fills : resolveFilledBuffers settings answered with
          | error cause =>
              change resolveFilledBuffers settings answered >>= _ = _ at result
              rw [fills] at result
              obtain rfl := Except.error.inj result
              obtain ⟨c, id, reached, failed⟩ := exists_stopped_of_tryForEachMethod fills
              obtain ⟨givesUp, filled⟩ := givesUp_resolveFilled failed
              exact ⟨c, id, givesUp, unresolved_or_fillsBesideArray filled⟩
          | ok drained =>
              change resolveFilledBuffers settings answered >>= _ = _ at result
              rw [fills] at result
              cases result

instance : Decidable (Drained settings function) :=
  inferInstanceAs (Decidable (_ → _ → _ → _))

instance : Decidable (Resolved settings function) :=
  decidable_of_iff _ resolved_iff.symm

/-- A class with a getter of truth values that fills a buffer, and with the size of the truth
values. -/
def flagsBesideData : Forest where
  functions := [
    { name := "get_flags"
      cname := "tox_get_flags"
      ret := {
        type := {
          kind := .scalar .bool
          mutable := true
          isArray := true
          ctype := { name := "bool", isPointer := true } } }
      params := [.plain {
        name := "data"
        type := {
          kind := .scalar .byte
          mutable := true
          isArray := true
          ctype := { name := "uint8_t", isPointer := true } } }] },
    { name := "get_flags_size"
      cname := "tox_get_flags_size"
      ret := {
        type := {
          kind := .scalar .ulong
          mutable := true
          isArray := false
          ctype := { name := "size_t", isPointer := false } } }
      params := [] }]
  hierarchy := (Hierarchy.empty.require none "Tox").1
  classes := [{ methods := [0, 1] }]
  classes_length := rfl
  free := []
  detached := []
  enums := []
  exceptions := []

/-- The rules size the truth values, and then give up at the same method, which is the only one
that is left and is resolved. -/
theorem givesUp_flagsBesideData :
    ∃ stopped, resolveBuffers Settings.default { forest := flagsBesideData } = .error stopped ∧
      stopped.cause = .convention (.missingSizeAccessor "Tox" "get_flags" ["flags"]) ∧
      stopped.draft.forest.allClasses = [0] ∧ stopped.draft.forest.methods 0 = [0] ∧
      Resolved Settings.default (stopped.draft.forest.functionAt 0) := by
  have known : (match resolveBuffers Settings.default { forest := flagsBesideData } with
      | .ok _ => false
      | .error stopped => decide (
          stopped.cause = .convention (.missingSizeAccessor "Tox" "get_flags" ["flags"]) ∧
          stopped.draft.forest.allClasses = [0] ∧ stopped.draft.forest.methods 0 = [0] ∧
          Resolved Settings.default (stopped.draft.forest.functionAt 0))) = true := by
    decide +kernel
  cases result : resolveBuffers Settings.default { forest := flagsBesideData } with
  | ok final =>
      rw [result] at known
      cases known
  | error stopped =>
      rw [result] at known
      exact ⟨stopped, rfl, of_decide_eq_true known⟩

end Sizing

end Bindery
