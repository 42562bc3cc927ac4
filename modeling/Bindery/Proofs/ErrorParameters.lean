import Bindery.Proofs.Converted
import Bindery.Proofs.Stopping
import Bindery.Settings.Defaults

/-!
# Error parameters that find their exception

Converting the error parameters of the free functions gives up at the first function whose error
enum no exception stands for.  The functions before it are converted by then, and nothing else in
the forest is touched, so whoever mends the declarations knows where to go on.
-/

namespace Bindery

variable {settings : Settings} {draft final : Draft} {forest : Forest} {id : FunctionId}

namespace Throwing

/-- The error parameter of a function, which is the first of that name. -/
def errorArgument? (settings : Settings) (function : Function) : Option Argument :=
  function.params.find? (·.name == settings.markers.errorParameter)

/-- The first exception that stands for the enum of a function's error parameter. -/
def thrown? (settings : Settings) (exceptions : List Exception) (function : Function) :
    Option Exception :=
  (errorArgument? settings function).bind fun argument =>
    exceptions.find? (·.enumName == argument.type.name)

/-- The function without its error parameter, marked with the exception that it throws instead. -/
def throwing (settings : Settings) (exceptions : List Exception) (function : Function) : Function :=
  match thrown? settings exceptions function with
  | some exception =>
    { function with
      params := function.params.eraseP (·.name == settings.markers.errorParameter)
      throws := some exception.name }
  | none => function

/-- Whether a function has no error parameter, or one whose enum some exception stands for. -/
def Covered (settings : Settings) (exceptions : List Exception) (function : Function) : Prop :=
  ∀ argument ∈ errorArgument? settings function,
    ∃ exception ∈ exceptions, exception.enumName = argument.type.name

instance (exceptions : List Exception) (function : Function) :
    Decidable (Covered settings exceptions function) :=
  inferInstanceAs (Decidable (∀ argument ∈ errorArgument? settings function,
    ∃ exception ∈ exceptions, exception.enumName = argument.type.name))

/-- The forest in which the functions of the given ids throw. -/
def throwingForest (settings : Settings) (forest : Forest) (ids : List FunctionId) : Forest :=
  forest.mapFunctions ids (throwing settings forest.exceptions)

/-! ## One function -/

/-- The error parameter stands where it is looked for. -/
theorem errorArgument?_eq (settings : Settings) (function : Function) :
    errorArgument? settings function =
      (errorPosition? settings function).bind (function.params[·]?) := by
  rw [errorArgument?, errorPosition?]
  induction function.params with
  | nil => rfl
  | cons argument rest ih =>
      by_cases named : (argument.name == settings.markers.errorParameter) = true
      · simp [List.findIdx?_cons, named]
      · simp only [List.find?_cons, List.findIdx?_cons, named, ih]
        cases rest.findIdx? (·.name == settings.markers.errorParameter) <;> rfl

/-- What becomes of one function and of the forest it belongs to. -/
theorem convertFunction_cases (settings : Settings) (draft : Draft) (id : FunctionId) :
    (Covered settings draft.forest.exceptions (draft.forest.functionAt id) ∧
      ∃ next, convertFunction settings draft id = .ok next ∧
        next.forest = draft.forest.modifyFunction id
          (throwing settings draft.forest.exceptions)) ∨
    ∃ argument, errorArgument? settings (draft.forest.functionAt id) = some argument ∧
      (∀ exception ∈ draft.forest.exceptions, exception.enumName ≠ argument.type.name) ∧
      convertFunction settings draft id = .error {
        cause := .convention
          (.missingException argument.type.name (draft.forest.functionAt id).name)
        draft } := by
  have argued := errorArgument?_eq settings (draft.forest.functionAt id)
  generalize isResult : convertFunction settings draft id = result
  rw [convertFunction] at isResult
  dsimp only at isResult
  cases found : errorPosition? settings (draft.forest.functionAt id) with
  | none =>
      rw [found] at argued isResult
      -- Without an error parameter there is nothing to convert.
      have kept : throwing settings draft.forest.exceptions (draft.forest.functionAt id) =
          draft.forest.functionAt id := by
        rw [throwing, thrown?, argued]
        rfl
      refine .inl ⟨fun argument isError => ?_, draft, isResult.symm, ?_⟩
      · rw [argued] at isError
        cases isError
      · exact (Forest.modifyFunction_of_eq kept).symm
  | some position =>
      obtain ⟨valid, -, -⟩ := List.findIdx?_eq_some_iff_getElem.1 found
      have isThere := List.getElem?_eq_getElem valid
      generalize (draft.forest.functionAt id).params[position] = argument at isThere
      rw [found, Option.bind_some, isThere] at argued
      rw [found] at isResult
      dsimp only at isResult
      rw [isThere, Option.map_some, Option.getD_some] at isResult
      cases isFirst : exceptionFor? draft.forest argument.type.name with
      | none =>
          rw [isFirst] at isResult
          -- The conversion stops at the first parameter for which no exception was derived.
          refine .inr ⟨argument, argued, fun exception member same => ?_, isResult.symm⟩
          exact List.find?_eq_none.1 isFirst exception member (by simpa using same)
      | some exception =>
          rw [isFirst] at isResult
          have named : exception.enumName = argument.type.name := by
            simpa using List.find?_some isFirst
          refine .inl ⟨fun other isError => ?_, _, isResult.symm, ?_⟩
          · obtain rfl := Option.some.inj (argued.symm.trans isError)
            exact ⟨exception, List.mem_of_find?_eq_some isFirst, named⟩
          · have thrown : thrown? settings draft.forest.exceptions (draft.forest.functionAt id) =
                some exception := by
              rw [thrown?, argued]
              exact isFirst
            apply Forest.modifyFunction_congr
            rw [throwing, thrown, Function.dropParameter, List.eraseP_eq_eraseIdx]
            rw [errorPosition?] at found
            rw [found]

/-! ## All free functions -/

/-- How the conversion of some functions of a forest, one after the other, may end: all are covered
and converted, or one is not, and those before it are converted. -/
inductive Outcome (settings : Settings) (forest : Forest) (ids : List FunctionId) :
    Except Stopped Draft → Prop
  | converted {final : Draft}
      (covered : ∀ id ∈ ids, Covered settings forest.exceptions (forest.functionAt id))
      (isFinal : final.forest = throwingForest settings forest ids) :
      Outcome settings forest ids (.ok final)
  | stopped {front back : List FunctionId} {id : FunctionId} {argument : Argument}
      {stopped : Stopped} (split : ids = front ++ id :: back)
      (covered : ∀ earlier ∈ front, Covered settings forest.exceptions (forest.functionAt earlier))
      (isError : errorArgument? settings (forest.functionAt id) = some argument)
      (missing : ∀ exception ∈ forest.exceptions, exception.enumName ≠ argument.type.name)
      (cause : stopped.cause =
        .convention (.missingException argument.type.name (forest.functionAt id).name))
      (isStopped : stopped.draft.forest = throwingForest settings forest front) :
      Outcome settings forest ids (.error stopped)

/-- A function that was not converted yet looks as it did at first, so every decision is the one
that its own declaration calls for. -/
theorem outcome_foldlM {done ids : List FunctionId} (different : ids.Nodup)
    (fresh : ∀ id ∈ ids, id ∉ done)
    (covered : ∀ id ∈ done, Covered settings forest.exceptions (forest.functionAt id))
    (start : draft.forest = throwingForest settings forest done) :
    Outcome settings forest (done ++ ids) (ids.foldlM (convertFunction settings) draft) := by
  induction ids generalizing draft done with
  | nil =>
      rw [List.append_nil]
      exact .converted covered start
  | cons first rest ih =>
      obtain ⟨isLast, different⟩ := List.nodup_cons.1 different
      have isFresh := fresh first List.mem_cons_self
      have exceptions : draft.forest.exceptions = forest.exceptions := by
        rw [start]
        rfl
      have same : draft.forest.functionAt first = forest.functionAt first := by
        rw [start, throwingForest, Forest.functionAt_mapFunctions_of_not_mem isFresh]
      have step := convertFunction_cases settings draft first
      rw [exceptions, same] at step
      rw [List.foldlM_cons]
      rcases step with ⟨isCovered, next, converts, isNext⟩ | ⟨argument, isError, missing, stops⟩
      -- The function whose turn it was joins those that are done, and the loop goes on from there.
      · rw [start, throwingForest, ← Forest.mapFunctions_concat isFresh] at isNext
        have later : ∀ id ∈ rest, id ∉ done ++ [first] := by
          intro id member inDone
          rcases List.mem_append.1 inDone with early | isFirst
          · exact fresh id (List.mem_cons_of_mem _ member) early
          · exact isLast (List.mem_singleton.1 isFirst ▸ member)
        have soFar : ∀ id ∈ done ++ [first],
            Covered settings forest.exceptions (forest.functionAt id) := by
          simpa [or_imp, forall_and] using ⟨covered, isCovered⟩
        have outcome := ih different later soFar isNext
        rw [List.append_assoc, List.singleton_append] at outcome
        rw [converts]
        exact outcome
      · rw [stops]
        exact .stopped rfl covered isError missing rfl start

/-- The conversion comes to its end exactly if every free function is covered, and each of them has
then lost its error parameter to the first exception of its enum.  Where it gives up, it names the
first function that is not covered, with its enum; the functions before it are converted, and it and
the functions after it are not.  Either way everything else in the forest is as it was. -/
theorem convertErrorParameters_cases (settings : Settings) (draft : Draft)
    (different : draft.forest.free.Nodup) :
    ((∃ final, convertErrorParameters settings draft = .ok final) ↔
      ∀ id ∈ draft.forest.free,
        Covered settings draft.forest.exceptions (draft.forest.functionAt id)) ∧
    (∀ final, convertErrorParameters settings draft = .ok final →
      final.forest = throwingForest settings draft.forest draft.forest.free) ∧
    ∀ stopped, convertErrorParameters settings draft = .error stopped →
      ∃ front id back argument, draft.forest.free = front ++ id :: back ∧
        (∀ earlier ∈ front,
          Covered settings draft.forest.exceptions (draft.forest.functionAt earlier)) ∧
        errorArgument? settings (draft.forest.functionAt id) = some argument ∧
        (∀ exception ∈ draft.forest.exceptions, exception.enumName ≠ argument.type.name) ∧
        stopped.cause =
          .convention (.missingException argument.type.name (draft.forest.functionAt id).name) ∧
        stopped.draft.forest = throwingForest settings draft.forest front ∧
        ∀ later ∈ id :: back,
          stopped.draft.forest.functionAt later = draft.forest.functionAt later := by
  have outcome : Outcome settings draft.forest ([] ++ draft.forest.free)
      (convertErrorParameters settings draft) :=
    outcome_foldlM different (by simp) (by simp) Forest.mapFunctions_nil.symm
  rw [List.nil_append] at outcome
  generalize convertErrorParameters settings draft = result at outcome
  cases outcome with
  | @converted final covered isFinal =>
      refine ⟨⟨fun _ => covered, fun _ => ⟨final, rfl⟩⟩, ?_, ?_⟩
      · rintro _ ⟨⟩
        exact isFinal
      · rintro _ ⟨⟩
  | @stopped front back id argument stopped split before isError missing cause isStopped =>
      refine ⟨⟨?_, fun covered => ?_⟩, ?_, ?_⟩
      · rintro ⟨_, ⟨⟩⟩
      · have isFree : id ∈ draft.forest.free := split ▸ by simp
        obtain ⟨exception, member, same⟩ := covered id isFree argument isError
        exact absurd same (missing exception member)
      · rintro _ ⟨⟩
      · rintro _ ⟨⟩
        refine ⟨front, id, back, argument, split, before, isError, missing, cause, isStopped,
          fun later member => ?_⟩
        have apart := List.disjoint_of_nodup_append (split ▸ different)
        rw [isStopped, throwingForest,
          Forest.functionAt_mapFunctions_of_not_mem fun inFront => apart inFront member]

/-- A function that reports failure twice over, and one that cannot fail. -/
def bootstrapAndIterate : Draft where
  forest := { Forest.empty with
    functions := [
      { name := "tox_bootstrap"
        cname := "tox_bootstrap"
        ret := { type := .void }
        params := [
          .plain { name := "port", type := .void },
          .plain {
            name := "error"
            type := { ValueType.void with kind := .reference "ToxErrBootstrap" } },
          .plain {
            name := "error"
            type := { ValueType.void with kind := .reference "ToxErrNew" } }] },
      { name := "tox_iterate", cname := "tox_iterate", ret := { type := .void }, params := [] }]
    free := [1, 0]
    exceptions := [{ name := "ToxBootstrap", enumName := "ToxErrBootstrap" }] }

/-- Only the first of its error parameters is taken from the function. -/
theorem convertErrorParameters_bootstrap : bootstrapAndIterate.forest.free.Nodup ∧
    ∃ final, convertErrorParameters Settings.default bootstrapAndIterate = .ok final ∧
      (final.forest.functionAt 0).throws = some "ToxBootstrap" ∧
      (final.forest.functionAt 0).params.map (·.name) = ["port", "error"] := by
  obtain ⟨runs, converted, -⟩ :=
    convertErrorParameters_cases Settings.default bootstrapAndIterate (by decide)
  obtain ⟨final, ends⟩ := runs.2 (by decide)
  refine ⟨by decide, final, ends, ?_⟩
  rw [converted final ends]
  decide

end Throwing

end Bindery
