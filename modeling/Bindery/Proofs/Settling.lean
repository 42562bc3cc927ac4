import Bindery.Proofs.Guarded.Conversion
import Bindery.Proofs.Relocation

/-!
# When number handles settle

The loop over number handles has no counter.  A round that finds methods drops a parameter or
shortens a name, unless the marker is empty and the methods it finds are exempt: an exempt method
keeps its first parameter, whose name without an empty marker is the name it had.  Such a method is
found again in every later round, so the loop goes on for ever.  Nothing else keeps it going, and
the check of the weight gives up on exactly the loops that never end.
-/

namespace Bindery

variable {settings : Settings} {draft final : Draft} {id : FunctionId} {c : ClassId}

namespace NumberHandles

/-! ## All rounds -/

/-- The drafts at which rounds start, with the number of rounds before, all of which found
methods. -/
inductive Rounds (settings : Settings) (start : Draft) : Nat → Draft → Prop
  | start : Rounds settings start 0 start
  | next {count : Nat} {draft next : Draft} (earlier : Rounds settings start count draft)
      (found : round settings draft = (next, true)) :
      Rounds settings start (count + 1)
        (next.note .trace s!"Numeric handle round {count + 1} done")

/-- Whether the loop comes to a round that finds nothing. -/
def RunsOut (settings : Settings) (start : Draft) : Prop :=
  ∃ count draft, Rounds settings start count draft ∧ (round settings draft).2 = false

variable {start next last : Draft} {count later : Nat}

namespace Rounds

theorem moves (rounds : Rounds settings start count draft)
    (distinct : start.forest.MethodsDistinct) :
    Moves settings roundKinds start.forest draft.forest := by
  induction rounds with
  | start => exact .refl _
  | next _ found ih =>
      have last := moves_round settings (methodsDistinct_of_moves ih distinct)
      rw [found] at last
      exact ih.trans last

theorem methodsDistinct (rounds : Rounds settings start count draft)
    (distinct : start.forest.MethodsDistinct) : draft.forest.MethodsDistinct :=
  methodsDistinct_of_moves (rounds.moves distinct) distinct

theorem unique (rounds : Rounds settings start count draft)
    (others : Rounds settings start count last) : draft = last := by
  induction rounds generalizing last with
  | start => cases others with
    | start => rfl
  | next _ found ih => cases others with
    | next earlier alsoFound =>
        obtain rfl := ih earlier
        rw [found] at alsoFound
        cases alsoFound
        rfl

/-- No round comes after one that finds nothing. -/
theorem le_of_ended (rounds : Rounds settings start later next)
    (ended : Rounds settings start count last) (finds : (round settings last).2 = false) :
    later ≤ count := by
  induction rounds with
  | start => exact Nat.zero_le _
  | @next later draft next earlier found ih =>
      refine Nat.lt_of_le_of_ne ih fun same => ?_
      subst same
      rw [earlier.unique ended] at found
      rw [found] at finds
      cases finds

/-- Once a method is stuck, there is always one more round. -/
theorem of_stuck (rounds : Rounds settings start count draft)
    (stuck : Stuck settings draft.forest c id) (distinct : start.forest.MethodsDistinct)
    (more : Nat) :
    ∃ last, Rounds settings start (count + more) last ∧ Stuck settings last.forest c id := by
  induction more with
  | zero => exact ⟨draft, rounds, stuck⟩
  | succ more ih =>
      obtain ⟨last, reached, stillStuck⟩ := ih
      obtain ⟨next, found, stuckAfter⟩ := stillStuck.round (reached.methodsDistinct distinct)
      exact ⟨_, .next reached found, stuckAfter⟩

end Rounds

theorem not_runsOut_of_stuck (sound : start.forest.Sound)
    (rounds : Rounds settings start count draft) (stuck : Stuck settings draft.forest c id) :
    ¬RunsOut settings start := by
  rintro ⟨ending, last, ended, finds⟩
  obtain ⟨beyond, further, -⟩ := rounds.of_stuck stuck sound.methodsDistinct (ending + 1)
  have bounded := further.le_of_ended ended finds
  omega

/-- The loop with the check of the weight ends with the round that finds nothing, or gives up when
a method is stuck. -/
theorem extractFrom_spec (distinct : start.forest.MethodsDistinct)
    (rounds : Rounds settings start count draft) :
    (∃ final ending last, extractFrom settings count draft = .ok (final, ending) ∧
        Rounds settings start ending last ∧ round settings last = (final, false)) ∨
      ∃ stopped ending last c id, extractFrom settings count draft = .error stopped ∧
        Rounds settings start ending last ∧ Stuck settings last.forest c id := by
  induction count, draft using extractFrom.induct settings with
  | case1 count draft next finished =>
      left
      refine ⟨next, count, draft, ?_, rounds, finished⟩
      rw [extractFrom, finished]
  | case2 count draft next found shorter later ih =>
      rw [extractFrom, found]
      dsimp only
      rw [if_pos shorter]
      exact ih (.next rounds found)
  | case3 count draft next found same =>
      right
      obtain ⟨c, id, stuck⟩ := exists_stuck_of_round (rounds.methodsDistinct distinct) found same
      have stops : extractFrom settings count draft =
          .error { cause := .convention .unsettledHandles, draft := next } := by
        rw [extractFrom, found]
        dsimp only
        rw [if_neg same]
      exact ⟨_, count, draft, c, id, stops, rounds, stuck⟩

section Sound

variable (sound : start.forest.Sound)

include sound

theorem runsOut_iff_no_stuck : RunsOut settings start ↔
    ∀ count draft c id, Rounds settings start count draft →
      ¬Stuck settings draft.forest c id := by
  constructor
  · exact fun runsOut _ _ _ _ rounds stuck => not_runsOut_of_stuck sound rounds stuck runsOut
  · intro noStuck
    rcases extractFrom_spec sound.methodsDistinct .start with
      ⟨final, ending, last, -, ended, finds⟩ | ⟨-, ending, last, c, id, -, ended, stuck⟩
    · exact ⟨ending, last, ended, by rw [finds]⟩
    · exact absurd stuck (noStuck ending last c id ended)

/-- The check of the weight changes no result of the loop. -/
theorem extract_eq_ok_iff : extract settings start = .ok (next, count) ↔
    ∃ last, Rounds settings start count last ∧ round settings last = (next, false) := by
  rw [extract]
  rcases extractFrom_spec sound.methodsDistinct .start with
    ⟨final, ending, last, result, ended, finds⟩ |
    ⟨stopped, ending, last, c, id, result, ended, stuck⟩
  · rw [result]
    constructor
    · intro same
      obtain ⟨rfl, rfl⟩ := Prod.mk.inj (Except.ok.inj same)
      exact ⟨last, ended, finds⟩
    · rintro ⟨other, alsoEnded, alsoFinds⟩
      have sameCount : ending = count := Nat.le_antisymm
        (ended.le_of_ended alsoEnded (by rw [alsoFinds]))
        (alsoEnded.le_of_ended ended (by rw [finds]))
      subst sameCount
      rw [ended.unique alsoEnded, alsoFinds] at finds
      obtain ⟨rfl, -⟩ := Prod.mk.inj finds
      rfl
  · rw [result]
    constructor
    · intro same
      cases same
    · rintro ⟨other, alsoEnded, alsoFinds⟩
      exact absurd ⟨count, other, alsoEnded, by rw [alsoFinds]⟩
        (not_runsOut_of_stuck sound ended stuck)

theorem runsOut_iff_extract : RunsOut settings start ↔
    ∃ settled, extract settings start = .ok settled := by
  constructor
  · rintro ⟨count, last, ended, finds⟩
    exact ⟨((round settings last).1, count),
      (extract_eq_ok_iff sound).2 ⟨last, ended, Prod.ext rfl finds⟩⟩
  · rintro ⟨⟨final, count⟩, result⟩
    obtain ⟨last, ended, finds⟩ := (extract_eq_ok_iff sound).1 result
    exact ⟨count, last, ended, by rw [finds]⟩

end Sound

end NumberHandles

/-! ## Headers -/

/-- Whether a pass that gives up does so for another reason than a loop without end. -/
def Pass.Ends (pass : Pass) : Prop :=
  ∀ draft stopped, pass draft = .error stopped →
    stopped.cause ≠ .convention .unsettledHandles

namespace Pass

theorem Ends.ofTotal (step : Draft → Draft) : (Pass.ofTotal step).Ends :=
  StopsAs.ofTotal step

theorem Ends.run {passes : List Pass} (each : ∀ pass ∈ passes, pass.Ends) :
    (Pass.run passes).Ends :=
  StopsAs.run each

end Pass

theorem Throwing.ends_convertErrorParameters (settings : Settings) :
    Pass.Ends (convertErrorParameters settings) := by
  intro draft stopped failed
  obtain ⟨enumName, function, isCause⟩ := cause_convertErrorParameters failed
  rw [isCause]
  intro unsettled
  cases unsettled

theorem Sizing.GivesUp.cause_ne {stopped : Stopped} (givesUp : GivesUp settings c id stopped) :
    stopped.cause ≠ .convention .unsettledHandles := by
  obtain ⟨-, keywords, keyword, isCause, -⟩ := givesUp
  rw [isCause]
  intro unsettled
  cases unsettled

theorem Sizing.ends_resolveReturns (settings : Settings) :
    Pass.Ends (resolveReturns settings) := by
  intro draft stopped failed
  obtain ⟨c, id, draft, failed⟩ := exists_stopped_of_tryForEachMethod failed
  exact (givesUp_resolveReturn failed).1.cause_ne

theorem Sizing.ends_resolveFilledBuffers (settings : Settings) :
    Pass.Ends (resolveFilledBuffers settings) := by
  intro draft stopped failed
  obtain ⟨c, id, draft, failed⟩ := exists_stopped_of_tryForEachMethod failed
  exact (givesUp_resolveFilled failed).1.cause_ne

namespace Conversion

variable {header : HeaderDeclarations} {rootClass : String} {start : Draft}

/-- What is done for a header before methods move to number handles. -/
def beforeHandles (settings : Settings) (rootClass : String) (header : HeaderDeclarations) :
    List Pass :=
  takePasses settings rootClass header ++ (Throwing.convertErrorParameters settings ::
    (hoistPasses settings rootClass header ++ [Pass.ofTotal Grouping.stripRootPrefixes]))

/-- What is done for a header once no method moves any more. -/
def afterHandles (settings : Settings) (header : HeaderDeclarations) : List Pass :=
  Pass.ofTotal (fun draft => (Listeners.extract settings header.typedefs draft).1) ::
    (referPasses settings ++ (Sizing.resolveFilledBuffers settings ::
      (sizePasses settings ++ (Pass.ofTotal (Corrections.extractInitializers settings) ::
        memberPasses settings header))))

theorem passes_eq_beforeHandles (settings : Settings) (rootClass : String)
    (header : HeaderDeclarations) :
    passes settings rootClass header =
      beforeHandles settings rootClass header ++
        (Grouping.settleHandles settings :: afterHandles settings header) :=
  rfl

theorem ends_beforeHandles : (Pass.run (beforeHandles settings rootClass header)).Ends := by
  have total (step : Draft → Draft) : (Pass.ofTotal step).Ends := .ofTotal step
  refine .run ?_
  simp only [beforeHandles, takePasses, hoistPasses, List.cons_append, List.nil_append,
    List.forall_mem_cons, total, true_and]
  exact ⟨Throwing.ends_convertErrorParameters settings, List.forall_mem_nil _⟩

theorem ends_afterHandles : (Pass.run (afterHandles settings header)).Ends := by
  have total (step : Draft → Draft) : (Pass.ofTotal step).Ends := .ofTotal step
  refine .run ?_
  simp only [afterHandles, referPasses, sizePasses, memberPasses, Accessors.passes,
    List.cons_append, List.nil_append, List.forall_mem_cons, total, true_and]
  exact ⟨Sizing.ends_resolveReturns settings, Sizing.ends_resolveFilledBuffers settings,
    List.forall_mem_nil _⟩

/-- Whether the loop over number handles is come to in processing a header, and with which draft. -/
def Enters (settings : Settings) (draft : Draft) (header : HeaderDeclarations) (start : Draft) :
    Prop :=
  ∃ rootClass, settings.rootClass? header.file = some rootClass ∧
    Pass.run (beforeHandles settings rootClass header) draft = .ok start

/-- Whether processing a header comes to an end.  All that is done before and after the loop over
number handles is done once for each of finitely many things. -/
def Terminates (settings : Settings) (draft : Draft) (header : HeaderDeclarations) : Prop :=
  ∀ start, Enters settings draft header start → NumberHandles.RunsOut settings start

theorem Enters.sound (enters : Enters settings draft header start)
    (closed : draft.forest.Closed) : start.forest.Sound := by
  obtain ⟨rootClass, -, ran⟩ := enters
  have each : ∀ pass ∈ beforeHandles settings rootClass header, pass.Closes := by
    intro pass member
    have isPass : pass ∈ passes settings rootClass header := by
      rw [passes_eq_beforeHandles]
      exact List.mem_append_left _ member
    exact closes_of_mem_passes pass isPass
  have closes := Pass.Closes.run each draft closed
  rw [ran] at closes
  exact closes.sound

theorem processHeader_eq_bind (isRoot : settings.rootClass? header.file = some rootClass) :
    processHeader settings draft header =
      Pass.run (beforeHandles settings rootClass header) draft >>= fun start =>
        Grouping.settleHandles settings start >>= Pass.run (afterHandles settings header) := by
  rw [processHeader, isRoot]
  dsimp only
  rw [passes_eq_beforeHandles, Pass.run_append]
  exact bind_congr fun start => Pass.run_cons _ _ start

/-- A header reports that the loop never ends exactly when it enters the loop and the check of the
weight gives up in it. -/
theorem unsettled_iff :
    (∃ stopped, processHeader settings draft header = .error stopped ∧
        stopped.cause = .convention .unsettledHandles) ↔
      ∃ start, Enters settings draft header start ∧
        ∀ settled, NumberHandles.extract settings start ≠ .ok settled := by
  constructor
  · rintro ⟨stopped, failed, isCause⟩
    cases isRoot : settings.rootClass? header.file with
    | none =>
        rw [processHeader, isRoot] at failed
        obtain rfl := Except.error.inj failed
        cases isCause
    | some rootClass =>
        rw [processHeader_eq_bind isRoot] at failed
        rcases error_or_exists_ok_of_bind failed with failed | ⟨start, before, failed⟩
        · exact absurd isCause (ends_beforeHandles draft stopped failed)
        · refine ⟨start, ⟨rootClass, isRoot, before⟩, fun settled result => ?_⟩
          rcases error_or_exists_ok_of_bind failed with failed | ⟨next, -, failed⟩
          · rw [Grouping.settleHandles, result] at failed
            cases failed
          · exact absurd isCause (ends_afterHandles next stopped failed)
  · rintro ⟨start, ⟨rootClass, isRoot, before⟩, unsettled⟩
    cases result : NumberHandles.extract settings start with
    | ok settled => exact absurd result (unsettled settled)
    | error stopped =>
        refine ⟨stopped, ?_, NumberHandles.cause_extractFrom result⟩
        have stops : Grouping.settleHandles settings start = .error stopped := by
          rw [Grouping.settleHandles, result]
          rfl
        simp only [processHeader_eq_bind isRoot, before, bind, Except.bind, stops]

/-- After any headers, those that failed included, processing a header terminates unless one of its
rounds starts with a stuck method, and a loop without end is what the check of the weight reports.
Where the loop ends, its result and the number of its rounds are what they are without the check. -/
theorem terminates_goOn_iff (settings : Settings) (headers : List HeaderDeclarations)
    (header : HeaderDeclarations) :
    (Terminates settings (goOn settings headers {}) header ↔
      ∀ start count draft c id, Enters settings (goOn settings headers {}) header start →
        NumberHandles.Rounds settings start count draft →
          ¬NumberHandles.Stuck settings draft.forest c id) ∧
    (Terminates settings (goOn settings headers {}) header ↔
      ¬∃ stopped, processHeader settings (goOn settings headers {}) header = .error stopped ∧
        stopped.cause = .convention .unsettledHandles) ∧
    ∀ start final count, Enters settings (goOn settings headers {}) header start →
      (NumberHandles.extract settings start = .ok (final, count) ↔
        ∃ last, NumberHandles.Rounds settings start count last ∧
          NumberHandles.round settings last = (final, false)) := by
  have sound {start : Draft} (enters : Enters settings (goOn settings headers {}) header start) :
      start.forest.Sound := enters.sound (closed_goOn headers Forest.closed_empty)
  refine ⟨?_, ?_, fun start final count enters => NumberHandles.extract_eq_ok_iff (sound enters)⟩
  · constructor
    · intro terminates start count draft c id enters
      exact (NumberHandles.runsOut_iff_no_stuck (sound enters)).1 (terminates start enters)
        count draft c id
    · intro noStuck start enters
      exact (NumberHandles.runsOut_iff_no_stuck (sound enters)).2
        fun count draft c id => noStuck start count draft c id enters
  · rw [unsettled_iff]
    constructor
    · rintro terminates ⟨start, enters, unsettled⟩
      obtain ⟨settled, result⟩ :=
        (NumberHandles.runsOut_iff_extract (sound enters)).1 (terminates start enters)
      exact unsettled settled result
    · intro settled start enters
      apply (NumberHandles.runsOut_iff_extract (sound enters)).2
      by_contra unsettled
      exact settled ⟨start, enters, fun result isResult => unsettled ⟨result, isResult⟩⟩

/-- A method that must not move to the class of the peer. -/
def peerIsOurs : HeaderDeclarations where
  file := "tox.h"
  functions := [
    { name := "tox_peer_number_is_ours"
      returnType := { name := "bool" }
      parameters := [
        { name := "tox", type := { name := "Tox", isPointer := true } },
        { name := "peer_number", type := { name := "uint32_t" } }] }]
  structs := ["Tox"]

/-- By default the parameter loses its marker in the first round, and the second finds nothing. -/
theorem terminates_peerIsOurs :
    Terminates Settings.default (goOn Settings.default [] {}) peerIsOurs ∧
      ∃ start last, Enters Settings.default (goOn Settings.default [] {}) peerIsOurs start ∧
        NumberHandles.Rounds Settings.default start 1 last ∧
        (NumberHandles.round Settings.default last).2 = false := by
  obtain ⟨-, terminates, ends⟩ := terminates_goOn_iff Settings.default [] peerIsOurs
  have isRoot : Settings.default.rootClass? peerIsOurs.file = some "Tox" := by decide +kernel
  obtain ⟨start, ran, told⟩ := exists_ok_of_told
    (fun start => (NumberHandles.extract Settings.default start).toOption.map (·.2))
    (show (Pass.run (beforeHandles Settings.default "Tox" peerIsOurs) {}).toOption.map _ =
      some (some 1) by decide +kernel)
  obtain ⟨⟨final, count⟩, extracted, isOne⟩ := exists_ok_of_told Prod.snd told
  obtain rfl : count = 1 := isOne
  obtain ⟨last, rounds, finds⟩ := (ends start final 1 ⟨"Tox", isRoot, ran⟩).1 extracted
  refine ⟨terminates.2 ?_, start, last, ⟨"Tox", isRoot, ran⟩, rounds, by rw [finds]⟩
  rintro ⟨stopped, failed, -⟩
  obtain ⟨final, processed, -⟩ := exists_ok_of_told (fun _ => ())
    (show (processHeader Settings.default {} peerIsOurs).toOption.map _ = some () by
      decide +kernel)
  rw [show goOn Settings.default [] {} = {} from rfl, processed] at failed
  cases failed

/-- Settings without a marker, so that every plain parameter is a number handle. -/
def withoutMarker : Settings :=
  { Settings.default with markers := { Settings.default.markers with numberHandle := "" } }

theorem not_terminates_peerIsOurs :
    ¬Terminates withoutMarker (goOn withoutMarker [] {}) peerIsOurs := by
  obtain ⟨start, ran, told⟩ := exists_ok_of_told
    (fun start : Draft => decide (start.forest.methods 0 = [0] ∧
      NumberHandles.handleBase? withoutMarker (start.forest.functionAt 0) = some "peer_number" ∧
      withoutMarker.isHandleExempt (start.forest.functionAt 0).name
        (start.forest.className 0) = true ∧
      Text.startsWith (start.forest.functionAt 0).name
        (Hoisting.classPrefix (start.forest.className 0)) = false))
    (show (Pass.run (beforeHandles withoutMarker "Tox" peerIsOurs) {}).toOption.map _ = some true by
      decide +kernel)
  obtain ⟨methods, matched, exempt, unprefixed⟩ := of_decide_eq_true told
  obtain ⟨first, rest, leading, -⟩ := NumberHandles.handleBase?_eq_some matched
  have enters : Enters withoutMarker (goOn withoutMarker [] {}) peerIsOurs start :=
    ⟨"Tox", by decide +kernel, ran⟩
  have stuck : NumberHandles.Stuck withoutMarker start.forest 0 0 :=
    ⟨rfl, by simp [methods], ⟨first, rest, leading⟩, exempt, unprefixed⟩
  intro terminates
  exact NumberHandles.not_runsOut_of_stuck (enters.sound Forest.closed_empty) .start stuck
    (terminates start enters)

end Conversion

end Bindery
