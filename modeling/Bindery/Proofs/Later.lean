import Bindery.Proofs.Lasting
import Bindery.Proofs.Owners

/-!
# Later headers

The passes of a header hand out the functions that it declares and then go through all methods,
those of earlier headers included.  What is known of a method when its own header is finished holds
of it ever after, whether or not the later headers come to their end.  The properties and slots of
classes are not gone through again.
-/

namespace Bindery

variable {settings : Settings} {kinds : Set MoveKind} {draft final : Draft}
  {before after forest : Forest} {original : Function} {id : FunctionId}

theorem Moves.mem_free (moves : Moves settings kinds before after)
    (present : id < before.functionCount) (isFree : id ∈ after.free) : id ∈ before.free := by
  induction moves with
  | refl => exact isFree
  | tail earlier last ih =>
      obtain ⟨kind, -, move⟩ := last
      exact ih (move.mem_free (Nat.lt_of_lt_of_le present (functionCount_le earlier)) isFree)

theorem Moves.spares_take (moves : Moves settings Conversion.takeKinds before after)
    (present : id < before.functionCount) : Forest.Spares id before after := by
  induction moves with
  | refl => exact .refl _ _
  | tail earlier last ih =>
      obtain ⟨kind, allowed, move⟩ := last
      have still := Nat.lt_of_lt_of_le present (functionCount_le earlier)
      have isFree := @Move.mem_free settings kind _ _ id move still
      refine ih.trans ?_
      cases move with
      | register => exact ⟨rfl, isFree, fun _ isMethod => isMethod⟩
      | intake =>
          exact ⟨Forest.functionAt_addFunction_of_lt still, isFree, fun _ isMethod => isMethod⟩
      | _ => simp [Conversion.takeKinds] at allowed

/-- What is known of a function of a finished header: it is a finished method and its buffers last,
unless it is at risk and lost a parameter, or it is no method and stays what it is. -/
structure Forest.Remembers (settings : Settings) (original : Function) (id : FunctionId)
    (forest : Forest) : Prop where
  sound : forest.Sound
  present : id < forest.functionCount
  placed : id ∉ forest.free
  kept : forest.NoMethod id ∧ forest.functionAt id = original ∨
    Finished settings original ∧ (original.Loses settings (forest.functionAt id) ∨
      original.Holds settings (forest.functionAt id))

theorem Forest.Remembers.cases (remembers : forest.Remembers settings original id) :
    original.Lasts settings (forest.functionAt id) ∨
      original.Loses settings (forest.functionAt id) := by
  rcases remembers.kept with ⟨-, same⟩ | ⟨-, loses | holds⟩
  · rw [same]
    exact .inl (.refl settings original)
  · exact .inr loses
  · exact .inl holds.lasts

namespace Pass

/-- Whether what is known of a function is still known after a pass, wherever the pass ends. -/
def Remembers (settings : Settings) (original : Function) (id : FunctionId) (pass : Pass) : Prop :=
  ∀ draft : Draft, draft.forest.Remembers settings original id →
    (reached (pass draft)).forest.Remembers settings original id

variable {pass : Pass}

theorem Remembers.append {first second : List Pass}
    (front : (Pass.run first).Remembers settings original id)
    (back : (Pass.run second).Remembers settings original id) :
    (Pass.run (first ++ second)).Remembers settings original id := by
  intro draft remembers
  rw [run_append]
  exact reached_bind (front draft remembers) back

theorem Remembers.cons {passes : List Pass} (first : pass.Remembers settings original id)
    (rest : (Pass.run passes).Remembers settings original id) :
    (Pass.run (pass :: passes)).Remembers settings original id := by
  intro draft remembers
  rw [run_cons]
  exact reached_bind (first draft remembers) rest

theorem Remembers.run {passes : List Pass}
    (each : ∀ pass ∈ passes, pass.Remembers settings original id) :
    (Pass.run passes).Remembers settings original id := by
  induction passes with
  | nil => exact fun draft remembers => remembers
  | cons pass passes ih =>
      exact (each pass List.mem_cons_self).cons
        (ih fun pass member => each pass (List.mem_cons_of_mem _ member))

/-- A pass that goes through all methods. -/
theorem Makes.remembers (makes : pass.Makes settings kinds) (settled : kinds ⊆ settledKinds)
    (spares : ∀ draft : Draft, id < draft.forest.functionCount → draft.forest.NoMethod id →
      Forest.Spares id draft.forest (reached (pass draft)).forest) :
    pass.Remembers settings original id := by
  intro draft remembers
  have moves := makes draft remembers.sound
  refine ⟨moves.sound remembers.sound, Nat.lt_of_lt_of_le remembers.present moves.functionCount_le,
    fun isFree => remembers.placed (moves.mem_free remembers.present isFree), ?_⟩
  rcases remembers.kept with ⟨noMethod, same⟩ | ⟨finished, kept⟩
  · have spared := spares draft remembers.present noMethod
    exact .inl ⟨spared.noMethod noMethod, spared.function.trans same⟩
  · refine .inr ⟨finished, ?_⟩
    exact moves.functionAt_induction
      (fun function => original.Loses settings function ∨ original.Holds settings function)
      remembers.present kept
      fun allowed step => step.loses_or_holds finished (settled allowed)

end Pass

namespace Conversion

variable (settings original id) (rootClass : String) (header : HeaderDeclarations)

/-- The draft after more headers, those that fail included. -/
def goOn (settings : Settings) (headers : List HeaderDeclarations) (draft : Draft) : Draft :=
  headers.foldl (fun draft header => reached (processHeader settings draft header)) draft

theorem goOn_eq_of_ok {headers : List HeaderDeclarations}
    (processed : headers.foldlM (processHeader settings) draft = .ok final) :
    goOn settings headers draft = final := by
  induction headers generalizing draft with
  | nil => exact Except.ok.inj processed
  | cons header rest ih =>
      rw [List.foldlM_cons] at processed
      obtain ⟨next, result, later⟩ := exists_ok_of_bind processed
      rw [goOn, List.foldl_cons, result]
      exact ih later

variable {settings id}

end Conversion

/-! ## What a missing accessor is missed for -/

/-- Whether a pass stops as allowed where it gives up. -/
def Pass.StopsAs (allowed : Stopped → Prop) (pass : Pass) : Prop :=
  ∀ draft stopped, pass draft = .error stopped → allowed stopped

namespace Pass

variable {allowed : Stopped → Prop}

theorem StopsAs.ofTotal (step : Draft → Draft) : (Pass.ofTotal step).StopsAs allowed :=
  fun _ _ failed => nomatch failed

/-- A run that gives up does so in one of its passes. -/
theorem exists_stopped_of_run {passes : List Pass} {stopped : Stopped}
    (failed : run passes draft = .error stopped) :
    ∃ pass ∈ passes, ∃ draft, pass draft = .error stopped := by
  induction passes generalizing draft with
  | nil => cases failed
  | cons pass passes ih =>
      rw [run_cons] at failed
      rcases error_or_exists_ok_of_bind failed with stops | ⟨next, -, failed⟩
      · exact ⟨pass, List.mem_cons_self, draft, stops⟩
      · obtain ⟨later, member, stops⟩ := ih failed
        exact ⟨later, List.mem_cons_of_mem _ member, stops⟩

theorem StopsAs.run {passes : List Pass} (each : ∀ pass ∈ passes, pass.StopsAs allowed) :
    (Pass.run passes).StopsAs allowed := by
  intro draft stopped failed
  obtain ⟨pass, member, before, stops⟩ := exists_stopped_of_run failed
  exact each pass member before stopped stops

end Pass

/-- Whether a pass that misses a size accessor gives up at a method that returns a buffer of unknown
size or fills one. -/
def Pass.Blames (settings : Settings) (pass : Pass) : Prop :=
  ∀ draft stopped, pass draft = .error stopped → ∀ className name keywords,
    stopped.cause = .convention (.missingSizeAccessor className name keywords) →
      ∃ c id, Sizing.GivesUp settings c id stopped ∧
        (Sizing.needsReturnAccessor settings (stopped.draft.forest.functionAt id) = true ∨
          (Sizing.filledBuffer? settings (stopped.draft.forest.functionAt id)).isSome = true)

theorem Pass.Blames.ofTotal (step : Draft → Draft) : (Pass.ofTotal step).Blames settings :=
  StopsAs.ofTotal step

theorem Pass.Blames.run {passes : List Pass} (each : ∀ pass ∈ passes, pass.Blames settings) :
    (Pass.run passes).Blames settings :=
  StopsAs.run each

theorem Throwing.cause_convertErrorParameters {stopped : Stopped}
    (failed : convertErrorParameters settings draft = .error stopped) :
    ∃ enumName function, stopped.cause = .convention (.missingException enumName function) := by
  obtain ⟨id, draft, failed⟩ := exists_stopped_of_foldlM failed
  rw [convertFunction] at failed
  dsimp only at failed
  split at failed
  · cases failed
  · split at failed
    · obtain rfl := Except.error.inj failed
      exact ⟨_, _, rfl⟩
    · cases failed

theorem NumberHandles.cause_extractFrom {rounds : Nat} {stopped : Stopped}
    (failed : extractFrom settings rounds draft = .error stopped) :
    stopped.cause = .convention .unsettledHandles := by
  induction rounds, draft using extractFrom.induct settings with
  | case1 rounds draft next finished =>
      rw [extractFrom, finished] at failed
      cases failed
  | case2 rounds draft next found shorter count ih =>
      rw [extractFrom, found] at failed
      dsimp only at failed
      rw [if_pos shorter] at failed
      exact ih failed
  | case3 rounds draft next found same =>
      rw [extractFrom, found] at failed
      dsimp only at failed
      rw [if_neg same] at failed
      exact Except.error.inj failed ▸ rfl

theorem Grouping.cause_settleHandles {stopped : Stopped}
    (failed : settleHandles settings draft = .error stopped) :
    stopped.cause = .convention .unsettledHandles := by
  rw [settleHandles, NumberHandles.extract] at failed
  cases result : NumberHandles.extractFrom settings 0 draft with
  | error cause =>
      rw [result] at failed
      obtain rfl := Except.error.inj failed
      exact NumberHandles.cause_extractFrom result
  | ok settled =>
      rw [result] at failed
      cases failed

namespace Conversion

end Conversion

end Bindery
