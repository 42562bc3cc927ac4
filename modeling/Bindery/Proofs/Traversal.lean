import Bindery.Pass
import Bindery.Proofs.Soundness

/-!
# Passes as sequences of moves

A pass goes through classes and methods and makes a few moves for each of them.  Where a step
relies on something that earlier steps may have changed, a loop carries an invariant about the
items that are still to come.
-/

namespace Bindery

variable {settings : Settings} {kinds : Set MoveKind} {α : Type}

/-- The draft at which a pass ended, whether it finished or gave up. -/
def reached : Except Stopped Draft → Draft
  | .ok draft => draft
  | .error stopped => stopped.draft

/-- What finishes has also finished what came first. -/
theorem exists_ok_of_bind {ε β : Type} {first : Except ε α} {rest : α → Except ε β} {result : β}
    (finished : first >>= rest = .ok result) :
    ∃ middle, first = .ok middle ∧ rest middle = .ok result := by
  cases first with
  | error stopped => cases finished
  | ok middle => exact ⟨middle, rfl, finished⟩

/-- What gives up has done so in its first part or in the rest. -/
theorem error_or_exists_ok_of_bind {ε β : Type} {first : Except ε α} {rest : α → Except ε β}
    {stopped : ε} (failed : first >>= rest = .error stopped) :
    first = .error stopped ∨ ∃ middle, first = .ok middle ∧ rest middle = .error stopped := by
  cases first with
  | error cause =>
      obtain rfl := Except.error.inj failed
      exact .inl rfl
  | ok middle => exact .inr ⟨middle, rfl, failed⟩

/-- What holds wherever the first part ends, and is kept wherever the rest ends, holds where the
whole ends. -/
theorem reached_bind {Invariant : Forest → Prop} {first : Except Stopped Draft} {rest : Pass}
    (holds : Invariant (reached first).forest)
    (keeps : ∀ draft, Invariant draft.forest → Invariant (reached (rest draft)).forest) :
    Invariant (reached (first >>= rest)).forest := by
  cases first with
  | error stopped => exact holds
  | ok next => exact keeps next holds

namespace Pass

/-- Whether all that the pass does to a sound forest is to make moves of the given kinds. -/
def Makes (settings : Settings) (kinds : Set MoveKind) (pass : Pass) : Prop :=
  ∀ draft : Draft, draft.forest.Sound →
    Moves settings kinds draft.forest (reached (pass draft)).forest

namespace Makes

theorem ofTotal {step : Draft → Draft}
    (each : ∀ draft : Draft, draft.forest.Sound →
      Moves settings kinds draft.forest (step draft).forest) :
    (Pass.ofTotal step).Makes settings kinds :=
  each

theorem sound_ofTotal {step : Draft → Draft} {draft : Draft}
    (makes : (Pass.ofTotal step).Makes settings kinds) (sound : draft.forest.Sound) :
    (step draft).forest.Sound :=
  (makes draft sound).sound sound

theorem mono {more : Set MoveKind} {pass : Pass} (allowed : kinds ⊆ more)
    (makes : pass.Makes settings kinds) : pass.Makes settings more :=
  fun draft sound => (makes draft sound).mono allowed

/-- A step that changes nothing but the journal makes no move. -/
theorem ofNote {step : Draft → Draft} (silent : ∀ draft, (step draft).forest = draft.forest) :
    (Pass.ofTotal step).Makes settings kinds := by
  intro draft _
  have same : (reached (Pass.ofTotal step draft)).forest = draft.forest := silent draft
  rw [same]
  exact .refl _

theorem cons {pass : Pass} {passes : List Pass} (first : pass.Makes settings kinds)
    (rest : (Pass.run passes).Makes settings kinds) :
    (Pass.run (pass :: passes)).Makes settings kinds := by
  intro draft sound
  rw [run_cons]
  exact reached_bind (first draft sound) fun next moves =>
    moves.trans (rest next (moves.sound sound))

theorem append {first second : List Pass} (front : (Pass.run first).Makes settings kinds)
    (back : (Pass.run second).Makes settings kinds) :
    (Pass.run (first ++ second)).Makes settings kinds := by
  intro draft sound
  rw [run_append]
  exact reached_bind (front draft sound) fun next moves =>
    moves.trans (back next (moves.sound sound))

theorem run {passes : List Pass} (each : ∀ pass ∈ passes, pass.Makes settings kinds) :
    (Pass.run passes).Makes settings kinds := by
  induction passes with
  | nil => exact fun draft _ => .refl _
  | cons pass passes ih =>
      exact (each pass List.mem_cons_self).cons
        (ih fun pass member => each pass (List.mem_cons_of_mem _ member))

end Makes

end Pass

/-! ## Invariants of loops -/

section Kept

variable {Invariant : Forest → Prop} {draft : Draft}

/-- What every step keeps, wherever it ends, is kept wherever the loop ends. -/
theorem kept_foldlM {step : Draft → α → Except Stopped Draft}
    (keeps : ∀ draft item, Invariant draft.forest → Invariant (reached (step draft item)).forest)
    {items : List α} (holds : Invariant draft.forest) :
    Invariant (reached (items.foldlM step draft)).forest := by
  induction items generalizing draft with
  | nil => exact holds
  | cons item rest ih =>
      rw [List.foldlM_cons]
      exact reached_bind (keeps draft item holds) fun _ => ih

theorem kept_foldl {step : Draft → α → Draft}
    (keeps : ∀ draft item, Invariant draft.forest → Invariant (step draft item).forest)
    {items : List α} (holds : Invariant draft.forest) :
    Invariant (items.foldl step draft).forest := by
  induction items generalizing draft with
  | nil => exact holds
  | cons item rest ih => exact ih (keeps draft item holds)

theorem kept_tryForEachMethod {step : ClassId → FunctionId → Draft → Except Stopped Draft}
    (keeps : ∀ draft c id, Invariant draft.forest → Invariant (reached (step c id draft)).forest)
    (holds : Invariant draft.forest) :
    Invariant (reached (draft.tryForEachMethod step)).forest :=
  kept_foldlM (fun _ c holds => kept_foldlM (fun draft id => keeps draft c id) holds) holds

theorem kept_forEachMethod {step : ClassId → FunctionId → Draft → Draft}
    (keeps : ∀ draft c id, Invariant draft.forest → Invariant (step c id draft).forest)
    (holds : Invariant draft.forest) : Invariant (draft.forEachMethod step).forest :=
  kept_foldl (fun _ c holds => kept_foldl (fun draft id => keeps draft c id) holds) holds

theorem Pass.kept_run {passes : List Pass}
    (keeps : ∀ pass ∈ passes, ∀ draft : Draft, Invariant draft.forest →
      Invariant (reached (pass draft)).forest)
    (holds : Invariant draft.forest) : Invariant (reached (Pass.run passes draft)).forest := by
  induction passes generalizing draft with
  | nil => exact holds
  | cons pass passes ih =>
      rw [run_cons]
      exact reached_bind (keeps pass List.mem_cons_self draft holds) fun _ =>
        ih fun pass member => keeps pass (List.mem_cons_of_mem _ member)

end Kept

/-! ## Loops -/

theorem moves_foldl_of_forall {step : Draft → α → Draft}
    (each : ∀ draft item, Moves settings kinds draft.forest (step draft item).forest)
    {items : List α} {draft : Draft} :
    Moves settings kinds draft.forest (items.foldl step draft).forest := by
  induction items generalizing draft with
  | nil => exact .refl _
  | cons item rest ih => exact (each draft item).trans ih

theorem moves_foldl_of_remaining {Remaining : List α → Forest → Prop} {step : Draft → α → Draft}
    (each : ∀ draft item rest, Remaining (item :: rest) draft.forest →
      Moves settings kinds draft.forest (step draft item).forest ∧
        Remaining rest (step draft item).forest)
    {items : List α} {draft : Draft} (start : Remaining items draft.forest) :
    Moves settings kinds draft.forest (items.foldl step draft).forest := by
  induction items generalizing draft with
  | nil => exact .refl _
  | cons item rest ih =>
      obtain ⟨moves, remaining⟩ := each draft item rest start
      exact moves.trans (ih remaining)

theorem moves_foldl_remaining {Remaining : List α → Forest → Prop} {step : Draft → α → Draft}
    (each : ∀ draft item rest, draft.forest.Sound → Remaining (item :: rest) draft.forest →
      Moves settings kinds draft.forest (step draft item).forest ∧
        Remaining rest (step draft item).forest)
    {items : List α} {draft : Draft} (sound : draft.forest.Sound)
    (start : Remaining items draft.forest) :
    Moves settings kinds draft.forest (items.foldl step draft).forest := by
  have loop := @moves_foldl_of_remaining settings kinds α
    (fun rest forest => forest.Sound ∧ Remaining rest forest) step
    (fun draft item rest facts => by
      obtain ⟨moves, remaining⟩ := each draft item rest facts.1 facts.2
      exact ⟨moves, moves.sound facts.1, remaining⟩)
  exact loop ⟨sound, start⟩

theorem moves_foldl {step : Draft → α → Draft} {items : List α}
    (each : ∀ draft, ∀ item ∈ items, draft.forest.Sound →
      Moves settings kinds draft.forest (step draft item).forest)
    {draft : Draft} (sound : draft.forest.Sound) :
    Moves settings kinds draft.forest (items.foldl step draft).forest := by
  have loop := @moves_foldl_remaining settings kinds α (fun rest _ => rest ⊆ items) step
    (fun draft item rest sound within =>
      ⟨each draft item (within List.mem_cons_self) sound,
        fun _ member => within (List.mem_cons_of_mem _ member)⟩)
  exact loop sound fun _ member => member

theorem moves_foldlM {step : Draft → α → Except Stopped Draft}
    (each : ∀ draft item, draft.forest.Sound →
      Moves settings kinds draft.forest (reached (step draft item)).forest)
    {items : List α} {draft : Draft} (sound : draft.forest.Sound) :
    Moves settings kinds draft.forest (reached (items.foldlM step draft)).forest := by
  induction items generalizing draft with
  | nil => exact .refl _
  | cons item rest ih =>
      rw [List.foldlM_cons]
      exact reached_bind (each draft item sound) fun next moves =>
        moves.trans (ih (moves.sound sound))

theorem moves_forEachMethod {step : ClassId → FunctionId → Draft → Draft}
    (each : ∀ draft c id, draft.forest.Sound →
      Moves settings kinds draft.forest (step c id draft).forest)
    {draft : Draft} (sound : draft.forest.Sound) :
    Moves settings kinds draft.forest (draft.forEachMethod step).forest := by
  refine moves_foldl (fun draft c _ sound => ?_) sound
  exact moves_foldl (fun draft id _ sound => each draft c id sound) sound

theorem moves_tryForEachMethod {step : ClassId → FunctionId → Draft → Except Stopped Draft}
    (each : ∀ draft c id, draft.forest.Sound →
      Moves settings kinds draft.forest (reached (step c id draft)).forest)
    {draft : Draft} (sound : draft.forest.Sound) :
    Moves settings kinds draft.forest (reached (draft.tryForEachMethod step)).forest := by
  refine moves_foldlM (fun draft c sound => ?_) sound
  exact moves_foldlM (fun draft id sound => each draft c id sound) sound

/-- The same for steps that rely on the methods of the class that are still to come. -/
theorem moves_forEachMethod_remaining (Remaining : ClassId → List FunctionId → Forest → Prop)
    {step : ClassId → FunctionId → Draft → Draft}
    (start : ∀ forest c, forest.Sound → Remaining c (forest.methods c) forest)
    (each : ∀ draft c id rest, draft.forest.Sound → Remaining c (id :: rest) draft.forest →
      Moves settings kinds draft.forest (step c id draft).forest ∧
        Remaining c rest (step c id draft).forest)
    {draft : Draft} (sound : draft.forest.Sound) :
    Moves settings kinds draft.forest (draft.forEachMethod step).forest := by
  refine moves_foldl (fun draft c _ sound => ?_) sound
  have loop := @moves_foldl_remaining settings kinds FunctionId (Remaining c)
    (fun draft id => step c id draft) (fun draft id rest => each draft c id rest)
  exact loop sound (start draft.forest c sound)

theorem moves_forEachClass {step : ClassId → Draft → Draft}
    (each : ∀ draft c, draft.forest.Sound →
      Moves settings kinds draft.forest (step c draft).forest)
    {draft : Draft} (sound : draft.forest.Sound) :
    Moves settings kinds draft.forest (draft.forEachClass step).forest :=
  moves_foldl (fun draft c _ sound => each draft c sound) sound

/-- An edit of one function, as a step of a pass. -/
theorem moves_modifyFunction {kind : EditKind} {draft : Draft} {id : FunctionId}
    {change : Function → Function} (allowed : MoveKind.edit kind ∈ kinds)
    (edited : Edit settings kind (draft.forest.functionAt id)
      (change (draft.forest.functionAt id))) :
    Moves settings kinds draft.forest (draft.modifyFunction id change).forest :=
  .single allowed (.edit edited)

end Bindery
