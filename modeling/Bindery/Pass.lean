import Bindery.Draft

/-!
# Passes

A conversion is a list of passes, and what holds between two of them is a statement about the runs
of an initial part of the list.
-/

namespace Bindery

/-- One step of a conversion, which may give up. -/
abbrev Pass :=
  Draft → Except Stopped Draft

namespace Pass

/-- A pass that never gives up. -/
def ofTotal (step : Draft → Draft) : Pass :=
  fun draft => .ok (step draft)

/-- All passes in order, up to the first that gives up. -/
def run (passes : List Pass) : Pass :=
  fun draft => passes.foldlM (fun draft pass => pass draft) draft

@[simp]
theorem run_nil (draft : Draft) : run [] draft = .ok draft :=
  rfl

@[simp]
theorem run_cons (pass : Pass) (passes : List Pass) (draft : Draft) :
    run (pass :: passes) draft = pass draft >>= run passes :=
  rfl

/-- A run can be cut anywhere: the second part goes on from where the first one ended. -/
theorem run_append (first second : List Pass) (draft : Draft) :
    run (first ++ second) draft = run first draft >>= run second := by
  simp only [run, List.foldlM_append]
  rfl

end Pass

end Bindery
