import Bindery.Proofs.Contents

/-!
# What holds of the methods that stay

Once the functions of a header have found their classes, methods only ever leave.  A pass that goes
through all methods therefore settles something for every method that is left in the end: the loop
came to it, and whatever was settled then is kept by the steps that follow.
-/

namespace Bindery

variable {settings : Settings} {kind : MoveKind} {kinds : Set MoveKind}
  {before middle after : Forest} {Good Better : Function → Prop}

namespace Forest

theorem functionAt_of_absent {forest : Forest} {id : FunctionId}
    (absent : ¬ id < forest.functionCount) : forest.functionAt id = default := by
  rw [functionAt, List.getElem?_eq_none (Nat.le_of_not_lt absent)]
  rfl

/-- A function that is not there is not changed either. -/
theorem functionAt_modifyFunction_or (forest : Forest) (id : FunctionId)
    (change : Function → Function) :
    (forest.modifyFunction id change).functionAt id = change (forest.functionAt id) ∨
      forest.functionAt id = default ∧
        (forest.modifyFunction id change).functionAt id = default := by
  by_cases present : id < forest.functionCount
  · exact .inl (functionAt_modifyFunction_self present)
  · right
    refine ⟨functionAt_of_absent present, functionAt_of_absent ?_⟩
    rwa [functionCount_modifyFunction]

/-- Whether classes stay what they are, methods only leave, and good ones that stay stay good. -/
structure Narrows (Good : Function → Prop) (before after : Forest) : Prop where
  hierarchy : after.hierarchy = before.hierarchy
  methods : ∀ c, (after.methods c).Sublist (before.methods c)
  keeps : ∀ c, ∀ id ∈ after.methods c, Good (before.functionAt id) → Good (after.functionAt id)

/-- Whether every method is good. -/
def AllMethods (Good : Function → Prop) (forest : Forest) : Prop :=
  ∀ c, ∀ id ∈ forest.methods c, Good (forest.functionAt id)

namespace Narrows

theorem refl (forest : Forest) : forest.Narrows Good forest where
  hierarchy := rfl
  methods := fun _ => List.Sublist.refl _
  keeps := fun _ _ _ good => good

theorem trans (first : before.Narrows Good middle) (second : middle.Narrows Good after) :
    before.Narrows Good after where
  hierarchy := second.hierarchy.trans first.hierarchy
  methods := fun c => (second.methods c).trans (first.methods c)
  keeps := fun c id stays good =>
    second.keeps c id stays (first.keeps c id ((second.methods c).subset stays) good)

theorem allMethods (narrows : before.Narrows Good after) (all : before.AllMethods Good) :
    after.AllMethods Good :=
  fun c id stays => narrows.keeps c id stays (all c id ((narrows.methods c).subset stays))

theorem modifyFunction {forest : Forest} {id : FunctionId} {change : Function → Function}
    (keeps : Good (forest.functionAt id) → Good (change (forest.functionAt id))) :
    forest.Narrows Good (forest.modifyFunction id change) where
  hierarchy := rfl
  methods := fun _ => List.Sublist.refl _
  keeps := by
    intro c other _ good
    by_cases same : other = id
    · subst same
      rcases forest.functionAt_modifyFunction_or other change with changed | ⟨absent, still⟩
      · exact changed ▸ keeps good
      · rwa [still, ← absent]
    · rwa [functionAt_modifyFunction_of_ne same]

end Narrows

end Forest

/-- The kinds of moves by which methods leave or functions are rewritten. -/
def narrowingKinds : Set MoveKind :=
  {kind | kind ∉ ({.intake, .listen, .require, .allocate, .deallocate, .adopt, .adoptAll,
    .descend} : Set MoveKind)}

theorem ContentStep.methods_sublist {forest : Forest} {place : ClassId} {content changed : Class}
    (step : ContentStep forest place kind content changed) (narrowing : kind ∈ narrowingKinds) :
    changed.methods.Sublist content.methods := by
  cases step with
  | listen | allocate | deallocate | adopt | adoptAll | leave | arrive =>
      simp [narrowingKinds] at narrowing
  | renameProperties names => exact List.Sublist.refl _
  | _ => exact List.erase_sublist

namespace Move

theorem functionAt_eq_of_absent (move : Move settings kind before after) (adds : kind.adds = false)
    {id : FunctionId} (absent : ¬ id < before.functionCount) :
    after.functionAt id = before.functionAt id := by
  have count : after.functionCount = before.functionCount := by
    rw [move.functionCount_eq, adds]
    rfl
  rw [Forest.functionAt_of_absent absent, Forest.functionAt_of_absent (count ▸ absent)]

theorem hierarchy_eq (move : Move settings kind before after) (narrowing : kind ∈ narrowingKinds) :
    after.hierarchy = before.hierarchy := by
  cases move with
  | intake | listen | require | allocate | deallocate | adopt | adoptAll | descend =>
      simp [narrowingKinds] at narrowing
  | _ => rfl

theorem narrows (move : Move settings kind before after) (narrowing : kind ∈ narrowingKinds)
    (keeps : ∀ {function changed}, Step settings kind function changed → Good function →
      Good changed) : before.Narrows Good after where
  hierarchy := move.hierarchy_eq narrowing
  methods := by
    intro c
    rcases move.classAt_step c with same | step
    · rw [Forest.methods, same]
      exact List.Sublist.refl _
    · exact step.methods_sublist narrowing
  keeps := by
    intro c id _ good
    by_cases present : id < before.functionCount
    · rcases move.functionAt_step present with same | step
      · rwa [same]
      · exact keeps step good
    · have adds : kind.adds = false := by
        cases kind with
        | intake | listen => simp [narrowingKinds] at narrowing
        | _ => rfl
      rwa [move.functionAt_eq_of_absent adds present]

end Move

/-- Moves that only let methods leave keep what each of their steps keeps. -/
theorem Moves.narrows (moves : Moves settings kinds before after)
    (narrowing : kinds ⊆ narrowingKinds)
    (keeps : ∀ {kind function changed}, kind ∈ kinds → Step settings kind function changed →
      Good function → Good changed) : before.Narrows Good after := by
  induction moves with
  | refl => exact .refl _
  | tail _ last ih =>
      obtain ⟨kind, allowed, move⟩ := last
      exact ih.trans (move.narrows (narrowing allowed) (keeps allowed))

/-! ## Loops over methods -/

/-- What one step of a loop does that comes to a method of a class: the method is good
afterwards, unless it left. -/
structure Settles (Good : Function → Prop) (c : ClassId) (id : FunctionId)
    (before after : Forest) : Prop where
  narrows : before.Narrows Good after
  settled : id ∈ after.methods c → Good (after.functionAt id)

/-- What a loop relies on: an invariant between two classes, and within one class what is known of
the methods that are still to come. -/
structure LoopInvariant (Invariant : Forest → Prop)
    (Remaining : ClassId → List FunctionId → Forest → Prop) : Prop where
  enter : ∀ {forest : Forest} (c : ClassId), Invariant forest →
    Remaining c (forest.methods c) forest
  leave : ∀ {forest : Forest} {c : ClassId}, Remaining c [] forest → Invariant forest

theorem LoopInvariant.same (Invariant : Forest → Prop) :
    LoopInvariant Invariant fun _ _ forest => Invariant forest :=
  ⟨fun _ invariant => invariant, fun invariant => invariant⟩

/-- An invariant, and beside it what it tells of the methods of a class that is entered. -/
theorem LoopInvariant.beside {Invariant : Forest → Prop}
    {Remaining : ClassId → List FunctionId → Forest → Prop}
    (enter : ∀ {forest : Forest} (c : ClassId), Invariant forest →
      Remaining c (forest.methods c) forest) :
    LoopInvariant Invariant fun c rest forest => Invariant forest ∧ Remaining c rest forest :=
  ⟨fun c invariant => ⟨invariant, enter c invariant⟩, fun facts => facts.1⟩

section Loops

variable {Invariant : Forest → Prop} {Remaining : ClassId → List FunctionId → Forest → Prop}
  {step : ClassId → FunctionId → Draft → Except Stopped Draft} {draft final : Draft} {c : ClassId}

/-- A part of the loop settles the methods that it comes to. -/
theorem settles_methods
    (each : ∀ {draft next : Draft} {id : FunctionId} {rest : List FunctionId},
      Remaining c (id :: rest) draft.forest → step c id draft = .ok next →
      Remaining c rest next.forest ∧ Settles Good c id draft.forest next.forest)
    {ids : List FunctionId} (start : Remaining c ids draft.forest)
    (finished : ids.foldlM (fun draft id => step c id draft) draft = .ok final) :
    Remaining c [] final.forest ∧ draft.forest.Narrows Good final.forest ∧
      ∀ id ∈ ids, id ∈ final.forest.methods c → Good (final.forest.functionAt id) := by
  induction ids generalizing draft with
  | nil =>
      obtain rfl := Except.ok.inj finished
      exact ⟨start, .refl _, by simp⟩
  | cons first rest ih =>
      rw [List.foldlM_cons] at finished
      obtain ⟨next, result, later⟩ := exists_ok_of_bind finished
      obtain ⟨remaining, settles⟩ := each start result
      obtain ⟨kept, narrows, settled⟩ := ih remaining later
      refine ⟨kept, settles.narrows.trans narrows, ?_⟩
      intro id member stays
      rcases List.mem_cons.1 member with rfl | isLater
      · exact narrows.keeps c id stays (settles.settled ((narrows.methods c).subset stays))
      · exact settled id isLater stays

/-- The whole loop settles every method that is left. -/
theorem settles_tryForEachMethod (loop : LoopInvariant Invariant Remaining)
    (each : ∀ {draft next : Draft} {c : ClassId} {id : FunctionId} {rest : List FunctionId},
      Remaining c (id :: rest) draft.forest → step c id draft = .ok next →
      Remaining c rest next.forest ∧ Settles Good c id draft.forest next.forest)
    (start : Invariant draft.forest) (finished : draft.tryForEachMethod step = .ok final) :
    draft.forest.Narrows Good final.forest ∧ final.forest.AllMethods Good := by
  have visits : ∀ (classes : List ClassId) (draft : Draft), Invariant draft.forest →
      classes.foldlM (fun draft c => (draft.forest.methods c).foldlM
        (fun draft id => step c id draft) draft) draft = .ok final →
      draft.forest.Narrows Good final.forest ∧
        ∀ c ∈ classes, ∀ id ∈ final.forest.methods c, Good (final.forest.functionAt id) := by
    intro classes
    induction classes with
    | nil =>
        intro draft _ finished
        obtain rfl := Except.ok.inj finished
        exact ⟨.refl _, by simp⟩
    | cons first rest ih =>
        intro draft start finished
        rw [List.foldlM_cons] at finished
        obtain ⟨next, result, later⟩ := exists_ok_of_bind finished
        obtain ⟨remaining, here, settled⟩ := settles_methods each (loop.enter first start) result
        obtain ⟨there, all⟩ := ih next (loop.leave remaining) later
        refine ⟨here.trans there, ?_⟩
        intro c member id isMethod
        rcases List.mem_cons.1 member with rfl | isLater
        · have stayed := (there.methods c).subset isMethod
          exact there.keeps c id isMethod
            (settled id ((here.methods c).subset stayed) stayed)
        · exact all c isLater id isMethod
  obtain ⟨narrows, all⟩ := visits draft.forest.allClasses draft start finished
  refine ⟨narrows, fun c id isMethod => all c ?_ id isMethod⟩
  have valid := Forest.lt_size_of_mem_methods isMethod
  rw [narrows.hierarchy] at valid
  exact Hierarchy.mem_all_iff.2 valid

/-- A loop that gives up does so at one of its steps. -/
theorem exists_stopped_of_foldlM {α : Type} {items : List α}
    {visit : Draft → α → Except Stopped Draft} {stopped : Stopped}
    (failed : items.foldlM visit draft = .error stopped) :
    ∃ item draft, visit draft item = .error stopped := by
  induction items generalizing draft with
  | nil => cases failed
  | cons item rest ih =>
      rw [List.foldlM_cons] at failed
      rcases error_or_exists_ok_of_bind failed with stops | ⟨next, -, failed⟩
      · exact ⟨item, draft, stops⟩
      · exact ih failed

theorem exists_stopped_of_tryForEachMethod {stopped : Stopped}
    (failed : draft.tryForEachMethod step = .error stopped) :
    ∃ c id draft, step c id draft = .error stopped := by
  obtain ⟨c, outer, inner⟩ := exists_stopped_of_foldlM failed
  obtain ⟨id, draft, failed⟩ := exists_stopped_of_foldlM inner
  exact ⟨c, id, draft, failed⟩

/-- A loop that can not give up, as one that can. -/
theorem foldlM_ok {α : Type} (visit : Draft → α → Draft) (items : List α) (draft : Draft) :
    items.foldlM (fun draft item => Except.ok (visit draft item)) draft =
      (Except.ok (items.foldl visit draft) : Except Stopped Draft) := by
  induction items generalizing draft with
  | nil => rfl
  | cons item rest ih => exact ih (visit draft item)

theorem tryForEachMethod_ok (step : ClassId → FunctionId → Draft → Draft) (draft : Draft) :
    draft.tryForEachMethod (fun c id draft => .ok (step c id draft)) =
      .ok (draft.forEachMethod step) := by
  simp only [Draft.tryForEachMethod, foldlM_ok]
  rfl

/-- The same for a loop that can not give up. -/
theorem settles_forEachMethod {step : ClassId → FunctionId → Draft → Draft}
    (loop : LoopInvariant Invariant Remaining)
    (each : ∀ {draft : Draft} {c : ClassId} {id : FunctionId} {rest : List FunctionId},
      Remaining c (id :: rest) draft.forest →
      Remaining c rest (step c id draft).forest ∧
        Settles Good c id draft.forest (step c id draft).forest)
    (start : Invariant draft.forest) :
    draft.forest.Narrows Good (draft.forEachMethod step).forest ∧
      (draft.forEachMethod step).forest.AllMethods Good := by
  refine settles_tryForEachMethod loop (fun remaining result => ?_) start
    (tryForEachMethod_ok step draft)
  rw [← Except.ok.inj result]
  exact each remaining

theorem narrows_foldl {α : Type} {visit : Draft → α → Draft}
    (each : ∀ (draft : Draft) (item : α), draft.forest.Narrows Good (visit draft item).forest)
    (items : List α) (draft : Draft) :
    draft.forest.Narrows Good (items.foldl visit draft).forest := by
  induction items generalizing draft with
  | nil => exact .refl _
  | cons item rest ih => exact (each draft item).trans (ih _)

theorem narrows_forEachMethod {step : ClassId → FunctionId → Draft → Draft}
    (each : ∀ (draft : Draft) (c : ClassId) (id : FunctionId),
      draft.forest.Narrows Good (step c id draft).forest) (draft : Draft) :
    draft.forest.Narrows Good (draft.forEachMethod step).forest :=
  narrows_foldl (fun draft c => narrows_foldl (fun draft id => each draft c id) _ draft) _ draft

end Loops

end Bindery
