import Bindery.Proofs.Settling

/-!
# Functions at rest

Every pass goes through the free functions or through the methods of classes.  A function that is
neither free nor a method has come to rest in its slot, and the passes that follow, those of later
headers included, leave it exactly as it is.
-/

namespace Bindery

variable {settings : Settings} {kinds : Set MoveKind} {draft final : Draft}
  {before after forest : Forest} {id : FunctionId}

namespace Forest

/-- Whether a function is there and is neither free nor a method. -/
structure Rests (id : FunctionId) (forest : Forest) : Prop where
  present : id < forest.functionCount
  placed : id ∉ forest.free
  noMethod : forest.NoMethod id

theorem Rests.spared (rests : before.Rests id) (moves : Moves settings kinds before after)
    (spares : Spares id before after) : after.Rests id where
  present := Nat.lt_of_lt_of_le rests.present moves.functionCount_le
  placed := fun isFree => rests.placed (spares.free isFree)
  noMethod := spares.noMethod rests.noMethod

/-- A function in a slot that is neither the free list nor a method list rests there. -/
theorem Sound.rests (sound : forest.Sound) {slot : Slot} (owned : (id, slot) ∈ forest.owners)
    (notFree : slot ≠ .free) (notMethod : ∀ c, slot ≠ .method c) : forest.Rests id where
  present := sound.lt_of_mem_owners owned
  placed := fun isFree => notFree
    (sound.slot_unique owned (mem_owners_of_free isFree))
  noMethod := fun c isMethod => notMethod c
    (sound.slot_unique owned (mem_owners_of_method isMethod))

end Forest

namespace Pass

/-- Whether a pass makes moves only and leaves functions at rest alone, wherever it ends. -/
def LeavesResting (settings : Settings) (pass : Pass) : Prop :=
  ∀ (draft : Draft) (id : FunctionId), draft.forest.Sound → draft.forest.Rests id →
    Moves settings Set.univ draft.forest (reached (pass draft)).forest ∧
      Forest.Spares id draft.forest (reached (pass draft)).forest

variable {pass : Pass}

theorem Makes.leavesResting (makes : pass.Makes settings kinds)
    (spares : ∀ (draft : Draft) (id : FunctionId), draft.forest.Sound → draft.forest.Rests id →
      Forest.Spares id draft.forest (reached (pass draft)).forest) :
    pass.LeavesResting settings := fun draft id sound rests =>
  ⟨(makes draft sound).mono (Set.subset_univ _), spares draft id sound rests⟩

theorem LeavesResting.ofNote {step : Draft → Draft}
    (silent : ∀ draft, (step draft).forest = draft.forest) :
    (Pass.ofTotal step).LeavesResting settings := by
  have makes : (Pass.ofTotal step).Makes settings ∅ := .ofNote silent
  refine makes.leavesResting fun draft id _ _ => ?_
  change Forest.Spares id draft.forest (step draft).forest
  rw [silent]
  exact .refl id _

theorem LeavesResting.run {passes : List Pass}
    (each : ∀ pass ∈ passes, pass.LeavesResting settings) :
    (Pass.run passes).LeavesResting settings := by
  intro draft id sound rests
  refine @kept_run (fun forest => Moves settings Set.univ draft.forest forest ∧
    Forest.Spares id draft.forest forest) draft _ ?_ ⟨.refl _, .refl id _⟩
  rintro pass member next ⟨moves, spares⟩
  have later := each pass member next id (moves.sound sound) (rests.spared moves spares)
  exact ⟨moves.trans later.1, spares.trans later.2⟩

theorem LeavesResting.ok (leaves : pass.LeavesResting settings) (finished : pass draft = .ok final)
    (sound : draft.forest.Sound) (rests : draft.forest.Rests id) :
    final.forest.Rests id ∧ Forest.Spares id draft.forest final.forest := by
  obtain ⟨moves, spares⟩ := leaves draft id sound rests
  rw [finished] at moves spares
  exact ⟨rests.spared moves spares, spares⟩

theorem run_cons_of_ok {passes : List Pass} {middle : Draft} (first : pass draft = .ok middle)
    (finished : run passes middle = .ok final) : run (pass :: passes) draft = .ok final := by
  rw [run_cons, first]
  exact finished

theorem run_append_of_ok {front rest : List Pass} {middle : Draft}
    (first : run front draft = .ok middle) (finished : run rest middle = .ok final) :
    run (front ++ rest) draft = .ok final := by
  rw [run_append, first]
  exact finished

end Pass

namespace Conversion

variable {rootClass : String} {header : HeaderDeclarations}

/-- No pass comes to a function at rest. -/
theorem leavesResting_of_mem_passes :
    ∀ pass ∈ passes settings rootClass header, pass.LeavesResting settings := by
  simp only [passes, Grouping.passes, Sizing.passes, Accessors.passes, List.cons_append,
    List.nil_append, List.forall_mem_cons]
  refine ⟨.ofNote fun _ => rfl, ?_, ?_, ?_, ?_, ?_, ?_, ?_, ?_, ?_, ?_, ?_, ?_, ?_, ?_, ?_, ?_, ?_,
    ?_, ?_, ?_, ?_, ?_, ?_, .ofNote fun _ => rfl, List.forall_mem_nil _⟩
  · have makes := makes_takeEnums settings header.enums
    exact makes.leavesResting fun draft id sound rests =>
      ((makes draft sound).mono (by simp [takeKinds])).spares_take rests.present
  · have makes := makes_takeFunctions settings header.functions
    exact makes.leavesResting fun draft id sound rests =>
      ((makes draft sound).mono (by simp [takeKinds])).spares_take rests.present
  · exact (Throwing.makes_convertErrorParameters settings).leavesResting fun _ _ _ rests =>
      Throwing.spares_convertErrorParameters settings rests.placed
  · exact (Hoisting.makes_hoistAllocators settings header.structs).leavesResting
      fun _ _ _ rests => Hoisting.spares_hoistAllocators rests.placed
  · exact (Hoisting.makes_hoistStructFunctions settings header.structs).leavesResting
      fun _ _ _ rests => Hoisting.spares_hoistStructFunctions rests.placed
  · exact (Hoisting.makes_hoistLeftovers settings rootClass).leavesResting fun _ _ _ rests =>
      Hoisting.spares_hoistLeftovers rootClass rests.placed
  · exact (Grouping.makes_stripRootPrefixes settings).leavesResting fun _ _ _ rests =>
      Hoisting.spares_stripClassPrefixes _ rests.noMethod
  · exact (Grouping.makes_settleHandles settings).leavesResting fun _ _ _ rests =>
      Grouping.spares_settleHandles settings rests.noMethod
  · exact (Listeners.makes_extract settings header.typedefs).leavesResting fun _ _ _ rests =>
      Listeners.spares_extract settings header.typedefs rests.present
  · exact (NumberHandles.makes_convertLeftoverParameters settings).leavesResting
      fun _ _ _ rests => spares_forEachMethod_modify rests.noMethod
  · exact (Sizing.makes_resolveReturns settings).leavesResting fun _ _ _ rests =>
      Sizing.spares_resolveReturns rests.noMethod
  · exact (Sizing.makes_resolveFilledBuffers settings).leavesResting fun _ _ _ rests =>
      Sizing.spares_resolveFilledBuffers rests.noMethod
  · exact (Sizing.makes_resolveSetters settings).leavesResting fun _ _ _ rests =>
      Sizing.spares_resolveSetters rests.noMethod
  · exact (Sizing.makes_resolveOverrides settings).leavesResting fun _ _ _ rests =>
      Sizing.spares_resolveOverrides rests.noMethod
  · exact (Sizing.makes_pairParameters settings).leavesResting fun _ _ _ rests =>
      spares_forEachMethod_modify rests.noMethod
  · exact (Sizing.makes_resolveResiduals settings).leavesResting fun _ _ _ rests =>
      Sizing.spares_resolveResiduals rests.noMethod
  · exact (Corrections.makes_retypeHandleReturns settings).leavesResting fun _ _ _ rests =>
      spares_forEachMethod_modify rests.noMethod
  · exact (Corrections.makes_extractInitializers settings).leavesResting fun _ _ _ _ =>
      Corrections.spares_extractInitializers
  · exact (Accessors.makes_foldAccessors settings).leavesResting fun _ _ _ rests =>
      Accessors.spares_foldAccessors rests.noMethod
  · exact (Accessors.makes_dropSuccessReturns settings).leavesResting fun _ _ _ rests =>
      spares_forEachMethod_modify rests.noMethod
  · exact (Accessors.makes_foldStatics settings).leavesResting fun _ _ _ rests =>
      Accessors.spares_foldStatics rests.noMethod
  · exact (Accessors.makes_foldForcedProperties settings).leavesResting fun _ _ _ rests =>
      Accessors.spares_foldForcedProperties rests.noMethod
  · exact (Corrections.makes_applyRenames settings).leavesResting fun _ _ _ rests =>
      Corrections.spares_applyRenames settings rests.noMethod

theorem leavesResting_run {some : List Pass} (among : some ⊆ passes settings rootClass header) :
    (Pass.run some).LeavesResting settings :=
  .run fun pass member => leavesResting_of_mem_passes pass (among member)

/-- A function that rests before a header rests as it is when the header is done. -/
theorem rests_of_finished (sound : draft.forest.Sound) (rests : draft.forest.Rests id)
    (finished : Pass.run (passes settings rootClass header) draft = .ok final) :
    final.forest.Rests id ∧ Forest.Spares id draft.forest final.forest :=
  (leavesResting_run (List.Subset.refl _)).ok finished sound rests

namespace Course

variable {start : Draft} (course : Course settings rootClass header start final)

theorem run_hoisted :
    Pass.run (handlePasses settings ++ afterHandles settings header) course.hoisted =
      .ok final := by
  have initializes : Pass.ofTotal (Corrections.extractInitializers settings) course.sized =
      .ok course.initialized := rfl
  have listens : Pass.ofTotal (fun draft => (Listeners.extract settings header.typedefs draft).1)
      course.placed = .ok course.listened := rfl
  have formed := Pass.run_cons_of_ok initializes course.ends
  have found := Pass.run_cons_of_ok course.promotes (Pass.run_append_of_ok course.sizes formed)
  have heard := Pass.run_cons_of_ok listens (Pass.run_append_of_ok course.handles found)
  exact Pass.run_append_of_ok course.places heard

/-- The same for a function that rests once the functions of the header have their classes. -/
theorem rests_final (sound : start.forest.Sound) (rests : course.hoisted.forest.Rests id) :
    final.forest.Rests id ∧ Forest.Spares id course.hoisted.forest final.forest := by
  have split : passes settings rootClass header =
      takePasses settings rootClass header ++ (Throwing.convertErrorParameters settings ::
        (hoistPasses settings rootClass header ++
          (handlePasses settings ++ afterHandles settings header))) := rfl
  have among : handlePasses settings ++ afterHandles settings header ⊆
      passes settings rootClass header := by
    rw [split]
    intro pass member
    exact List.mem_append_right _ (List.mem_cons_of_mem _ (List.mem_append_right _ member))
  exact (leavesResting_run among).ok course.run_hoisted (course.sound_hoisted sound) rests

end Course

end Conversion

end Bindery
