import Bindery.Conversion
import Bindery.Proofs.Traversal

/-!
# The moves of the passes that form classes

Functions come in free.  The hoisting passes go through the free list as it was when they started,
so each function that is still to come is still free.  The passes for number handles go through
matches, and a match that is still to come is a method with the same leading parameter as when it
was found, because a method matches once.
-/

namespace Bindery

variable {settings : Settings} {kinds : Set MoveKind} {draft : Draft} {id : FunctionId}

namespace Conversion

theorem forest_foldl_note (draft : Draft) (level : Level) (names : List String)
    (text : String → String) :
    (names.foldl (fun draft name => draft.note level (text name)) draft).forest =
      draft.forest := by
  induction names generalizing draft with
  | nil => rfl
  | cons name rest ih =>
      rw [List.foldl_cons, ih, Draft.forest_note]

variable (settings)

theorem makes_takeEnums (declarations : List EnumDeclaration) :
    Pass.Makes settings {.register} (Pass.ofTotal (takeEnums settings declarations)) := by
  refine .ofTotal fun draft _ => ?_
  have taken : (takeEnums settings declarations draft).forest =
      { draft.forest with
        exceptions := draft.forest.exceptions ++
          Throwing.deriveExceptions settings (Intake.enums settings declarations)
        enums := draft.forest.enums ++ Intake.enums settings declarations } := by
    rw [takeEnums, Draft.forest_onForest, forest_foldl_note]
  rw [taken]
  exact .single (Set.mem_singleton _) (.register _)

theorem makes_takeFunctions (declarations : List FunctionDeclaration) :
    Pass.Makes settings {.intake} (Pass.ofTotal (takeFunctions settings declarations)) := by
  refine .ofTotal fun draft sound => ?_
  have noted := forest_foldl_note draft .debug (Intake.excludedFunctions settings declarations)
    fun name => s!"Skipping excluded function `{name}`"
  rw [← noted] at sound ⊢
  exact moves_foldl (fun draft function _ _ =>
    .single (Set.mem_singleton _) (.intake function)) sound

end Conversion

namespace Throwing

theorem moves_convertFunction :
    Moves settings {.edit .convertError} draft.forest
      (reached (convertFunction settings draft id)).forest := by
  rw [convertFunction]
  dsimp only
  split
  · exact .refl _
  · rename_i position found
    split
    · exact .refl _
    · rename_i exception _
      exact moves_modifyFunction (Set.mem_singleton _) (.convertError exception.name found)

theorem makes_convertErrorParameters (settings : Settings) :
    Pass.Makes settings {.edit .convertError} (convertErrorParameters settings) :=
  fun _ sound => moves_foldlM (fun _ _ _ => moves_convertFunction) sound

end Throwing

/-- The functions that a loop still has to place are different and free. -/
def FreeRemain (rest : List FunctionId) (forest : Forest) : Prop :=
  rest.Nodup ∧ ∀ id ∈ rest, id ∈ forest.free

namespace FreeRemain

variable {rest : List FunctionId} {forest taken : Forest}

theorem start (sound : forest.Sound) : FreeRemain forest.free forest :=
  ⟨sound.free_nodup, fun _ member => member⟩

theorem isFree (remain : FreeRemain (id :: rest) forest) : id ∈ forest.free :=
  remain.2 id List.mem_cons_self

/-- What is left of the list is free still, if nothing was taken but the first. -/
theorem tail (remain : FreeRemain (id :: rest) forest)
    (others : ∀ other ∈ forest.free, other ≠ id → other ∈ taken.free) :
    FreeRemain rest taken := by
  obtain ⟨fresh, different⟩ := List.nodup_cons.1 remain.1
  refine ⟨different, fun other member => ?_⟩
  have distinct : other ≠ id := fun same => fresh (same ▸ member)
  exact others other (remain.2 other (List.mem_cons_of_mem _ member)) distinct

end FreeRemain

namespace Hoisting

variable {structs : List String}

def makeAllocator (settings : Settings) (function : Function) : Function :=
  { function with name := settings.canonical.allocator, isStatic := true }

def makeDeallocator (settings : Settings) (function : Function) : Function :=
  { function.dropParameter 0 with name := settings.canonical.deallocator, isStatic := true }

/-- What becomes of the forest when one function is tried as an allocator. -/
theorem forest_hoistAllocator {function : Function} {required : Forest × ClassId}
    (isFunction : draft.forest.functionAt id = function)
    (isRequired : draft.forest.requireClass none function.ret.type.name = required) :
    (hoistAllocator structs settings draft id).forest =
      if isAllocator structs settings function then
        if (required.1.classAt required.2).holdsObject then
          ((required.1.modifyClass required.2 (·.withAlloc id)).takeFree id).modifyFunction id
            (makeAllocator settings)
        else required.1
      else draft.forest := by
  subst isFunction isRequired
  rw [hoistAllocator]
  dsimp only
  by_cases allocates : isAllocator structs settings (draft.forest.functionAt id)
  · by_cases vacant : ((draft.forest.requireClass none
        (draft.forest.functionAt id).ret.type.name).1.classAt
          (draft.forest.requireClass none (draft.forest.functionAt id).ret.type.name).2).holdsObject
    · simp [allocates, vacant, takeFree, Forest.takeFree]
      rfl
    · simp [allocates, vacant, noteLeftFree]
  · simp [allocates]

/-- The same for a function whose first parameter is a known struct. -/
theorem forest_hoistStructFunction {function : Function} {className : String}
    {required : Forest × ClassId} (isFunction : draft.forest.functionAt id = function)
    (takes : structParameter? structs function = some className)
    (isRequired : draft.forest.requireClass none className = required) :
    (hoistStructFunction structs settings draft id).forest =
      if isDeallocatorName settings function.name then
        if (required.1.classAt required.2).holdsObject then
          ((required.1.modifyClass required.2 (·.withDealloc id)).takeFree id).modifyFunction id
            (makeDeallocator settings)
        else required.1
      else
        ((required.1.modifyClass required.2 (·.addMethod id)).takeFree id).modifyFunction id
          (·.dropParameter 0) := by
  subst isFunction isRequired
  rw [hoistStructFunction]
  dsimp only
  rw [takes]
  dsimp only
  by_cases deallocates : isDeallocatorName settings (draft.forest.functionAt id).name
  · by_cases vacant : ((draft.forest.requireClass none className).1.classAt
        (draft.forest.requireClass none className).2).holdsObject
    · simp [deallocates, vacant, takeFree, Forest.takeFree]
      rfl
    · simp [deallocates, vacant, noteLeftFree]
  · simp [deallocates, takeFree, Forest.takeFree]
    rfl

theorem hoistStructFunction_of_none
    (takes : structParameter? structs (draft.forest.functionAt id) = none) :
    hoistStructFunction structs settings draft id = draft := by
  rw [hoistStructFunction]
  dsimp only
  rw [takes]

theorem mem_free_takeFree {forest : Forest} {other : FunctionId} (member : other ∈ forest.free)
    (distinct : other ≠ id) : other ∈ (forest.takeFree id).free := by
  simpa [Forest.takeFree] using ⟨member, distinct⟩

/-- A free function becomes a method of the top class of the name. -/
theorem moves_adoptMethod {forest : Forest} (name : String) {required : Forest × ClassId}
    (isFree : id ∈ forest.free) (isRequired : forest.requireClass none name = required) :
    Moves settings {.require, .adopt, .edit .makeMethod} forest
      (((required.1.modifyClass required.2 (·.addMethod id)).takeFree id).modifyFunction id
        (·.dropParameter 0)) := by
  have requires : Move settings .require forest required.1 :=
    isRequired ▸ .require _ (by simp)
  have isThere : required.2 < required.1.hierarchy.size :=
    isRequired ▸ Hierarchy.snd_require_lt _ (by simp)
  have stillFree : id ∈ required.1.free := isRequired ▸ isFree
  have adopts : Move settings .adopt required.1 _ := .adopt isThere stillFree
  exact (Moves.single (by simp) requires).trans ((Moves.single (by simp) adopts).trans
    (.edit .makeMethod (by simp) (.makeMethod _)))

theorem moves_hoistAllocator {rest : List FunctionId}
    (remain : FreeRemain (id :: rest) draft.forest) :
    Moves settings {.require, .allocate, .edit .makeAllocator} draft.forest
        (hoistAllocator structs settings draft id).forest ∧
      FreeRemain rest (hoistAllocator structs settings draft id).forest := by
  generalize isFunction : draft.forest.functionAt id = function
  generalize isRequired : draft.forest.requireClass none function.ret.type.name = required
  have requires : Moves settings {.require, .allocate, .edit .makeAllocator} draft.forest
      required.1 := isRequired ▸ .single (by simp) (.require _ (by simp))
  have isThere : required.2 < required.1.hierarchy.size :=
    isRequired ▸ Hierarchy.snd_require_lt _ (by simp)
  have isRoot : required.1.hierarchy.parent? required.2 = none :=
    isRequired ▸ Hierarchy.parent?_require _ (by simp)
  have sameFree : required.1.free = draft.forest.free := isRequired ▸ rfl
  rw [forest_hoistAllocator isFunction isRequired]
  split
  · split
    · rename_i vacant
      have allocates : Move settings .allocate required.1 _ :=
        .allocate isThere isRoot vacant (sameFree ▸ remain.isFree)
      refine ⟨requires.trans ((Moves.single (by simp) allocates).trans
        (.edit .makeAllocator (by simp) (.makeAllocator _))), ?_⟩
      exact remain.tail fun other member distinct =>
        mem_free_takeFree (sameFree ▸ member) distinct
    · exact ⟨requires, remain.tail fun other member _ => sameFree ▸ member⟩
  · exact ⟨.refl _, remain.tail fun other member _ => member⟩

theorem moves_hoistStructFunction {rest : List FunctionId}
    (remain : FreeRemain (id :: rest) draft.forest) :
    Moves settings {.require, .deallocate, .adopt, .edit .makeDeallocator, .edit .makeMethod}
        draft.forest (hoistStructFunction structs settings draft id).forest ∧
      FreeRemain rest (hoistStructFunction structs settings draft id).forest := by
  cases takes : structParameter? structs (draft.forest.functionAt id) with
  | none =>
      rw [hoistStructFunction_of_none takes]
      exact ⟨.refl _, remain.tail fun other member _ => member⟩
  | some className =>
      generalize isRequired : draft.forest.requireClass none className = required
      have requires : Moves settings
          {.require, .deallocate, .adopt, .edit .makeDeallocator, .edit .makeMethod}
          draft.forest required.1 := isRequired ▸ .single (by simp) (.require _ (by simp))
      have isThere : required.2 < required.1.hierarchy.size :=
        isRequired ▸ Hierarchy.snd_require_lt _ (by simp)
      have isRoot : required.1.hierarchy.parent? required.2 = none :=
        isRequired ▸ Hierarchy.parent?_require _ (by simp)
      have sameFree : required.1.free = draft.forest.free := isRequired ▸ rfl
      rw [forest_hoistStructFunction rfl takes isRequired]
      split
      · split
        · rename_i vacant
          have deallocates : Move settings .deallocate required.1 _ :=
            .deallocate isThere isRoot vacant (sameFree ▸ remain.isFree)
          refine ⟨requires.trans ((Moves.single (by simp) deallocates).trans
            (.edit .makeDeallocator (by simp) (.makeDeallocator _))), ?_⟩
          exact remain.tail fun other member distinct =>
            mem_free_takeFree (sameFree ▸ member) distinct
        · exact ⟨requires, remain.tail fun other member _ => sameFree ▸ member⟩
      · refine ⟨(moves_adoptMethod className remain.isFree isRequired).mono
          (by simp [Set.insert_subset_iff]), ?_⟩
        exact remain.tail fun other member distinct =>
          mem_free_takeFree (sameFree ▸ member) distinct

variable (structs settings) in
theorem makes_hoistAllocators :
    Pass.Makes settings {.require, .allocate, .edit .makeAllocator}
      (Pass.ofTotal (hoistAllocators structs settings)) :=
  .ofTotal fun _ sound =>
    moves_foldl_remaining (fun _ _ _ _ => moves_hoistAllocator) sound (.start sound)

variable (structs settings) in
theorem makes_hoistStructFunctions :
    Pass.Makes settings {.require, .deallocate, .adopt, .edit .makeDeallocator, .edit .makeMethod}
      (Pass.ofTotal (hoistStructFunctions structs settings)) :=
  .ofTotal fun _ sound =>
    moves_foldl_remaining (fun _ _ _ _ => moves_hoistStructFunction) sound (.start sound)

def makeStatic (function : Function) : Function :=
  { function with isStatic := true }

/-- The forest in which the given functions are static. -/
def staticForest (forest : Forest) (ids : List FunctionId) : Forest :=
  ids.foldl (fun forest id => forest.modifyFunction id makeStatic) forest

theorem free_staticForest (forest : Forest) (ids : List FunctionId) :
    (staticForest forest ids).free = forest.free := by
  induction ids generalizing forest with
  | nil => rfl
  | cons id rest ih => exact (ih _).trans rfl

theorem moves_staticForest (forest : Forest) (ids : List FunctionId) :
    Moves settings {.edit .makeStatic} forest (staticForest forest ids) := by
  induction ids generalizing forest with
  | nil => exact .refl _
  | cons id rest ih =>
      have edits : Move settings (.edit .makeStatic) forest (forest.modifyFunction id makeStatic) :=
        .edit (.makeStatic _)
      exact (Moves.single (Set.mem_singleton _) edits).trans (ih _)

/-- The free list plays no part in making functions static. -/
theorem forest_foldl_makeStatic (ids : List FunctionId) (forest : Forest)
    (emptied : draft.forest = { forest with free := [] }) :
    (ids.foldl (fun draft id =>
        draft.modifyFunction id fun function => { function with isStatic := true }) draft).forest =
      { staticForest forest ids with free := [] } := by
  induction ids generalizing draft forest with
  | nil => exact emptied
  | cons id rest ih =>
      apply ih (forest.modifyFunction id makeStatic)
      rw [Draft.forest_modifyFunction, emptied]
      rfl

theorem forest_hoistLeftovers {rootClass : String} {static : Forest} {required : Forest × ClassId}
    (isStatic : staticForest draft.forest draft.forest.free = static)
    (isRequired : static.requireClass none rootClass = required) :
    (hoistLeftovers rootClass draft).forest =
      { required.1.modifyClass required.2
          fun c => { c with methods := c.methods ++ required.1.free } with
        free := [] } := by
  have sameFree : required.1.free = draft.forest.free := by
    rw [← isRequired, ← isStatic]
    exact free_staticForest _ _
  subst isStatic isRequired
  rw [hoistLeftovers]
  dsimp only
  rw [sameFree]
  simp only [Draft.forest_modifyClass, Draft.forest_requireClass, Draft.snd_requireClass,
    Draft.forest_note]
  rw [forest_foldl_makeStatic draft.forest.free draft.forest rfl]
  rfl

variable (settings) in
theorem makes_hoistLeftovers (rootClass : String) :
    Pass.Makes settings {.edit .makeStatic, .require, .adoptAll}
      (Pass.ofTotal (hoistLeftovers rootClass)) := by
  refine .ofTotal fun draft _ => ?_
  generalize isStatic : staticForest draft.forest draft.forest.free = static
  generalize isRequired : static.requireClass none rootClass = required
  have isThere : required.2 < required.1.hierarchy.size :=
    isRequired ▸ Hierarchy.snd_require_lt _ (by simp)
  rw [forest_hoistLeftovers isStatic isRequired]
  have edits : Moves settings {.edit .makeStatic, .require, .adoptAll} draft.forest static :=
    isStatic ▸ (moves_staticForest _ _).mono (by simp)
  have requires : Move settings .require static required.1 :=
    isRequired ▸ .require _ (by simp)
  exact edits.trans ((Moves.single (by simp) requires).trans
    (.single (by simp) (.adoptAll isThere)))

theorem edit_stripPrefix (settings : Settings) (className : String) (function : Function) :
    Edit settings .rename function (stripPrefix className function) := by
  rw [stripPrefix]
  apply Edit.rename
  cases strips : Text.dropPrefix? function.name (classPrefix className) with
  | none => exact .keep
  | some bare => exact .strip strips

theorem moves_stripClassPrefixes {classes : List ClassId} :
    Moves settings {.edit .rename} draft.forest (stripClassPrefixes classes draft).forest :=
  moves_foldl_of_forall fun _ _ => moves_foldl_of_forall fun _ _ =>
    moves_modifyFunction (Set.mem_singleton _) (edit_stripPrefix settings _ _)

end Hoisting

end Bindery
