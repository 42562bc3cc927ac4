import Bindery.Proofs.Arrivals

/-!
# The functions of a header before they are placed

Once the error parameters of a header are converted, its functions are the free ones, in the order
of their declarations, and each of them lost at most its first error parameter.
-/

namespace Bindery

variable {settings : Settings} {draft final : Draft} {id : FunctionId}

/-- The forest with other functions in the places of its own. -/
def Forest.withFunctions (forest : Forest) (functions : List Function) : Forest :=
  { forest with functions }

namespace Forest

variable {forest : Forest} {ids : List FunctionId} {change : Function → Function}

/-- The forest in which the functions of the given ids are changed. -/
def mapFunctions (forest : Forest) (ids : List FunctionId) (change : Function → Function) :
    Forest :=
  forest.withFunctions <| forest.functions.mapIdx fun id function =>
    if id ∈ ids then change function else function

theorem getElem?_mapFunctions (id : FunctionId) :
    (forest.mapFunctions ids change).functions[id]? =
      (forest.functions[id]?).map fun function => if id ∈ ids then change function else function :=
  List.getElem?_mapIdx

theorem mapFunctions_nil : forest.mapFunctions [] change = forest := by
  have same : (forest.mapFunctions [] change).functions = forest.functions := by
    apply List.ext_getElem?
    intro id
    rw [getElem?_mapFunctions]
    cases forest.functions[id]? <;> simp
  exact congrArg forest.withFunctions same

theorem functionAt_mapFunctions_of_eq
    (same : id ∈ ids → change (forest.functionAt id) = forest.functionAt id) :
    (forest.mapFunctions ids change).functionAt id = forest.functionAt id := by
  rw [functionAt, getElem?_mapFunctions]
  rw [functionAt] at same ⊢
  cases found : forest.functions[id]? with
  | none => rfl
  | some function =>
      rw [found, Option.getD_some] at same
      by_cases member : id ∈ ids
      · simp [member, same]
      · simp [member]

theorem functionAt_mapFunctions_of_not_mem (other : id ∉ ids) :
    (forest.mapFunctions ids change).functionAt id = forest.functionAt id :=
  functionAt_mapFunctions_of_eq fun member => absurd member other

theorem mapFunctions_concat (fresh : id ∉ ids) :
    forest.mapFunctions (ids ++ [id]) change =
      (forest.mapFunctions ids change).modifyFunction id change := by
  have functions : (forest.mapFunctions (ids ++ [id]) change).functions =
      ((forest.mapFunctions ids change).modifyFunction id change).functions := by
    apply List.ext_getElem?
    intro other
    rw [getElem?_mapFunctions, modifyFunction, List.getElem?_modify, getElem?_mapFunctions]
    cases forest.functions[other]? with
    | none => rfl
    | some function =>
        by_cases same : other = id
        · subst same
          simp [fresh]
        · simp [same, Ne.symm same]
  exact congrArg forest.withFunctions functions

end Forest

theorem Move.free_eq {kind : MoveKind} {before after : Forest}
    (move : Move settings kind before after)
    (keeps : kind ∉ ({.intake, .allocate, .deallocate, .adopt, .adoptAll} : Set MoveKind)) :
    after.free = before.free := by
  cases move with
  | intake | allocate | deallocate | adopt | adoptAll => simp at keeps
  | descend isMethod valid isInner leading marked =>
      rw [Forest.descend_eq isMethod _ (Nat.ne_of_lt (Hierarchy.parent_lt isInner))]
      rfl
  | _ => rfl

theorem Moves.free_eq {kinds : Set MoveKind} {before after : Forest}
    (moves : Moves settings kinds before after)
    (keeps : ∀ kind ∈ kinds,
      kind ∉ ({.intake, .allocate, .deallocate, .adopt, .adoptAll} : Set MoveKind)) :
    after.free = before.free := by
  induction moves with
  | refl => rfl
  | tail _ last ih =>
      obtain ⟨kind, allowed, move⟩ := last
      exact (move.free_eq (keeps kind allowed)).trans ih

namespace Throwing

/-- What is left of a function without its error parameter. -/
def withoutError (settings : Settings) (function : Function) : Function :=
  match errorPosition? settings function with
  | some position => function.dropParameter position
  | none => function

/-- Whether the second function is the first one with its error parameter, if there is one, turned
into an exception. -/
def Converts (settings : Settings) (function converted : Function) : Prop :=
  match errorPosition? settings function with
  | some position =>
    ∃ exception, converted = { function.dropParameter position with throws := some exception }
  | none => converted = function

/-- Only the parameters of a function are changed. -/
theorem withoutError_eq (settings : Settings) (function : Function) :
    withoutError settings function =
      { function with params := (withoutError settings function).params } := by
  rw [withoutError]
  split <;> rfl

theorem Converts.cases {function converted : Function}
    (converts : Converts settings function converted) :
    errorPosition? settings function = none ∧ converted = function ∨
      ∃ position exception, errorPosition? settings function = some position ∧
        converted = { function.dropParameter position with throws := some exception } := by
  rw [Converts] at converts
  cases found : errorPosition? settings function with
  | none =>
      rw [found] at converts
      exact .inl ⟨rfl, converts⟩
  | some position =>
      rw [found] at converts
      obtain ⟨exception, isConverted⟩ := converts
      exact .inr ⟨position, exception, rfl, isConverted⟩

/-- All that converting an error parameter changes is the exception. -/
theorem Converts.eq_withoutError {function converted : Function}
    (converts : Converts settings function converted) :
    converted = { withoutError settings function with throws := converted.throws } := by
  obtain ⟨absent, rfl⟩ | ⟨position, exception, found, rfl⟩ := converts.cases
  · rw [withoutError, absent]
  · rw [withoutError, found]

theorem Converts.isSome_throws {function converted : Function}
    (converts : Converts settings function converted) (quiet : function.throws = none) :
    converted.throws.isSome = (errorPosition? settings function).isSome := by
  obtain ⟨absent, rfl⟩ | ⟨position, exception, found, rfl⟩ := converts.cases
  · rw [absent, quiet]
    rfl
  · rw [found]
    rfl

theorem convertFunction_ok (finished : convertFunction settings draft id = .ok final) :
    ∃ change : Function → Function,
      final.forest = draft.forest.modifyFunction id change ∧
        Converts settings (draft.forest.functionAt id)
          (change (draft.forest.functionAt id)) := by
  rw [convertFunction] at finished
  unfold Converts
  dsimp only at finished
  cases found : errorPosition? settings (draft.forest.functionAt id) with
  | none =>
      rw [found] at finished
      obtain rfl := Except.ok.inj finished
      exact ⟨fun function => function, (Forest.modifyFunction_of_eq rfl).symm, rfl⟩
  | some position =>
      rw [found] at finished
      dsimp only at finished
      split at finished
      · cases finished
      · rename_i exception _
        obtain rfl := Except.ok.inj finished
        exact ⟨fun function =>
          { function.dropParameter position with throws := some exception.name }, rfl,
          exception.name, rfl⟩

/-- A loop over different functions converts each of them once and changes nothing else. -/
theorem foldlM_convertFunction {ids : List FunctionId} (different : ids.Nodup)
    (present : ∀ id ∈ ids, id < draft.forest.functionCount)
    (finished : ids.foldlM (convertFunction settings) draft = .ok final) :
    final.forest = draft.forest.withFunctions final.forest.functions ∧
      final.forest.functionCount = draft.forest.functionCount ∧
      ∀ id, if id ∈ ids
        then Converts settings (draft.forest.functionAt id) (final.forest.functionAt id)
        else final.forest.functionAt id = draft.forest.functionAt id := by
  induction ids generalizing draft with
  | nil =>
      obtain rfl := Except.ok.inj finished
      exact ⟨rfl, rfl, fun id => rfl⟩
  | cons first rest ih =>
      rw [List.foldlM_cons] at finished
      obtain ⟨next, result, later⟩ := exists_ok_of_bind finished
      obtain ⟨fresh, different⟩ := List.nodup_cons.1 different
      obtain ⟨change, isNext, converts⟩ := convertFunction_ok result
      have counted : next.forest.functionCount = draft.forest.functionCount := by
        rw [isNext, Forest.functionCount_modifyFunction]
      have isFirst := present first List.mem_cons_self
      obtain ⟨frame, sameCount, each⟩ := ih different
        (fun id member => counted ▸ present id (List.mem_cons_of_mem _ member)) later
      refine ⟨?_, sameCount.trans counted, fun id => ?_⟩
      · rw [frame, isNext]
        rfl
      · have found := each id
        by_cases same : id = first
        · subst same
          rw [if_neg fresh] at found
          rw [if_pos List.mem_cons_self, found, isNext,
            Forest.functionAt_modifyFunction_self isFirst]
          exact converts
        · rw [isNext, Forest.functionAt_modifyFunction_of_ne same] at found
          simpa [same] using found

end Throwing

namespace Conversion.Course

variable {rootClass : String} {header : HeaderDeclarations} {start : Draft}

variable (course : Course settings rootClass header start final)

theorem functions_taken : course.taken.forest.functions =
    start.forest.functions ++ Intake.functions settings header.functions :=
  congrArg Forest.functions forest_takeIn

theorem hierarchy_taken : course.taken.forest.hierarchy = start.forest.hierarchy := by
  have taken := congrArg Forest.hierarchy (@forest_takeIn settings rootClass header start)
  exact taken

theorem classAt_taken (c : ClassId) : course.taken.forest.classAt c = start.forest.classAt c := by
  have taken := congrArg (Forest.classAt · c) (@forest_takeIn settings rootClass header start)
  exact taken

theorem free_taken (noneFree : start.forest.free = []) :
    course.taken.forest.free = List.range' start.forest.functionCount
      (Intake.functions settings header.functions).length := by
  have free := congrArg Forest.free (@forest_takeIn settings rootClass header start)
  rw [Forest.takeAll, noneFree] at free
  exact free

/-- The functions of the header are free and stand after those of the headers before it. -/
theorem converted_spec (noneFree : start.forest.free = []) :
    course.converted.forest.free = List.range' start.forest.functionCount
        (Intake.functions settings header.functions).length ∧
      course.converted.forest.hierarchy = start.forest.hierarchy ∧
      (∀ c, course.converted.forest.classAt c = start.forest.classAt c) ∧
      ∀ position function,
        (Intake.functions settings header.functions)[position]? = some function →
        Throwing.Converts settings function
          (course.converted.forest.functionAt (start.forest.functionCount + position)) := by
  have counted : course.taken.forest.functionCount = start.forest.functionCount +
      (Intake.functions settings header.functions).length := by
    rw [Forest.functionCount, course.functions_taken, List.length_append]
    rfl
  have present : ∀ id ∈ course.taken.forest.free, id < course.taken.forest.functionCount := by
    intro id member
    rw [course.free_taken noneFree] at member
    rw [counted]
    exact (List.mem_range'_1.1 member).2
  have different : course.taken.forest.free.Nodup := by
    rw [course.free_taken noneFree]
    exact List.nodup_range'
  obtain ⟨frame, -, each⟩ :=
    Throwing.foldlM_convertFunction different present course.converts
  refine ⟨?_, ?_, fun c => ?_, fun position function isFunction => ?_⟩
  · exact (congrArg Forest.free frame).trans (course.free_taken noneFree)
  · rw [frame]
    exact course.hierarchy_taken
  · rw [frame]
    exact course.classAt_taken c
  -- The function of a position is the one that was appended there, and it has had its turn.
  · have bound := (List.getElem?_eq_some_iff.1 isFunction).1
    have isFree : start.forest.functionCount + position ∈ course.taken.forest.free := by
      rw [course.free_taken noneFree]
      exact List.mem_range'_1.2 ⟨Nat.le_add_right _ _, Nat.add_lt_add_left bound _⟩
    have converts := each (start.forest.functionCount + position)
    rw [if_pos isFree] at converts
    have taken : course.taken.forest.functionAt (start.forest.functionCount + position) =
        function := by
      rw [Forest.functionCount, Forest.functionAt_of_append course.functions_taken, isFunction]
      rfl
    exact taken ▸ converts

include course in
/-- Nothing is free once a header is done. -/
theorem free_final (sound : start.forest.Sound) : final.forest.free = [] := by
  have hoisted : course.hoisted.forest.free = [] := by
    rw [hoisted, hoist, Hoisting.forest_hoistLeftovers rfl rfl]
  have placed := (course.moves_placed sound).free_eq (by simp [handleKinds])
  have listened := (course.moves_listened sound).free_eq (by simp)
  have handled := (course.moves_handled sound).free_eq (by simp [referKinds])
  have promoted := (course.moves_promoted sound).free_eq (by simp [promoteKinds])
  have sized := (course.moves_sized sound).free_eq (by simp [sizeKinds])
  have initialized := (course.moves_initialized sound).free_eq (by simp)
  have ended := (course.moves_final sound).free_eq (by simp [memberKinds])
  rw [ended, initialized, sized, promoted, handled, listened, placed, hoisted]

end Conversion.Course

theorem Conversion.free_convert {declarations : DeclarationSet} {result : Result}
    (converted : convert settings declarations = .ok result) : result.draft.forest.free = [] := by
  obtain ⟨draft, same, -, -, free⟩ := convert_induction (fun _ draft => draft.forest.free = []) rfl
    (fun _ sound _ finished => by
      obtain ⟨course, -⟩ := exists_course finished
      exact course.free_final sound)
    converted
  rw [same]
  exact free

end Bindery
