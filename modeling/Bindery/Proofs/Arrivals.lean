import Bindery.Proofs.Runs

/-!
# The functions of a forest and where they came from

Functions are never removed and only ever added at the end, by the header that declares them or
for a typedef that becomes a listener.  So every function of a forest has a declaration, and
whatever the steps of its way preserve relates it to what was taken in for that declaration.
-/

namespace Bindery

variable {settings : Settings} {kind : MoveKind} {kinds : Set MoveKind} {before after : Forest}

namespace Sizing

variable {position : Nat} {accessor : FunctionId} {function : Function}

@[simp]
theorem cname_promote : (promote position accessor function).cname = function.cname := by
  unfold promote
  split <;> rfl

@[simp]
theorem throws_promote : (promote position accessor function).throws = function.throws := by
  unfold promote
  split <;> rfl

@[simp]
theorem isStatic_promote : (promote position accessor function).isStatic = function.isStatic := by
  unfold promote
  split <;> rfl

end Sizing

namespace Accessors

variable {function : Function}

@[simp]
theorem cname_dropSuccess : (dropSuccess function).cname = function.cname := by
  unfold dropSuccess
  split <;> rfl

@[simp]
theorem throws_dropSuccess : (dropSuccess function).throws = function.throws := by
  unfold dropSuccess
  split <;> rfl

@[simp]
theorem isStatic_dropSuccess : (dropSuccess function).isStatic = function.isStatic := by
  unfold dropSuccess
  split <;> rfl

@[simp]
theorem params_dropSuccess : (dropSuccess function).params = function.params := by
  unfold dropSuccess
  split <;> rfl

end Accessors

/-- What a move of a kind does to a function that it changes. -/
inductive Step (settings : Settings) : MoveKind → Function → Function → Prop
  | edit {kind : EditKind} {function changed : Function}
      (edited : Edit settings kind function changed) :
      Step settings (.edit kind) function changed
  | descend {function : Function} {first : Parameter} {rest : List Argument}
      (leading : function.params = .plain first :: rest)
      (marked : Text.endsWith first.name settings.markers.numberHandle = true) :
      Step settings .descend function (function.dropParameter 0)

theorem Step.cname_eq {function changed : Function}
    (step : Step settings kind function changed) : changed.cname = function.cname := by
  cases step with
  | descend leading marked => rfl
  | edit edited =>
      cases edited with
      | promote accessor found => exact Sizing.cname_promote
      | dropSuccess => exact Accessors.cname_dropSuccess
      | _ => rfl

/-- The kinds of moves that are made once the functions of a header have left the free list. -/
def settledKinds : Set MoveKind :=
  {kind | kind ∉ ({.edit .convertError, .edit .makeAllocator, .edit .makeDeallocator,
    .edit .makeMethod, .edit .makeStatic} : Set MoveKind)}

theorem Step.throws_eq {function changed : Function} (step : Step settings kind function changed)
    (settled : kind ∈ settledKinds) :
    changed.throws = function.throws ∧ changed.isStatic = function.isStatic := by
  cases step with
  | descend leading marked => exact ⟨rfl, rfl⟩
  | edit edited =>
      cases edited with
      | convertError | makeAllocator | makeDeallocator | makeMethod | makeStatic =>
          simp [settledKinds] at settled
      | promote accessor found => exact ⟨Sizing.throws_promote, Sizing.isStatic_promote⟩
      | dropSuccess => exact ⟨Accessors.throws_dropSuccess, Accessors.isStatic_dropSuccess⟩
      | _ => exact ⟨rfl, rfl⟩

theorem Forest.functionAt_descend_self {forest : Forest} {c inner : ClassId} {id : FunctionId}
    {type : ValueType} (present : id < forest.functionCount) :
    (forest.descend c inner id type).functionAt id = (forest.functionAt id).dropParameter 0 := by
  rw [descend, moveMethod]
  split
  · exact functionAt_modifyFunction_self present
  · exact functionAt_modifyFunction_self present

namespace Move

/-- A move leaves a function as it is or changes it by one step. -/
theorem functionAt_step (move : Move settings kind before after) {id : FunctionId}
    (present : id < before.functionCount) :
    after.functionAt id = before.functionAt id ∨
      Step settings kind (before.functionAt id) (after.functionAt id) := by
  cases move with
  | intake function => exact .inl (Forest.functionAt_addFunction_of_lt present)
  | listen function name => exact .inl (Forest.functionAt_addFunction_of_lt present)
  | @edit _ _ edited change isEdit =>
      by_cases same : id = edited
      · subst same
        right
        rw [Forest.functionAt_modifyFunction_self present]
        exact .edit isEdit
      · exact .inl (Forest.functionAt_modifyFunction_of_ne same)
  | @descend _ c inner moved first rest isMethod valid isInner leading marked =>
      by_cases same : id = moved
      · subst same
        right
        rw [Forest.functionAt_descend_self present]
        exact .descend leading marked
      · exact .inl (Forest.functionAt_descend_of_ne same)
  | _ => exact .inl rfl

theorem functionCount_le (move : Move settings kind before after) :
    before.functionCount ≤ after.functionCount :=
  move.functionCount_eq ▸ Nat.le_add_right _ _

end Move

namespace Moves

theorem functionCount_le (moves : Moves settings kinds before after) :
    before.functionCount ≤ after.functionCount := by
  induction moves with
  | refl => exact Nat.le_refl _
  | tail _ last ih =>
      obtain ⟨kind, -, move⟩ := last
      exact Nat.le_trans ih move.functionCount_le

/-- Moves that add no function leave their number as it is. -/
theorem functionCount_eq (moves : Moves settings kinds before after)
    (adds : ∀ kind ∈ kinds, kind.adds = false) : after.functionCount = before.functionCount := by
  induction moves with
  | refl => rfl
  | tail _ last ih =>
      obtain ⟨kind, allowed, move⟩ := last
      rw [move.functionCount_eq, adds kind allowed, ih]
      rfl

/-- What every allowed step preserves of a function holds of it after any number of moves. -/
theorem functionAt_induction (Came : Function → Prop) (moves : Moves settings kinds before after)
    {id : FunctionId} (present : id < before.functionCount) (start : Came (before.functionAt id))
    (step : ∀ {kind function changed}, kind ∈ kinds → Step settings kind function changed →
      Came function → Came changed) :
    Came (after.functionAt id) := by
  induction moves with
  | refl => exact start
  | tail earlier last ih =>
      obtain ⟨kind, allowed, move⟩ := last
      rcases move.functionAt_step (Nat.lt_of_lt_of_le present (functionCount_le earlier))
        with same | changed
      · exact same ▸ ih
      · exact step allowed changed ih

end Moves

/-! ## Taking functions in -/

namespace Forest

/-- The forest with more functions, all of them free. -/
def takeAll (forest : Forest) (functions : List Function) : Forest :=
  { forest with
    functions := forest.functions ++ functions
    free := forest.free ++ List.range' forest.functionCount functions.length }

theorem forest_addFree (draft : Draft) (functions : List Function) :
    (draft.addFree functions).forest = draft.forest.takeAll functions := by
  induction functions generalizing draft with
  | nil => simp [Draft.addFree, takeAll]
  | cons function rest ih =>
      have first := ih (draft.onForest fun forest =>
        { forest.addFunction function with free := forest.free ++ [forest.functionCount] })
      apply first.trans
      simp [takeAll, addFunction, functionCount, List.range'_succ]

theorem functionAt_of_append {forest : Forest} {first second : List Function}
    (functions : forest.functions = first ++ second) {position : Nat} :
    forest.functionAt (first.length + position) = second[position]?.getD default := by
  rw [functionAt, functions, List.getElem?_append_right (Nat.le_add_right _ _),
    Nat.add_sub_cancel_left]

end Forest

namespace Conversion

/-- What a header takes in, and in which order: its functions and then its listeners. -/
def arrivals (settings : Settings) (header : HeaderDeclarations) : List Function :=
  Intake.functions settings header.functions ++
    ((header.typedefs.filter (Listeners.isCallback settings)).filterMap (·.asFunction?)).map
      fun signature => (signature.intake settings).rename settings.canonical.callback

theorem forest_takeIn {rootClass : String} {header : HeaderDeclarations} {draft : Draft} :
    (takeIn settings rootClass header draft).forest =
      Forest.takeAll
        { draft.forest with
          exceptions := draft.forest.exceptions ++
            Throwing.deriveExceptions settings (Intake.enums settings header.enums)
          enums := draft.forest.enums ++ Intake.enums settings header.enums }
        (Intake.functions settings header.functions) := by
  rw [takeIn, takeFunctions, Forest.forest_addFree, forest_foldl_note, takeEnums,
    Draft.forest_onForest, forest_foldl_note]
  rfl

theorem functions_foldl_listen {signatures : List FunctionDeclaration} :
    (signatures.foldl (Listeners.listen settings) forest).functions =
      forest.functions ++ signatures.map
        fun signature => (signature.intake settings).rename settings.canonical.callback := by
  induction signatures generalizing forest with
  | nil => simp
  | cons signature rest ih =>
      have added : (Listeners.listen settings forest signature).functions = forest.functions ++
          [(signature.intake settings).rename settings.canonical.callback] :=
        rfl
      rw [List.foldl_cons, ih, added]
      simp

theorem functions_extract {typedefs : List TypedefDeclaration} {draft : Draft} :
    (Listeners.extract settings typedefs draft).1.forest.functions =
      draft.forest.functions ++
        ((typedefs.filter (Listeners.isCallback settings)).filterMap (·.asFunction?)).map
          fun signature => (signature.intake settings).rename settings.canonical.callback := by
  rw [Listeners.forest_extract, functions_foldl_listen]

/-- Every function of the forest came from the original at its place. -/
def Arrived (Came : Function → Function → Prop) (originals : List Function) (forest : Forest) :
    Prop :=
  forest.functionCount = originals.length ∧
    ∀ id original, originals[id]? = some original → Came original (forest.functionAt id)

section Arrived

variable {Came : Function → Function → Prop} {originals : List Function}

theorem Arrived.moves (arrived : Arrived Came originals before)
    (moves : Moves settings kinds before after) (adds : ∀ kind ∈ kinds, kind.adds = false)
    (step : ∀ {kind original function changed}, Step settings kind function changed →
      Came original function → Came original changed) :
    Arrived Came originals after := by
  refine ⟨(moves.functionCount_eq adds).trans arrived.1, fun id original isOriginal => ?_⟩
  have present : id < before.functionCount :=
    arrived.1 ▸ (List.getElem?_eq_some_iff.1 isOriginal).1
  exact moves.functionAt_induction (Came original) present (arrived.2 id original isOriginal)
    fun _ => step

theorem Arrived.append (arrived : Arrived Came originals before)
    (refl : ∀ function, Came function function) {functions : List Function}
    (appended : after.functions = before.functions ++ functions) :
    Arrived Came (originals ++ functions) after := by
  have sameLength : before.functions.length = originals.length := arrived.1
  constructor
  · simp [Forest.functionCount, appended, sameLength]
  · intro id original isOriginal
    rcases Nat.lt_or_ge id originals.length with old | new
    · rw [List.getElem?_append_left old] at isOriginal
      have unchanged : after.functionAt id = before.functionAt id := by
        rw [Forest.functionAt, appended, List.getElem?_append_left (sameLength ▸ old)]
        rfl
      exact unchanged ▸ arrived.2 id original isOriginal
    · rw [List.getElem?_append_right new] at isOriginal
      have added : after.functionAt id = original := by
        rw [Forest.functionAt, appended, List.getElem?_append_right (sameLength ▸ new), sameLength,
          isOriginal]
        rfl
      exact added ▸ refl original

variable (refl : ∀ function, Came function function)
  (step : ∀ {kind original function changed}, Step settings kind function changed →
    Came original function → Came original changed)

include refl step

theorem Course.arrived {rootClass : String} {header : HeaderDeclarations} {start final : Draft}
    (course : Course settings rootClass header start final) (sound : start.forest.Sound)
    (arrived : Arrived Came originals start.forest) :
    Arrived Came (originals ++ arrivals settings header) final.forest := by
  have taken : Arrived Came (originals ++ Intake.functions settings header.functions)
      course.taken.forest :=
    arrived.append refl (congrArg Forest.functions forest_takeIn)
  have converted := taken.moves (course.moves_converted sound) (by simp [MoveKind.adds]) step
  have hoisted := converted.moves (course.moves_hoisted sound)
    (by simp [hoistKinds, MoveKind.adds]) step
  have placed := hoisted.moves (course.moves_placed sound)
    (by simp [handleKinds, MoveKind.adds]) step
  have listened : Arrived Came _ course.listened.forest := placed.append refl functions_extract
  have handled := listened.moves (course.moves_handled sound)
    (by simp [referKinds, MoveKind.adds]) step
  have promoted := handled.moves (course.moves_promoted sound)
    (by simp [promoteKinds, MoveKind.adds]) step
  have sized := promoted.moves (course.moves_sized sound)
    (by simp [sizeKinds, MoveKind.adds]) step
  have initialized := sized.moves (course.moves_initialized sound) (by simp [MoveKind.adds]) step
  have ended := initialized.moves (course.moves_final sound)
    (by simp [memberKinds, MoveKind.adds]) step
  simpa [arrivals] using ended

/-- What every step keeps relates each function of a finished forest to what was taken in. -/
theorem arrived_convert {declarations : DeclarationSet} {result : Result}
    (converted : convert settings declarations = .ok result) :
    Arrived Came (declarations.headers.flatMap (arrivals settings)) result.draft.forest := by
  have start : Arrived Came ([].flatMap (arrivals settings)) ({} : Draft).forest :=
    ⟨rfl, by simp⟩
  obtain ⟨draft, same, -, -, arrived⟩ := convert_induction
    (fun done draft => Arrived Came (done.flatMap (arrivals settings)) draft.forest)
    start
    (fun {done header draft next rootClass} _ sound arrived finished => by
      obtain ⟨course, -⟩ := exists_course finished
      simpa using course.arrived refl step sound arrived)
    converted
  exact same ▸ arrived

end Arrived

/-- There are as many functions as were taken in. -/
theorem functionCount_convert {declarations : DeclarationSet} {result : Result}
    (converted : convert settings declarations = .ok result) :
    result.draft.forest.functionCount =
      (declarations.headers.flatMap (arrivals settings)).length := by
  have arrived : Arrived (fun _ _ => True)
      (declarations.headers.flatMap (arrivals settings)) result.draft.forest :=
    arrived_convert (fun _ => trivial) (fun _ _ => trivial) converted
  exact arrived.1

theorem sound_convert {declarations : DeclarationSet} {result : Result}
    (converted : convert settings declarations = .ok result) : result.draft.forest.Sound := by
  obtain ⟨draft, same, -, sound, -⟩ := convert_induction (fun _ _ => True) trivial
    (fun _ _ _ _ => trivial) converted
  exact same ▸ sound

end Conversion

end Bindery
