import Bindery.Proofs.Guarded.Conversion

/-!
# What classes wrap

A class is asked for at the top or below the class of a method that moves to it, and never at both
places.  Only classes at the top are given native handles, and a class below another one is given a
number when its first method arrives, so where a class stands says what it wraps.  The hoisting
passes ask for classes at the top only, and so they never come to a class that wraps a number.
-/

namespace Bindery

/-! ## Kinds of handles -/

inductive HandleKind where
  | native
  | number
  deriving DecidableEq

def Handle.kind : Handle → HandleKind
  | native _ _ => .native
  | number _ => .number

def Class.handleKind? (c : Class) : Option HandleKind :=
  c.handle.map Handle.kind

theorem Class.holdsObject_iff {c : Class} :
    c.holdsObject = true ↔ c.handleKind? = none ∨ c.handleKind? = some .native := by
  obtain ⟨isCallback, handle, defaultInit, properties, methods⟩ := c
  match handle with
  | none => simp [holdsObject, handleKind?]
  | some (.native _ _) => simp [holdsObject, handleKind?, Handle.kind]
  | some (.number _) => simp [holdsObject, handleKind?, Handle.kind]

/-- A class that a method arrives at goes on to wrap what it wraps, and else wraps a number. -/
theorem Class.handleKind?_wrapNumber (c : Class) (type : ValueType) :
    (NumberHandles.wrapNumber type c).handleKind? = some (c.handleKind?.getD .number) := by
  obtain ⟨isCallback, handle, defaultInit, properties, methods⟩ := c
  cases handle <;> rfl

variable {settings : Settings} {kind : MoveKind} {kinds : Set MoveKind} {draft : Draft}
  {before middle after forest : Forest}

namespace Forest

/-- Whether every class wraps what belongs to its place: a C object or nothing at the top, and a
number below another class. -/
structure HandlesFit (forest : Forest) : Prop where
  top : ∀ c, forest.hierarchy.parent? c = none →
    (forest.classAt c).handleKind? = none ∨ (forest.classAt c).handleKind? = some .native
  below : ∀ c outer, forest.hierarchy.parent? c = some outer →
    (forest.classAt c).handleKind? = some .number

/-- Whether every class that wraps something goes on to wrap something of the same kind. -/
def KeepsKinds (before after : Forest) : Prop :=
  ∀ c, ∀ kind ∈ (before.classAt c).handleKind?, (after.classAt c).handleKind? = some kind

/-- Whether every class below another one was there before. -/
def NestsWithin (before after : Forest) : Prop :=
  ∀ c outer, after.hierarchy.parent? c = some outer → before.hierarchy.parent? c = some outer

theorem HandlesFit.rootsHold (fits : forest.HandlesFit) : forest.RootsHold :=
  fun c isRoot => Class.holdsObject_iff.2 (fits.top c isRoot)

theorem handlesFit_empty : empty.HandlesFit where
  top := fun _ _ => .inl rfl
  below := by
    intro c outer isParent
    exact absurd (Hierarchy.lt_size_of_parent? isParent) (Nat.not_lt_zero c)

namespace KeepsKinds

theorem refl (forest : Forest) : KeepsKinds forest forest :=
  fun _ _ wraps => wraps

theorem trans (first : KeepsKinds before middle) (second : KeepsKinds middle after) :
    KeepsKinds before after :=
  fun c kind wraps => second c kind (first c kind wraps)

end KeepsKinds

namespace NestsWithin

theorem refl (forest : Forest) : NestsWithin forest forest :=
  fun _ _ isParent => isParent

theorem trans (first : NestsWithin before middle) (second : NestsWithin middle after) :
    NestsWithin before after :=
  fun c outer isParent => first c outer (second c outer isParent)

end NestsWithin

end Forest

/-! ## Classes that are asked for -/

/-- The class that was asked for is the only one that may be new. -/
theorem Hierarchy.parent?_of_require {hierarchy : Hierarchy} {parent : Option ClassId}
    {name : String} {c outer : ClassId} (different : c ≠ (hierarchy.require parent name).2)
    (isParent : (hierarchy.require parent name).1.parent? c = some outer) :
    hierarchy.parent? c = some outer := by
  revert different isParent
  rw [require]
  split
  · exact fun _ isParent => isParent
  · split
    · intro different isParent
      have bound := lt_size_of_parent? isParent
      rw [size_add] at bound
      have old : c < hierarchy.places.length :=
        Nat.lt_of_le_of_ne (Nat.le_of_lt_succ bound) different
      rw [parent?, add, List.getElem?_append_left old] at isParent
      exact isParent
    · exact fun _ isParent => isParent

namespace Forest

theorem nestsWithin_requireClass (forest : Forest) (name : String) :
    NestsWithin forest (forest.requireClass none name).1 := by
  intro c outer isParent
  apply Hierarchy.parent?_of_require _ isParent
  rintro rfl
  have isRoot := @Hierarchy.parent?_require forest.hierarchy none name (by simp)
  cases isParent.symm.trans isRoot

end Forest

/-! ## Moves -/

theorem ContentStep.handleKind?_eq {place : ClassId} {content changed : Class} {wraps : HandleKind}
    (step : ContentStep forest place kind content changed)
    (wrapped : content.handleKind? = some wraps) : changed.handleKind? = some wraps := by
  cases step with
  | allocate isRoot vacant isFree =>
      obtain ⟨isCallback, handle, defaultInit, properties, methods⟩ := content
      match handle with
      | some (.native _ _) => exact wrapped
      | some (.number _) => cases vacant
  | deallocate isRoot vacant isFree =>
      obtain ⟨isCallback, handle, defaultInit, properties, methods⟩ := content
      match handle with
      | some (.native _ _) => exact wrapped
      | some (.number _) => cases vacant
  | @arrive _ id outer type isInner cameFrom =>
      change (NumberHandles.wrapNumber type content).handleKind? = some wraps
      rw [Class.handleKind?_wrapNumber, wrapped, Option.getD_some]
  | _ => exact wrapped

theorem Move.keepsKinds (move : Move settings kind before after) :
    Forest.KeepsKinds before after := by
  intro c wraps wrapped
  rcases move.classAt_step c with same | step
  · rw [same]
    exact wrapped
  · exact step.handleKind?_eq wrapped

theorem Moves.keepsKinds (moves : Moves settings kinds before after) :
    Forest.KeepsKinds before after := by
  induction moves with
  | refl => exact .refl _
  | tail _ last ih =>
      obtain ⟨kind, -, move⟩ := last
      exact ih.trans move.keepsKinds

theorem Move.nestsWithin (move : Move settings kind before after) (asks : kind ≠ .require) :
    Forest.NestsWithin before after := by
  cases move with
  | require => exact absurd rfl asks
  | listen function name => exact before.nestsWithin_requireClass name
  | descend isMethod valid isInner leading marked =>
      rw [Forest.descend_eq isMethod _ (Nat.ne_of_lt (Hierarchy.parent_lt isInner))]
      exact .refl _
  | _ => exact .refl _

theorem Moves.nestsWithin (moves : Moves settings kinds before after) (asks : .require ∉ kinds) :
    Forest.NestsWithin before after := by
  induction moves with
  | refl => exact .refl _
  | tail _ last ih =>
      obtain ⟨kind, allowed, move⟩ := last
      exact ih.trans (move.nestsWithin fun same => asks (same ▸ allowed))

namespace Forest.HandlesFit

/-- Moves leave all classes with what belongs to them, if the ones below others that are new to
their places wrap numbers. -/
theorem moves (fits : before.HandlesFit) (sound : before.Sound)
    (moves : Moves settings kinds before after)
    (arrived : ∀ c outer, after.hierarchy.parent? c = some outer →
      before.hierarchy.parent? c = some outer ∨
        (after.classAt c).handleKind? = some .number) :
    after.HandlesFit where
  top := by
    have roots := (moves.preserves RootsHold sound fits.rootsHold
      fun _ move _ roots => move.rootsHold roots).2
    exact fun c isRoot => Class.holdsObject_iff.1 (roots c isRoot)
  below := by
    intro c outer isParent
    rcases arrived c outer isParent with old | wraps
    · exact moves.keepsKinds c .number (fits.below c outer old)
    · exact wraps

end Forest.HandlesFit

/-! ## Hoisting -/

namespace Hoisting

variable {structs : List String} {id : FunctionId}

theorem nestsWithin_hoistAllocator :
    Forest.NestsWithin draft.forest (hoistAllocator structs settings draft id).forest := by
  have asks := draft.forest.nestsWithin_requireClass (draft.forest.functionAt id).ret.type.name
  rw [forest_hoistAllocator rfl rfl]
  split
  · split
    · exact asks
    · exact asks
  · exact .refl _

theorem nestsWithin_hoistStructFunction :
    Forest.NestsWithin draft.forest (hoistStructFunction structs settings draft id).forest := by
  cases takes : structParameter? structs (draft.forest.functionAt id) with
  | none =>
      rw [hoistStructFunction_of_none takes]
      exact .refl _
  | some className =>
      have asks := draft.forest.nestsWithin_requireClass className
      rw [forest_hoistStructFunction rfl takes rfl]
      split
      · split
        · exact asks
        · exact asks
      · exact asks

theorem nestsWithin_foldl {step : Draft → FunctionId → Draft}
    (each : ∀ draft id, Forest.NestsWithin draft.forest (step draft id).forest)
    (ids : List FunctionId) (draft : Draft) :
    Forest.NestsWithin draft.forest (ids.foldl step draft).forest := by
  induction ids generalizing draft with
  | nil => exact .refl _
  | cons id rest ih => exact (each draft id).trans (ih _)

theorem hierarchy_staticForest (forest : Forest) (ids : List FunctionId) :
    (staticForest forest ids).hierarchy = forest.hierarchy := by
  induction ids generalizing forest with
  | nil => rfl
  | cons id rest ih => exact ih (forest.modifyFunction id makeStatic)

theorem nestsWithin_hoistLeftovers (rootClass : String) (draft : Draft) :
    Forest.NestsWithin draft.forest (hoistLeftovers rootClass draft).forest := by
  have asks := (staticForest draft.forest draft.forest.free).nestsWithin_requireClass rootClass
  rw [Forest.NestsWithin, hierarchy_staticForest] at asks
  rw [forest_hoistLeftovers rfl rfl]
  exact asks

/-- Where no top class wraps a number, an allocator finds a class that can hold an object, and
leaves no top class that wraps a number. -/
theorem rootsHold_hoistAllocator (roots : draft.forest.RootsHold) :
    (hoistAllocator structs settings draft id).forest.RootsHold := by
  rw [forest_hoistAllocator_of_roots roots rfl]
  split
  · exact Forest.rootsHold_fillSlot (Forest.rootsHold_requireClass roots none _) _
  · exact roots

theorem rootsHold_hoistStructFunction (roots : draft.forest.RootsHold) :
    (hoistStructFunction structs settings draft id).forest.RootsHold := by
  cases takes : structParameter? structs (draft.forest.functionAt id) with
  | none =>
      rw [hoistStructFunction_of_none takes]
      exact roots
  | some className =>
      have required := Forest.rootsHold_requireClass roots none className
      rw [forest_hoistStructFunction_of_roots roots takes rfl]
      split
      · exact Forest.rootsHold_fillSlot required _
      · intro c isRoot
        rcases Forest.classAt_modifyClass_or (draft.forest.requireClass none className).1
          (draft.forest.requireClass none className).2 (·.addMethod id) c with same | ⟨-, changed⟩
        · exact (congrArg Class.holdsObject same).trans (required c isRoot)
        · exact (congrArg Class.holdsObject changed).trans (required c isRoot)

/-- Whether the top class of a name, once it is asked for, can hold an object.  Where it cannot, the
hoisting passes leave the functions free that would fill its slots. -/
def FindsObject (draft : Draft) (className : String) : Prop :=
  ((draft.requireClass none className).1.forest.classAt
    (draft.requireClass none className).2).holdsObject = true

theorem findsObject_of_rootsHold (roots : draft.forest.RootsHold) (className : String) :
    FindsObject draft className := by
  rw [FindsObject, Draft.forest_requireClass, Draft.snd_requireClass]
  apply Forest.rootsHold_requireClass roots none className
  exact Hierarchy.parent?_require className (by simp)

theorem rootsHold_foldl {step : Draft → FunctionId → Draft}
    (each : ∀ draft id, draft.forest.RootsHold → (step draft id).forest.RootsHold)
    (ids : List FunctionId) (roots : draft.forest.RootsHold) :
    (ids.foldl step draft).forest.RootsHold := by
  induction ids generalizing draft with
  | nil => exact roots
  | cons id rest ih => exact ih (each draft id roots)

end Hoisting

/-! ## Number handles -/

namespace NumberHandles

variable {found : Match} {rest : List Match}

section Arrival

variable {c place outer : ClassId} {id : FunctionId} {name : String} {type : ValueType}
  {required : Forest × ClassId}

/-- The class that a method arrives at wraps a number, whether it was there before or not. -/
theorem handleKind?_arrived (fits : forest.HandlesFit) (valid : c < forest.hierarchy.size)
    (isRequired : forest.requireClass (some c) name = required) :
    (wrapNumber type (required.1.classAt required.2)).handleKind? = some .number := by
  have isParent : required.1.hierarchy.parent? required.2 = some c :=
    isRequired ▸ Hierarchy.parent?_require name (by simpa using valid)
  have growth : forest.hierarchy.Extends required.1.hierarchy :=
    isRequired ▸ forest.hierarchy.extends_require (some c) name
  have sameContent : required.1.classAt required.2 = forest.classAt required.2 :=
    isRequired ▸ forest.classAt_requireClass _ _ _
  rw [Class.handleKind?_wrapNumber, sameContent]
  by_cases old : required.2 < forest.hierarchy.size
  · rw [growth.parent?_eq old] at isParent
    rw [fits.below _ c isParent, Option.getD_some]
  · rw [Forest.classAt_of_size_le (Nat.le_of_not_lt old)]
    rfl

/-- A method that moves down leaves no class below another one without a number. -/
theorem nested_or_wraps_of_descend (fits : forest.HandlesFit) (isMethod : id ∈ forest.methods c)
    (isRequired : forest.requireClass (some c) name = required)
    (isParent : (required.1.descend c required.2 id type).hierarchy.parent? place = some outer) :
    forest.hierarchy.parent? place = some outer ∨
      ((required.1.descend c required.2 id type).classAt place).handleKind? = some .number := by
  have below : ∀ outer ∈ some c, outer < forest.hierarchy.size := by
    simpa using Forest.lt_size_of_mem_methods isMethod
  have isThere : required.2 < required.1.hierarchy.size :=
    isRequired ▸ Hierarchy.snd_require_lt name below
  have isInner : required.1.hierarchy.parent? required.2 = some c :=
    isRequired ▸ Hierarchy.parent?_require name below
  have different : c ≠ required.2 := Nat.ne_of_lt (Hierarchy.parent_lt isInner)
  have stays : id ∈ required.1.methods c := by
    rw [← isRequired, Forest.methods, Forest.classAt_requireClass]
    exact isMethod
  by_cases arrives : place = required.2
  · right
    rw [arrives, Forest.classAt_descend_inner stays different isThere]
    exact handleKind?_arrived fits (Forest.lt_size_of_mem_methods isMethod) isRequired
  · left
    rw [Forest.descend_eq stays _ different] at isParent
    subst isRequired
    exact Hierarchy.parent?_of_require arrives isParent

end Arrival

theorem handlesFit_relocate (sound : draft.forest.Sound) (fits : draft.forest.HandlesFit)
    (remain : MatchesRemain settings (found :: rest) draft.forest) :
    (relocate settings draft found).forest.HandlesFit := by
  obtain ⟨isMethod, matched⟩ := remain.2 found List.mem_cons_self
  obtain ⟨first, others, leading, -⟩ := handleBase?_eq_some matched
  refine fits.moves sound (moves_relocate remain).1 fun place outer isParent => ?_
  rw [forest_relocate rfl leading rfl] at isParent ⊢
  split at isParent
  · exact .inl isParent
  · rename_i moves
    rw [if_neg moves]
    exact nested_or_wraps_of_descend fits isMethod rfl isParent

theorem handlesFit_foldl_relocate {matching : List Match} (sound : draft.forest.Sound)
    (fits : draft.forest.HandlesFit) (remain : MatchesRemain settings matching draft.forest) :
    (matching.foldl (relocate settings) draft).forest.HandlesFit := by
  induction matching generalizing draft with
  | nil => exact fits
  | cons found rest ih =>
      obtain ⟨moves, remains⟩ := moves_relocate remain
      exact ih (moves.sound sound) (handlesFit_relocate sound fits remain) remains

variable (settings) in
theorem handlesFit_round (sound : draft.forest.Sound) (fits : draft.forest.HandlesFit) :
    (round settings draft).1.forest.HandlesFit := by
  have relocated : (relocateMethods settings draft).1.forest.HandlesFit :=
    handlesFit_foldl_relocate sound fits (matchesRemain_findMatches sound.methodsDistinct)
  have soundRelocated : (relocateMethods settings draft).1.forest.Sound :=
    (moves_relocateMethods settings sound.methodsDistinct).sound sound
  have strips : Moves settings {.edit .rename} (relocateMethods settings draft).1.forest
      (round settings draft).1.forest :=
    Hoisting.moves_stripClassPrefixes
  refine relocated.moves soundRelocated strips ?_
  exact fun c outer isParent => .inl (strips.nestsWithin (by simp) c outer isParent)

end NumberHandles

/-! ## Passes -/

namespace Pass

/-- Whether a pass makes moves only and leaves all classes with what belongs to them, wherever it
ends. -/
def FitsHandles (settings : Settings) (pass : Pass) : Prop :=
  ∀ draft : Draft, draft.forest.Sound → draft.forest.HandlesFit →
    Moves settings Set.univ draft.forest (reached (pass draft)).forest ∧
      (reached (pass draft)).forest.HandlesFit

variable {pass : Pass}

theorem FitsHandles.run {passes : List Pass} (each : ∀ pass ∈ passes, pass.FitsHandles settings) :
    (Pass.run passes).FitsHandles settings := by
  intro draft sound fits
  refine @kept_run
    (fun forest => Moves settings Set.univ draft.forest forest ∧ forest.HandlesFit) draft _ ?_
    ⟨.refl _, fits⟩
  rintro pass member next ⟨moves, fitsNext⟩
  have later := each pass member next (moves.sound sound) fitsNext
  exact ⟨moves.trans later.1, later.2⟩

/-- A pass that asks for no class below another one. -/
theorem Makes.fitsHandles_of_nests (makes : pass.Makes settings kinds)
    (nests : ∀ draft, Forest.NestsWithin draft.forest (reached (pass draft)).forest) :
    pass.FitsHandles settings := by
  intro draft sound fits
  have moves := makes draft sound
  refine ⟨moves.mono (Set.subset_univ _), fits.moves sound moves ?_⟩
  exact fun c outer isParent => .inl (nests draft c outer isParent)

/-- A pass that asks for no class but those of listeners. -/
theorem Makes.fitsHandles (makes : pass.Makes settings kinds) (asks : .require ∉ kinds) :
    pass.FitsHandles settings := by
  intro draft sound fits
  have moves := makes draft sound
  refine ⟨moves.mono (Set.subset_univ _), fits.moves sound moves ?_⟩
  exact fun c outer isParent => .inl (moves.nestsWithin asks c outer isParent)

end Pass

theorem Grouping.fitsHandles_settleHandles : (settleHandles settings).FitsHandles settings := by
  intro draft sound fits
  refine ⟨(makes_settleHandles settings draft sound).mono (Set.subset_univ _), ?_⟩
  refine (@kept_settleHandles settings draft (fun forest => forest.Sound ∧ forest.HandlesFit) ?_
    ⟨sound, fits⟩).2
  rintro next ⟨soundNext, fitsNext⟩
  exact ⟨(NumberHandles.moves_round settings soundNext.methodsDistinct).sound soundNext,
    NumberHandles.handlesFit_round settings soundNext fitsNext⟩

namespace Conversion

variable {rootClass : String} {header : HeaderDeclarations}

theorem fitsHandles_of_mem_passes :
    ∀ pass ∈ passes settings rootClass header, pass.FitsHandles settings := by
  simp only [passes, Grouping.passes, Sizing.passes, Accessors.passes, List.cons_append,
    List.nil_append, List.forall_mem_cons]
  refine ⟨?_, ?_, ?_, ?_, ?_, ?_, ?_, ?_, Grouping.fitsHandles_settleHandles, ?_, ?_, ?_, ?_, ?_,
    ?_, ?_, ?_, ?_, ?_, ?_, ?_, ?_, ?_, ?_, ?_, List.forall_mem_nil _⟩
  · exact fun _ _ fits => ⟨.refl _, fits⟩
  · exact (makes_takeEnums settings header.enums).fitsHandles (by simp)
  · exact (makes_takeFunctions settings header.functions).fitsHandles (by simp)
  · exact (Throwing.makes_convertErrorParameters settings).fitsHandles (by simp)
  · exact (Hoisting.makes_hoistAllocators settings header.structs).fitsHandles_of_nests
      fun draft => Hoisting.nestsWithin_foldl
        (fun _ _ => Hoisting.nestsWithin_hoistAllocator) draft.forest.free draft
  · exact (Hoisting.makes_hoistStructFunctions settings header.structs).fitsHandles_of_nests
      fun draft => Hoisting.nestsWithin_foldl
        (fun _ _ => Hoisting.nestsWithin_hoistStructFunction) draft.forest.free draft
  · exact (Hoisting.makes_hoistLeftovers settings rootClass).fitsHandles_of_nests
      (Hoisting.nestsWithin_hoistLeftovers rootClass)
  · exact (Grouping.makes_stripRootPrefixes settings).fitsHandles (by simp)
  · exact (Listeners.makes_extract settings header.typedefs).fitsHandles (by simp)
  · exact (NumberHandles.makes_convertLeftoverParameters settings).fitsHandles (by simp)
  · exact (Sizing.makes_resolveReturns settings).fitsHandles (by simp)
  · exact (Sizing.makes_resolveFilledBuffers settings).fitsHandles (by simp)
  · exact (Sizing.makes_resolveSetters settings).fitsHandles (by simp)
  · exact (Sizing.makes_resolveOverrides settings).fitsHandles (by simp)
  · exact (Sizing.makes_pairParameters settings).fitsHandles (by simp)
  · exact (Sizing.makes_resolveResiduals settings).fitsHandles (by simp)
  · exact (Corrections.makes_retypeHandleReturns settings).fitsHandles (by simp)
  · exact (Corrections.makes_extractInitializers settings).fitsHandles (by simp)
  · exact (Accessors.makes_foldAccessors settings).fitsHandles (by simp)
  · exact (Accessors.makes_dropSuccessReturns settings).fitsHandles (by simp)
  · exact (Accessors.makes_foldStatics settings).fitsHandles (by simp)
  · exact (Accessors.makes_foldForcedProperties settings).fitsHandles (by simp)
  · exact (Corrections.makes_applyRenames settings).fitsHandles (by simp)
  · exact fun _ _ fits => ⟨.refl _, fits⟩

/-! ## Runs -/

theorem fitsHandles_processHeader (header : HeaderDeclarations) :
    Pass.FitsHandles settings (processHeader settings · header) := by
  intro draft sound fits
  simp only [processHeader]
  cases settings.rootClass? header.file with
  | none => exact ⟨.refl _, fits⟩
  | some rootClass => exact Pass.FitsHandles.run fitsHandles_of_mem_passes draft sound fits

theorem fitsHandles_goOn (headers : List HeaderDeclarations) (sound : draft.forest.Sound)
    (fits : draft.forest.HandlesFit) :
    Moves settings Set.univ draft.forest (goOn settings headers draft).forest ∧
      (goOn settings headers draft).forest.HandlesFit := by
  induction headers generalizing draft with
  | nil => exact ⟨.refl _, fits⟩
  | cons header rest ih =>
      obtain ⟨moves, fitsNext⟩ := fitsHandles_processHeader header draft sound fits
      obtain ⟨later, fitsLater⟩ := ih (moves.sound sound) fitsNext
      exact ⟨moves.trans later, fitsLater⟩

theorem fitsHandles_between (headers : List HeaderDeclarations) (count : Nat) :
    Moves settings Set.univ (goOn settings headers {}).forest
        (between settings headers rootClass header count).forest ∧
      (between settings headers rootClass header count).forest.HandlesFit := by
  obtain ⟨moves, fits⟩ :=
    @fitsHandles_goOn settings {} headers Forest.sound_empty Forest.handlesFit_empty
  refine Pass.FitsHandles.run (fun pass member => ?_) _ (moves.sound Forest.sound_empty) fits
  exact fitsHandles_of_mem_passes pass (List.mem_of_mem_take member)

theorem sound_between (headers : List HeaderDeclarations) (count : Nat) :
    (between settings headers rootClass header count).forest.Sound :=
  (closed_between headers count).sound

/-- More passes of a header. -/
theorem moves_between_add (headers : List HeaderDeclarations) (count more : Nat) :
    Moves settings Set.univ (between settings headers rootClass header count).forest
      (between settings headers rootClass header (count + more)).forest := by
  have here : between settings headers rootClass header (count + more) =
      reached (Pass.run ((passes settings rootClass header).take count)
          (goOn settings headers {}) >>=
        Pass.run (((passes settings rootClass header).drop count).take more)) := by
    rw [between, List.take_add, Pass.run_append]
  rw [here]
  refine (@reached_bind (fun forest => Moves settings Set.univ
    (between settings headers rootClass header count).forest forest ∧ forest.HandlesFit) _ _
    ⟨.refl _, (fitsHandles_between headers count).2⟩ ?_).1
  rintro next ⟨moves, fits⟩
  have each : ∀ pass ∈ ((passes settings rootClass header).drop count).take more,
      pass.FitsHandles settings := fun pass member =>
    fitsHandles_of_mem_passes pass (List.mem_of_mem_drop (List.mem_of_mem_take member))
  obtain ⟨later, fitsLater⟩ :=
    Pass.FitsHandles.run each next (moves.sound (sound_between headers count)) fits
  exact ⟨moves.trans later, fitsLater⟩

theorem goOn_append (first second : List HeaderDeclarations) (draft : Draft) :
    goOn settings (first ++ second) draft = goOn settings second (goOn settings first draft) :=
  List.foldl_append

/-- After all its passes a header is done with. -/
theorem between_of_length_le (isRoot : settings.rootClass? header.file = some rootClass)
    (headers : List HeaderDeclarations) {count : Nat}
    (all : (passes settings rootClass header).length ≤ count) :
    between settings headers rootClass header count = goOn settings (headers ++ [header]) {} := by
  rw [between, List.take_of_length_le all, goOn_append]
  change _ = reached (processHeader settings (goOn settings headers {}) header)
  rw [processHeader, isRoot]

/-- The rest of a header, more headers, and some passes of the last one. -/
theorem moves_between_append {headers rest : List HeaderDeclarations} {lastRoot : String}
    {last : HeaderDeclarations} (isRoot : settings.rootClass? header.file = some rootClass)
    (count later : Nat) :
    Moves settings Set.univ (between settings headers rootClass header count).forest
      (between settings (headers ++ header :: rest) lastRoot last later).forest := by
  have finishes := @moves_between_add settings rootClass header headers count
    (passes settings rootClass header).length
  rw [between_of_length_le isRoot headers (Nat.le_add_left _ count)] at finishes
  obtain ⟨-, fits⟩ := @fitsHandles_goOn settings {} (headers ++ [header]) Forest.sound_empty
    Forest.handlesFit_empty
  have goesOn := (@fitsHandles_goOn settings _ rest (finishes.sound (sound_between _ _)) fits).1
  rw [← goOn_append, List.append_assoc, List.singleton_append] at goesOn
  exact finishes.trans (goesOn.trans (fitsHandles_between _ later).1)

/-- Between any two passes, after headers that failed as well, classes at the top wrap a C object or
nothing and classes below others wrap a number, and a class that wraps something wraps something of
the same kind after more passes of the header and after more headers.  A hoisting pass that starts
there finds a class that can hold an object, whatever it hoists and whatever class it asks for. -/
theorem handlesFit_between (settings : Settings) (headers : List HeaderDeclarations)
    (rootClass : String) (header : HeaderDeclarations) (count : Nat) :
    let state := between settings headers rootClass header count
    state.forest.HandlesFit ∧
      (∀ more, state.forest.KeepsKinds
        (between settings headers rootClass header (count + more)).forest) ∧
      (settings.rootClass? header.file = some rootClass → ∀ rest lastRoot last later,
        state.forest.KeepsKinds
          (between settings (headers ++ header :: rest) lastRoot last later).forest) ∧
      ∀ structs (ids : List FunctionId) className,
        Hoisting.FindsObject
            (ids.foldl (Hoisting.hoistAllocator structs settings) state) className ∧
          Hoisting.FindsObject
            (ids.foldl (Hoisting.hoistStructFunction structs settings) state) className := by
  obtain ⟨-, fits⟩ := @fitsHandles_between settings rootClass header headers count
  refine ⟨fits, fun more => ?_, fun isRoot rest lastRoot last later => ?_, ?_⟩
  · exact (moves_between_add headers count more).keepsKinds
  · exact (moves_between_append isRoot count later).keepsKinds
  · intro structs ids className
    constructor
    · apply Hoisting.findsObject_of_rootsHold
      exact Hoisting.rootsHold_foldl (fun _ _ => Hoisting.rootsHold_hoistAllocator) ids
        fits.rootsHold
    · apply Hoisting.findsObject_of_rootsHold
      exact Hoisting.rootsHold_foldl (fun _ _ => Hoisting.rootsHold_hoistStructFunction) ids
        fits.rootsHold

/-- A header with one function that makes an instance and one that is about a friend. -/
def friendDeleted : HeaderDeclarations where
  file := "tox.h"
  functions := [
    { name := "tox_new", returnType := { name := "Tox", isPointer := true }, parameters := [] },
    { name := "tox_friend_delete"
      returnType := { name := "bool" }
      parameters := [
        { name := "tox", type := { name := "Tox", isPointer := true } },
        { name := "friend_number", type := { name := "uint32_t" } }] }]
  structs := ["Tox"]

/-- The instance is native and the friend is a number when the header is done with, and so they
still are when it comes a second time. -/
theorem keepsKinds_friendDeleted :
    Settings.default.rootClass? friendDeleted.file = some "Tox" ∧
      ∀ later, let state := between Settings.default [friendDeleted] "Tox" friendDeleted later
        (state.forest.classAt 0).handleKind? = some .native ∧
          (state.forest.classAt 1).handleKind? = some .number := by
  have isRoot : Settings.default.rootClass? friendDeleted.file = some "Tox" := by decide +kernel
  refine ⟨isRoot, fun later => ?_⟩
  obtain ⟨fits, -, kept, -⟩ := handlesFit_between Settings.default [] "Tox" friendDeleted 25
  have keeps := kept isRoot [] "Tox" friendDeleted later
  have isInner : (between Settings.default [] "Tox" friendDeleted 25).forest.hierarchy.parent? 1 =
      some 0 := by decide +kernel
  have isNative : ((between Settings.default [] "Tox" friendDeleted 25).forest.classAt
      0).handleKind? = some .native := by decide +kernel
  exact ⟨keeps 0 .native isNative, keeps 1 .number (fits.below 1 0 isInner)⟩

end Conversion

end Bindery
