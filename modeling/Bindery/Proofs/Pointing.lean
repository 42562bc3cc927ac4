import Bindery.Proofs.Narrowing
import Bindery.Proofs.Owners
import Bindery.Proofs.Parameters
import Bindery.Proofs.Rendering

/-!
# Where types point

A type names the function that tells its size by number.  Only the rules for buffers make it name
one, and they take it from a class, so that it is there; every other pass hands types on as they
are.
-/

namespace Bindery

variable {settings : Settings} {kind : MoveKind} {kinds : Set MoveKind}
  {before after forest : Forest} {function changed : Function} {content : Class}
  {c : ClassId} {id accessor : FunctionId}

namespace Function

theorem sizers_subset (ret : changed.ret = function.ret)
    (params : changed.params ⊆ function.params) : changed.sizers ⊆ function.sizers := by
  intro accessor named
  simp only [sizers, ret, List.mem_append, List.mem_flatMap] at named ⊢
  rcases named with named | ⟨argument, member, named⟩
  · exact .inl named
  · exact .inr ⟨argument, params member, named⟩

theorem flatMap_sizers (params : List Argument) :
    params.flatMap (·.sizers) = (params.flatMap (·.flatten)).flatMap (·.type.sizers) :=
  List.flatMap_assoc.symm

theorem sizers_dropParameter (function : Function) (position : Nat) :
    (function.dropParameter position).sizers ⊆ function.sizers :=
  sizers_subset rfl List.eraseIdx_subset

theorem flatMap_sizers_refers {declared params : List Argument}
    (refers : List.Forall₂ (Refers settings) declared params) :
    params.flatMap (·.sizers) = declared.flatMap (·.sizers) := by
  induction refers with
  | nil => rfl
  | cons refers _ ih =>
      rw [List.flatMap_cons, List.flatMap_cons, ih]
      rcases refers with rfl | ⟨parameter, base, rfl, -, rfl⟩ <;> rfl

theorem sizers_pairLengths (function : Function) (marker : String) :
    ({ function with params := Sizing.pairLengths marker function.params } : Function).sizers =
      function.sizers := by
  rw [sizers, sizers, flatMap_sizers, Sizing.flatten_pairLengths, ← flatMap_sizers]

theorem sizers_replaceBy (function : Function) (type : ValueType) :
    ({ function with ret := function.ret.replaceBy type } : Function).sizers ⊆
      type.sizers ++ function.sizers := by
  intro accessor named
  simp only [sizers, Return.replaceBy, Option.toList_some, List.flatMap_singleton,
    List.mem_append] at named ⊢
  rcases named with (ofType | ofReturn) | ofParams
  · exact .inl ofType
  · exact .inr (.inl (.inl ofReturn))
  · exact .inr (.inr ofParams)

theorem sizers_withGetter (function : Function) (accessor : FunctionId) :
    ({ function with ret := { function.ret with
      type := function.ret.type.withGetter accessor } } : Function).sizers ⊆
        accessor :: function.sizers := by
  intro other named
  simp only [sizers, ValueType.sizers, ValueType.withGetter, List.mem_append, List.mem_cons] at *
  rcases named with (named | named) | named
  · exact .inl (by simpa [SizeAccessor.function] using named)
  · exact .inr (.inl (.inr named))
  · exact .inr (.inr named)

theorem sizers_promote {position : Nat} (function : Function) (accessor : FunctionId) :
    (Sizing.promote position accessor function).sizers ⊆ accessor :: function.sizers := by
  rw [Sizing.promote]
  split
  · rename_i parameter isThere
    refine List.Subset.trans
      (sizers_replaceBy (function.dropParameter position) (parameter.type.withGetter accessor)) ?_
    exact List.cons_subset_cons _ (sizers_dropParameter function position)
  · exact List.subset_cons_self _ _

theorem sizers_mapParameter (function : Function) (position : Nat) (sizer : SizeAccessor) :
    (function.mapParameter position fun parameter =>
      { parameter with type := { parameter.type with sizeAccessor := some sizer } }).sizers ⊆
        sizer.function :: function.sizers := by
  intro other named
  have sized := function.forall₂_sized position sizer
  simp only [sizers, List.mem_append, List.mem_flatMap, List.mem_cons] at named ⊢
  rcases named with named | ⟨argument, member, named⟩
  · exact .inr (.inl named)
  · obtain ⟨declared, isDeclared, rfl | rfl⟩ := exists_of_mem_forall₂ sized member
    · exact .inr (.inr ⟨argument, isDeclared, named⟩)
    · cases declared with
      | buffer data length => exact .inr (.inr ⟨_, isDeclared, named⟩)
      | plain parameter =>
          left
          simpa [Argument.mapPlain, Argument.sizers, Argument.flatten, ValueType.sizers] using named

end Function

/-- The kinds of moves that make a type name a function. -/
def pointingKinds : Set MoveKind :=
  {.edit .sizeReturn, .edit .promote, .edit .sizeParameter}

/-- A function hands on what its types name. -/
theorem Step.sizers_subset (step : Step settings kind function changed)
    (hands : kind ∉ pointingKinds) : changed.sizers ⊆ function.sizers := by
  cases step with
  | descend => exact function.sizers_dropParameter 0
  | edit edited =>
      cases edited with
      | convertError exception found => exact function.sizers_dropParameter _
      | makeDeallocator => exact function.sizers_dropParameter 0
      | makeMethod => exact function.sizers_dropParameter 0
      | refer pointwise =>
          rw [Function.sizers, Function.sizers, Function.flatMap_sizers_refers pointwise]
          exact List.Subset.refl _
      | pair =>
          rw [function.sizers_pairLengths]
          exact List.Subset.refl _
      | dropSuccess =>
          rw [Accessors.dropSuccess]
          split
          · exact function.sizers_replaceBy .void
          · exact List.Subset.refl _
      | sizeReturn | promote | sizeParameter => simp [pointingKinds] at hands
      | makeAllocator | makeStatic | rename | retype => exact List.Subset.refl _

theorem NumberHandles.sizers_wrapNumber (type : ValueType) (content : Class) :
    (wrapNumber type content).sizers ⊆ type.sizers ++ content.sizers := by
  obtain ⟨isCallback, handle, defaultInit, properties, methods⟩ := content
  cases handle with
  | none => exact List.subset_append_left _ _
  | some handle => exact List.subset_append_right _ _

theorem ContentStep.sizers_subset {place : ClassId} {old new : Class}
    (step : ContentStep forest place kind old new) (stays : kind ≠ .descend) :
    new.sizers ⊆ old.sizers := by
  cases step with
  | allocate =>
      obtain ⟨isCallback, handle, defaultInit, properties, methods⟩ := old
      rcases handle with _ | ⟨alloc, dealloc⟩ | type <;> exact List.Subset.refl _
  | deallocate =>
      obtain ⟨isCallback, handle, defaultInit, properties, methods⟩ := old
      rcases handle with _ | ⟨alloc, dealloc⟩ | type <;> exact List.Subset.refl _
  | leave | arrive => exact absurd rfl stays
  | _ => exact List.Subset.refl _

namespace Forest

/-- Whether every function that a type names is there. -/
structure Pointed (forest : Forest) : Prop where
  function : ∀ id, ∀ accessor ∈ (forest.functionAt id).sizers, accessor < forest.functionCount
  wrapped : ∀ c, ∀ accessor ∈ (forest.classAt c).sizers, accessor < forest.functionCount

theorem pointed_empty : Forest.empty.Pointed where
  function := fun _ _ named => nomatch named
  wrapped := fun _ _ named => nomatch named

namespace Pointed

theorem modifyFunction {change : Function → Function} (pointed : forest.Pointed)
    (names : ∀ accessor ∈ (change (forest.functionAt id)).sizers,
      accessor < forest.functionCount) : (forest.modifyFunction id change).Pointed where
  function := by
    intro other accessor named
    rw [functionCount_modifyFunction]
    by_cases same : other = id
    · subst same
      rcases forest.functionAt_modifyFunction_or other change with changed | ⟨-, absent⟩
      · exact names accessor (changed ▸ named)
      · rw [absent] at named
        cases named
    · rw [functionAt_modifyFunction_of_ne same] at named
      exact pointed.function other accessor named
  wrapped := by
    rw [functionCount_modifyFunction]
    exact pointed.wrapped

/-- What is added at the end names nothing. -/
theorem append {functions : List Function} (pointed : before.Pointed)
    (appended : after.functions = before.functions ++ functions)
    (unsized : ∀ function ∈ functions, function.sizers = [])
    (wrapped : ∀ c, (after.classAt c).sizers ⊆ (before.classAt c).sizers) : after.Pointed := by
  have grows : before.functionCount ≤ after.functionCount := by
    rw [functionCount, functionCount, appended, List.length_append]
    exact Nat.le_add_right _ _
  refine ⟨fun id accessor named => ?_, fun c accessor named =>
    Nat.lt_of_lt_of_le (pointed.wrapped c accessor (wrapped c named)) grows⟩
  rcases Nat.lt_or_ge id before.functions.length with old | new
  · have same : after.functionAt id = before.functionAt id := by
      rw [functionAt, appended, List.getElem?_append_left old]
      rfl
    exact Nat.lt_of_lt_of_le (pointed.function id accessor (same ▸ named)) grows
  · rw [functionAt, appended, List.getElem?_append_right new] at named
    cases isNew : functions[id - before.functions.length]? with
    | none =>
        rw [isNew] at named
        cases named
    | some function =>
        rw [isNew, Option.getD_some, unsized function (List.mem_of_getElem? isNew)] at named
        cases named

end Pointed

end Forest

namespace Move

theorem sizers_classAt (move : Move settings kind before after) (stays : kind ≠ .descend)
    (c : ClassId) : (after.classAt c).sizers ⊆ (before.classAt c).sizers := by
  rcases move.classAt_step c with same | step
  · rw [same]
    exact List.Subset.refl _
  · exact step.sizers_subset stays

/-- The number that a class wraps comes from a parameter of the method that it takes. -/
theorem wrapped (move : Move settings kind before after) (pointed : before.Pointed)
    (c : ClassId) : ∀ accessor ∈ (after.classAt c).sizers, accessor < before.functionCount := by
  intro accessor named
  by_cases descends : kind = .descend
  · subst descends
    cases move with
    | @descend _ outer inner id first rest isMethod valid isInner leading marked =>
        have different : outer ≠ inner := Nat.ne_of_lt (Hierarchy.parent_lt isInner)
        by_cases isInnerPlace : c = inner
        · subst isInnerPlace
          rw [Forest.classAt_descend_inner isMethod different valid] at named
          rcases List.mem_append.1 (NumberHandles.sizers_wrapNumber _ _ named) with ofType | ofClass
          · refine pointed.function id accessor ?_
            rw [Function.sizers, leading]
            simp [Argument.sizers, Argument.flatten, ofType]
          · exact pointed.wrapped c accessor ofClass
        · by_cases isOuterPlace : c = outer
          · subst isOuterPlace
            rw [Forest.classAt_descend_outer isMethod different] at named
            exact pointed.wrapped c accessor named
          · rw [Forest.classAt_descend_of_ne isMethod different _ isOuterPlace
              isInnerPlace] at named
            exact pointed.wrapped c accessor named
  · exact pointed.wrapped c accessor (move.sizers_classAt descends c named)

theorem pointed (move : Move settings kind before after) (hands : kind ∉ pointingKinds)
    (adds : kind.adds = false) (pointed : before.Pointed) : after.Pointed := by
  have count : after.functionCount = before.functionCount := by
    rw [move.functionCount_eq, adds]
    rfl
  refine ⟨fun id accessor named => ?_, fun c accessor named => ?_⟩
  · rw [count]
    by_cases present : id < before.functionCount
    · rcases move.functionAt_step present with same | step
      · exact pointed.function id accessor (same ▸ named)
      · exact pointed.function id accessor (step.sizers_subset hands named)
    · exact pointed.function id accessor (move.functionAt_eq_of_absent adds present ▸ named)
  · rw [count]
    exact move.wrapped pointed c accessor named

end Move

namespace Moves

theorem pointed (moves : Moves settings kinds before after)
    (hands : ∀ kind ∈ kinds, kind ∉ pointingKinds ∧ kind.adds = false)
    (pointed : before.Pointed) : after.Pointed := by
  induction moves with
  | refl => exact pointed
  | tail _ last ih =>
      obtain ⟨kind, allowed, move⟩ := last
      exact move.pointed (hands kind allowed).1 (hands kind allowed).2 ih

theorem sizers_classAt (moves : Moves settings kinds before after) (stays : .descend ∉ kinds)
    (c : ClassId) : (after.classAt c).sizers ⊆ (before.classAt c).sizers := by
  induction moves with
  | refl => exact List.Subset.refl _
  | tail _ last ih =>
      obtain ⟨kind, allowed, move⟩ := last
      have handsOn := move.sizers_classAt (fun descends => stays (descends ▸ allowed)) c
      exact List.Subset.trans handsOn ih

end Moves

/-! ## The rules for buffers -/

namespace Sizing

variable {draft searched : Draft} {keyword marker : String} {classes : List ClassId}

theorem lt_of_accessor? (sound : forest.Sound)
    (found : accessor? settings forest keyword c classes = some accessor) :
    accessor < forest.functionCount := by
  rcases Option.or_eq_some_iff.1 found with own | ⟨-, elsewhere⟩
  · exact sound.lt_of_mem_methods (List.mem_of_find?_eq_some own)
  · obtain ⟨place, -, found⟩ := List.exists_of_findSome?_eq_some elsewhere
    rcases Option.or_eq_some_iff.1 found with isMethod | ⟨-, isGetter⟩
    · exact sound.lt_of_mem_methods (List.mem_of_find?_eq_some isMethod)
    · obtain ⟨property, isProperty, rfl⟩ := Option.map_eq_some_iff.1 isGetter
      have isThere := List.mem_of_find?_eq_some isProperty
      exact sound.lt_of_mem_owners
        (Forest.mem_owners_of_class (Class.mem_owners_of_getter isThere))

theorem lt_of_search (sound : draft.forest.Sound)
    (found : search settings draft keyword c = (searched, some accessor)) :
    accessor < searched.forest.functionCount := by
  rw [forest_of_search found]
  exact lt_of_accessor? sound (congrArg (·.2) found)

@[simp]
theorem functionCount_detach :
    (detach draft c accessor marker).forest.functionCount = draft.forest.functionCount := by
  rw [forest_detach]
  split <;> rfl

/-- A function that is told of an accessor names nothing else that it did not name before. -/
theorem Told.sizers_subset {kind : EditKind}
    (told : Told settings accessor kind function changed) :
    changed.sizers ⊆ accessor :: function.sizers := by
  cases told with
  | sizeReturn => exact Function.sizers_withGetter _ accessor
  | promote => exact Function.sizers_promote _ accessor
  | sizeParameter sizer isAccessor =>
      rw [← isAccessor]
      exact Function.sizers_mapParameter _ _ sizer

/-- A rule tells of an accessor that is there. -/
theorem Resolves.pointed (resolves : Resolves settings kinds c id before after)
    (sound : before.Sound) (pointed : before.Pointed) : after.Pointed := by
  cases resolves with
  | skip => exact pointed
  | @tell kind keyword accessor taken change tells sought found takes told =>
      have stillPointed : taken.Pointed := by
        rcases takes with rfl | ⟨-, isMethod, -, rfl⟩
        · exact pointed
        · have move : Move settings .detach before (before.detach c accessor) := .detach isMethod
          exact move.pointed (by simp [pointingKinds]) rfl pointed
      have same : taken.functions = before.functions := by
        rcases takes with rfl | ⟨-, -, -, rfl⟩ <;> rfl
      have isThere : accessor < taken.functionCount := by
        rw [Forest.functionCount, same]
        exact lt_of_accessor? sound found
      refine stillPointed.modifyFunction fun other named => ?_
      rw [Forest.functionAt, same] at named
      rcases List.mem_cons.1 (told.sizers_subset named) with rfl | old
      · exact isThere
      · rw [Forest.functionCount, same]
        exact pointed.function id other old

end Sizing

/-! ## What is true in every state -/

/-- Whether everything is there that a forest points at, and no function is held twice. -/
structure Forest.Closed (forest : Forest) : Prop where
  sound : forest.Sound
  pointed : forest.Pointed

theorem Forest.closed_empty : Forest.empty.Closed :=
  ⟨sound_empty, pointed_empty⟩

theorem Sizing.Resolves.closed (resolves : Resolves settings kinds c id before after)
    (closed : before.Closed) : after.Closed :=
  ⟨resolves.moves.sound closed.sound, resolves.pointed closed.sound closed.pointed⟩

namespace Pass

/-- Whether a pass leaves a forest closed, wherever it ends. -/
def Closes (pass : Pass) : Prop :=
  ∀ draft : Draft, draft.forest.Closed → (reached (pass draft)).forest.Closed

variable {pass : Pass}

theorem Closes.run {passes : List Pass} (each : ∀ pass ∈ passes, pass.Closes) :
    (Pass.run passes).Closes :=
  fun _ closed => kept_run each closed

/-- A pass that makes no type name a function. -/
theorem Makes.closes (makes : pass.Makes settings kinds)
    (hands : ∀ kind ∈ kinds, kind ∉ pointingKinds ∧ kind.adds = false) : pass.Closes :=
  fun draft closed =>
    ⟨(makes draft closed.sound).sound closed.sound,
      (makes draft closed.sound).pointed hands closed.pointed⟩

/-- A pass that adds functions whose types name nothing. -/
theorem Makes.closes_append {step : Draft → Draft}
    (makes : (Pass.ofTotal step).Makes settings kinds) (stays : .descend ∉ kinds)
    {functions : List Function} (unsized : ∀ function ∈ functions, function.sizers = [])
    (appends : ∀ draft, (step draft).forest.functions = draft.forest.functions ++ functions) :
    (Pass.ofTotal step).Closes :=
  fun draft closed =>
    ⟨(makes draft closed.sound).sound closed.sound,
      closed.pointed.append (appends draft) unsized
        ((makes draft closed.sound).sizers_classAt stays)⟩

end Pass

theorem FunctionDeclaration.sizers_intake (settings : Settings)
    (declaration : FunctionDeclaration) : (declaration.intake settings).sizers = [] := by
  have unsized (spelling : TypeSpelling) : spelling.intake.sizeAccessor = none := by
    rw [TypeSpelling.intake]
    split <;> rfl
  have params : ∀ argument ∈ declaration.intakeParameters settings, argument.sizers = [] := by
    intro argument member
    rw [intakeParameters] at member
    split at member
    · cases member
    · obtain ⟨parameter, -, rfl⟩ := List.mem_map.1 member
      simp [ParameterDeclaration.intake, Argument.sizers, Argument.flatten, ValueType.sizers,
        unsized]
  simpa [Function.sizers, intake, ValueType.sizers, unsized] using params

namespace Conversion

theorem closes_takeFunctions (declarations : List FunctionDeclaration) :
    (Pass.ofTotal (takeFunctions settings declarations)).Closes := by
  have unsized : ∀ function ∈ Intake.functions settings declarations, function.sizers = [] := by
    intro function member
    obtain ⟨declaration, -, rfl⟩ := List.mem_map.1 member
    exact declaration.sizers_intake settings
  refine (makes_takeFunctions settings declarations).closes_append (by simp) unsized fun draft => ?_
  rw [takeFunctions, Forest.forest_addFree, forest_foldl_note]
  rfl

theorem closes_extract (typedefs : List TypedefDeclaration) :
    (Pass.ofTotal fun draft => (Listeners.extract settings typedefs draft).1).Closes := by
  refine (Listeners.makes_extract settings typedefs).closes_append (by simp) (fun function => ?_)
    fun draft => functions_extract
  intro member
  obtain ⟨signature, -, rfl⟩ := List.mem_map.1 member
  exact signature.sizers_intake settings

end Conversion

namespace Sizing

variable (settings)

theorem closes_resolveReturns : Pass.Closes (resolveReturns settings) :=
  fun _ closed => kept_tryForEachMethod
    (fun _ _ _ closed => resolves_resolveReturn.closed closed) closed

theorem closes_resolveFilledBuffers : Pass.Closes (resolveFilledBuffers settings) :=
  fun _ closed => kept_tryForEachMethod
    (fun _ _ _ closed => resolves_resolveFilled.closed closed) closed

theorem closes_resolveSetters : (Pass.ofTotal (resolveSetters settings)).Closes :=
  fun _ closed => kept_forEachMethod
    (fun _ _ _ closed => resolves_resolveSetter.closed closed) closed

theorem closes_resolveOverrides : (Pass.ofTotal (resolveOverrides settings)).Closes :=
  fun _ closed => kept_forEachMethod
    (fun _ _ _ closed => resolves_resolveOverride.closed closed) closed

theorem closes_resolveResiduals : (Pass.ofTotal (resolveResiduals settings)).Closes :=
  fun _ closed => kept_forEachMethod (fun _ _ _ closed =>
    kept_foldl (fun _ _ closed => resolves_resolveResidual.closed closed) closed) closed

end Sizing

namespace Conversion

/-- Every pass leaves a closed forest closed. -/
theorem closes_of_mem_passes {rootClass : String} {header : HeaderDeclarations} :
    ∀ pass ∈ passes settings rootClass header, pass.Closes := by
  simp only [passes, Grouping.passes, Sizing.passes, Accessors.passes, List.cons_append,
    List.nil_append, List.forall_mem_cons]
  refine ⟨fun _ closed => closed, ?_, closes_takeFunctions header.functions, ?_, ?_, ?_, ?_, ?_, ?_,
    closes_extract header.typedefs, ?_, Sizing.closes_resolveReturns settings,
    Sizing.closes_resolveFilledBuffers settings, Sizing.closes_resolveSetters settings,
    Sizing.closes_resolveOverrides settings, ?_, Sizing.closes_resolveResiduals settings,
    ?_, ?_, ?_, ?_, ?_, ?_, ?_, fun _ closed => closed, List.forall_mem_nil _⟩
  · exact (makes_takeEnums settings header.enums).closes (by simp [pointingKinds, MoveKind.adds])
  · exact (Throwing.makes_convertErrorParameters settings).closes
      (by simp [pointingKinds, MoveKind.adds])
  · exact (Hoisting.makes_hoistAllocators settings header.structs).closes
      (by simp [pointingKinds, MoveKind.adds])
  · exact (Hoisting.makes_hoistStructFunctions settings header.structs).closes
      (by simp [pointingKinds, MoveKind.adds])
  · exact (Hoisting.makes_hoistLeftovers settings rootClass).closes
      (by simp [pointingKinds, MoveKind.adds])
  · exact (Grouping.makes_stripRootPrefixes settings).closes
      (by simp [pointingKinds, MoveKind.adds])
  · exact (Grouping.makes_settleHandles settings).closes
      (by simp [NumberHandles.roundKinds, pointingKinds, MoveKind.adds])
  · exact (NumberHandles.makes_convertLeftoverParameters settings).closes
      (by simp [pointingKinds, MoveKind.adds])
  · exact (Sizing.makes_pairParameters settings).closes (by simp [pointingKinds, MoveKind.adds])
  · exact (Corrections.makes_retypeHandleReturns settings).closes
      (by simp [pointingKinds, MoveKind.adds])
  · exact (Corrections.makes_extractInitializers settings).closes
      (by simp [pointingKinds, MoveKind.adds])
  · exact (Accessors.makes_foldAccessors settings).closes (by simp [pointingKinds, MoveKind.adds])
  · exact (Accessors.makes_dropSuccessReturns settings).closes
      (by simp [pointingKinds, MoveKind.adds])
  · exact (Accessors.makes_foldStatics settings).closes (by simp [pointingKinds, MoveKind.adds])
  · exact (Accessors.makes_foldForcedProperties settings).closes
      (by simp [pointingKinds, MoveKind.adds])
  · exact (Corrections.makes_applyRenames settings).closes (by simp [pointingKinds, MoveKind.adds])

end Conversion

end Bindery
