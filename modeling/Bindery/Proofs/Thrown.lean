import Bindery.Proofs.Guarded.Conversion

/-!
# Exceptions and the enums they stand for

A header brings its enums together with the exceptions derived from them, and then its functions
lose their error parameters to exceptions that are there by then, those of earlier headers
included.  No later pass takes an enum, an exception or a mark of a function away, and none sets a
mark, so every exception that a function throws goes back to the parameter it was found by.
-/

namespace Bindery

variable {settings : Settings} {kind : MoveKind} {kinds : Set MoveKind} {draft : Draft}
  {final : Draft} {before after forest : Forest} {id : FunctionId}

/-! ## Losing the error parameter -/

namespace Throwing

/-- Whether the second function is the first one after its error parameter was dropped, the type of
which names the enum of the exception that is thrown instead. -/
def Drops (settings : Settings) (exception : Exception) (function converted : Function) : Prop :=
  ∃ position argument, errorPosition? settings function = some position ∧
    function.params[position]? = some argument ∧
    argument.name = settings.markers.errorParameter ∧
    argument.type.name = exception.enumName ∧
    converted = { function.dropParameter position with throws := some exception.name }

theorem Drops.throws_eq {exception : Exception} {function converted : Function}
    (drops : Drops settings exception function converted) :
    converted.throws = some exception.name := by
  obtain ⟨position, argument, -, -, -, -, rfl⟩ := drops
  rfl

theorem exists_argument_of_errorPosition? {function : Function} {position : Nat}
    (found : errorPosition? settings function = some position) :
    ∃ argument, function.params[position]? = some argument ∧
      argument.name = settings.markers.errorParameter := by
  obtain ⟨valid, named, -⟩ := List.findIdx?_eq_some_iff_getElem.1 found
  exact ⟨_, List.getElem?_eq_getElem valid, by simpa using named⟩

variable (settings) in
/-- What one step does, also where it gives up. -/
theorem convertFunction_spec (present : id < draft.forest.functionCount) :
    let next := (reached (convertFunction settings draft id)).forest
    next.exceptions = draft.forest.exceptions ∧
      next.functionCount = draft.forest.functionCount ∧
      (∀ other, other ≠ id → next.functionAt other = draft.forest.functionAt other) ∧
      (next.functionAt id = draft.forest.functionAt id ∨
        ∃ exception ∈ draft.forest.exceptions,
          Drops settings exception (draft.forest.functionAt id) (next.functionAt id)) := by
  rw [convertFunction]
  dsimp only
  split
  · exact ⟨rfl, rfl, fun _ _ => rfl, .inl rfl⟩
  · rename_i position found
    obtain ⟨argument, isThere, named⟩ := exists_argument_of_errorPosition? found
    rw [isThere]
    split
    · exact ⟨rfl, rfl, fun _ _ => rfl, .inl rfl⟩
    · rename_i exception isFirst
      have derived : exception.enumName = argument.type.name := by
        simpa using List.find?_some isFirst
      refine ⟨rfl, Forest.functionCount_modifyFunction _ _ _,
        fun _ different => Forest.functionAt_modifyFunction_of_ne different,
        .inr ⟨exception, List.mem_of_find?_eq_some isFirst, position, argument, found, isThere,
          named, derived.symm, ?_⟩⟩
      exact Forest.functionAt_modifyFunction_self present

/-- A loop over different functions converts some of them, each once, and changes no other, whether
or not it comes to its end. -/
theorem drops_foldlM {ids : List FunctionId} (different : ids.Nodup)
    (present : ∀ id ∈ ids, id < draft.forest.functionCount)
    (ends : reached (ids.foldlM (convertFunction settings) draft) = final) (id : FunctionId) :
    final.forest.functionAt id = draft.forest.functionAt id ∨
      id ∈ ids ∧ ∃ exception ∈ draft.forest.exceptions,
        Drops settings exception (draft.forest.functionAt id) (final.forest.functionAt id) := by
  induction ids generalizing draft with
  | nil => exact .inl (ends ▸ rfl)
  | cons first rest ih =>
      obtain ⟨fresh, different⟩ := List.nodup_cons.1 different
      obtain ⟨exceptions, counted, others, itself⟩ :=
        convertFunction_spec settings (present first List.mem_cons_self)
      rw [List.foldlM_cons] at ends
      cases result : convertFunction settings draft first with
      | error stopped =>
          rw [result] at ends others itself
          obtain rfl : stopped.draft = final := ends
          by_cases same : id = first
          · subst same
            exact itself.imp_right fun drops => ⟨List.mem_cons_self, drops⟩
          · exact .inl (others id same)
      | ok next =>
          rw [result] at ends
          rw [result, reached] at exceptions counted others itself
          have later := ih different (fun id member =>
            Nat.lt_of_lt_of_eq (present id (List.mem_cons_of_mem _ member)) counted.symm) ends
          by_cases same : id = first
          · subst same
            rw [later.resolve_right fun converted => fresh converted.1]
            exact itself.imp_right fun drops => ⟨List.mem_cons_self, drops⟩
          · rw [others id same, exceptions] at later
            exact later.imp_right fun converted =>
              ⟨List.mem_cons_of_mem _ converted.1, converted.2⟩

end Throwing

/-! ## What is bound -/

/-- Whether every exception stands for an enum that is there, and every function that throws does
so by an exception that is there, for which it lost a parameter. -/
structure Forest.Binds (dropped : FunctionId → Exception → Prop) (forest : Forest) : Prop where
  sound : forest.Sound
  enums : ∀ exception ∈ forest.exceptions,
    ∃ enumeration ∈ forest.enums, enumeration.name = exception.enumName
  throws : ∀ id < forest.functionCount, ∀ name ∈ (forest.functionAt id).throws,
    ∃ exception ∈ forest.exceptions, exception.name = name ∧ dropped id exception

variable {dropped : FunctionId → Exception → Prop}

theorem Throwing.exists_of_mem_deriveExceptions {enums : List Enumeration} {exception : Exception}
    (derived : exception ∈ deriveExceptions settings enums) :
    ∃ enumeration ∈ enums, enumeration.name = exception.enumName := by
  obtain ⟨enumeration, member, isException⟩ := List.mem_filterMap.1 derived
  rw [exceptionOf?] at isException
  split at isException
  · exact ⟨enumeration, member, (Option.some.inj isException) ▸ rfl⟩
  · cases isException

/-- The kinds of moves that neither add a function nor convert an error parameter. -/
def quietKinds : Set MoveKind :=
  {kind | kind.adds = false ∧ kind ≠ .edit .convertError}

theorem Move.exceptions_eq (move : Move settings kind before after) (keeps : kind ≠ .register) :
    after.exceptions = before.exceptions ∧ after.enums = before.enums := by
  cases move with
  | register => exact absurd rfl keeps
  | descend isMethod valid isInner leading marked =>
      rw [Forest.descend_eq isMethod _ (Nat.ne_of_lt (Hierarchy.parent_lt isInner))]
      exact ⟨rfl, rfl⟩
  | _ => exact ⟨rfl, rfl⟩

theorem Moves.exceptions_eq (moves : Moves settings kinds before after)
    (keeps : .register ∉ kinds) :
    after.exceptions = before.exceptions ∧ after.enums = before.enums := by
  induction moves with
  | refl => exact ⟨rfl, rfl⟩
  | tail _ last ih =>
      obtain ⟨kind, allowed, move⟩ := last
      obtain ⟨exceptions, enums⟩ := move.exceptions_eq fun registers => keeps (registers ▸ allowed)
      exact ⟨exceptions.trans ih.1, enums.trans ih.2⟩

/-- Enums come with the exceptions derived from them, and no move takes either away. -/
theorem Move.exceptions_cases (move : Move settings kind before after) :
    (after.exceptions = before.exceptions ∧ after.enums = before.enums) ∨
      ∃ enums, after.exceptions =
          before.exceptions ++ Throwing.deriveExceptions settings enums ∧
        after.enums = before.enums ++ enums := by
  by_cases registers : kind = .register
  · subst registers
    cases move with
    | register enums => exact .inr ⟨enums, rfl, rfl⟩
  · exact .inl (move.exceptions_eq registers)

theorem Step.throws_of_quiet {function changed : Function}
    (step : Step settings kind function changed) (quiet : kind ∈ quietKinds) :
    changed.throws = function.throws := by
  cases step with
  | descend leading marked => rfl
  | edit edited =>
      cases edited with
      | convertError => exact absurd rfl quiet.2
      | promote accessor found => exact Sizing.throws_promote
      | dropSuccess => exact Accessors.throws_dropSuccess
      | _ => rfl

namespace Forest.Binds

/-- Functions that throw nothing may be added. -/
theorem append (binds : before.Binds dropped) (sound : after.Sound) {functions : List Function}
    (sameExceptions : after.exceptions = before.exceptions) (sameEnums : after.enums = before.enums)
    (appended : after.functions = before.functions ++ functions)
    (quiet : ∀ function ∈ functions, function.throws = none) : after.Binds dropped where
  sound := sound
  enums := by
    rw [sameExceptions, sameEnums]
    exact binds.enums
  throws := by
    intro id present name isThrown
    rw [sameExceptions]
    rcases Nat.lt_or_ge id before.functionCount with old | isNew
    · have same : after.functionAt id = before.functionAt id := by
        rw [functionAt, appended, List.getElem?_append_left old]
        rfl
      exact binds.throws id old name (same ▸ isThrown)
    · obtain ⟨position, rfl⟩ := Nat.exists_eq_add_of_le isNew
      have counted : after.functionCount = before.functionCount + functions.length := by
        rw [functionCount, appended, List.length_append]
        rfl
      have valid : position < functions.length :=
        Nat.lt_of_add_lt_add_left (Nat.lt_of_lt_of_eq present counted)
      have added : after.functionAt (before.functionCount + position) = functions[position] := by
        rw [functionCount, functionAt_of_append appended, List.getElem?_eq_getElem valid]
        rfl
      rw [added, quiet _ (List.getElem_mem valid)] at isThrown
      cases isThrown

theorem move (binds : before.Binds dropped) (move : Move settings kind before after)
    (quiet : kind ∈ quietKinds) : after.Binds dropped where
  sound := move.sound binds.sound
  enums := by
    rcases move.exceptions_cases with ⟨exceptions, enums⟩ | ⟨added, exceptions, enums⟩
    · rw [exceptions, enums]
      exact binds.enums
    · intro exception member
      rw [exceptions, List.mem_append] at member
      rw [enums]
      rcases member with old | derived
      · obtain ⟨enumeration, isThere, named⟩ := binds.enums exception old
        exact ⟨enumeration, List.mem_append_left _ isThere, named⟩
      · obtain ⟨enumeration, isThere, named⟩ := Throwing.exists_of_mem_deriveExceptions derived
        exact ⟨enumeration, List.mem_append_right _ isThere, named⟩
  throws := by
    intro id present name isThrown
    have old : id < before.functionCount := by
      rw [move.functionCount_eq, quiet.1] at present
      exact present
    have same : (after.functionAt id).throws = (before.functionAt id).throws := by
      rcases move.functionAt_step old with same | step
      · rw [same]
      · exact step.throws_of_quiet quiet
    obtain ⟨exception, isThere, rest⟩ := binds.throws id old name (same ▸ isThrown)
    refine ⟨exception, ?_, rest⟩
    rcases move.exceptions_cases with ⟨exceptions, -⟩ | ⟨added, exceptions, -⟩
    · exact exceptions ▸ isThere
    · exact exceptions ▸ List.mem_append_left _ isThere

theorem moves (binds : before.Binds dropped) (moves : Moves settings kinds before after)
    (quiet : kinds ⊆ quietKinds) : after.Binds dropped := by
  refine (moves.preserves (·.Binds dropped) binds.sound binds ?_).2
  exact fun allowed move _ binds => binds.move move (quiet allowed)

theorem mono {more : FunctionId → Exception → Prop} (binds : forest.Binds dropped)
    (within : ∀ id exception, dropped id exception → more id exception) : forest.Binds more where
  sound := binds.sound
  enums := binds.enums
  throws := by
    intro id present name isThrown
    obtain ⟨exception, isThere, named, isDropped⟩ := binds.throws id present name isThrown
    exact ⟨exception, isThere, named, within id exception isDropped⟩

end Forest.Binds

theorem Forest.binds_empty : Forest.empty.Binds dropped where
  sound := sound_empty
  enums := by simp [empty]
  throws := fun _ present => absurd present (Nat.not_lt_zero _)

/-! ## Passes -/

namespace Pass

/-- Whether exceptions are still bound after a pass, wherever the pass ends. -/
def Binds (dropped : FunctionId → Exception → Prop) (pass : Pass) : Prop :=
  ∀ draft : Draft, draft.forest.Binds dropped → (reached (pass draft)).forest.Binds dropped

theorem Binds.run {passes : List Pass} (each : ∀ pass ∈ passes, pass.Binds dropped) :
    (Pass.run passes).Binds dropped :=
  fun _ binds => kept_run each binds

theorem Makes.binds {pass : Pass} (makes : pass.Makes settings kinds) (quiet : kinds ⊆ quietKinds) :
    pass.Binds dropped :=
  fun draft binds => binds.moves (makes draft binds.sound) quiet

/-- A pass that adds functions that throw nothing, and keeps the enums and exceptions. -/
theorem Makes.binds_append {step : Draft → Draft} (makes : (Pass.ofTotal step).Makes settings kinds)
    (keeps : .register ∉ kinds) {functions : List Function}
    (quiet : ∀ function ∈ functions, function.throws = none)
    (appends : ∀ draft, (step draft).forest.functions = draft.forest.functions ++ functions) :
    (Pass.ofTotal step).Binds dropped := by
  intro draft binds
  have moves := makes draft binds.sound
  have kept := moves.exceptions_eq keeps
  exact binds.append (moves.sound binds.sound) kept.1 kept.2 (appends draft) quiet

end Pass

namespace Conversion

variable {rootClass : String} {header : HeaderDeclarations}

/-- What is done for a header after its error parameters are converted. -/
def laterPasses (settings : Settings) (rootClass : String) (header : HeaderDeclarations) :
    List Pass :=
  Grouping.passes header.structs rootClass settings
  ++ [ Pass.ofTotal fun draft => (Listeners.extract settings header.typedefs draft).1,
    Pass.ofTotal (NumberHandles.convertLeftoverParameters settings) ]
  ++ Sizing.passes settings
  ++ [ Pass.ofTotal (Corrections.retypeHandleReturns settings),
    Pass.ofTotal (Corrections.extractInitializers settings) ]
  ++ Accessors.passes settings
  ++ [ Pass.ofTotal (Corrections.applyRenames settings),
    Pass.ofTotal (noteDone header) ]

theorem passes_eq_laterPasses (settings : Settings) (rootClass : String)
    (header : HeaderDeclarations) :
    passes settings rootClass header =
      takePasses settings rootClass header ++
        (Throwing.convertErrorParameters settings :: laterPasses settings rootClass header) :=
  rfl

theorem binds_takeFunctions (declarations : List FunctionDeclaration) :
    (Pass.ofTotal (takeFunctions settings declarations)).Binds dropped := by
  have quiet : ∀ function ∈ Intake.functions settings declarations, function.throws = none := by
    intro function member
    obtain ⟨declaration, -, rfl⟩ := List.mem_map.1 member
    rfl
  refine (makes_takeFunctions settings declarations).binds_append (by simp) quiet fun draft => ?_
  rw [takeFunctions, Forest.forest_addFree, forest_foldl_note]
  rfl

theorem binds_extract (typedefs : List TypedefDeclaration) :
    (Pass.ofTotal fun draft => (Listeners.extract settings typedefs draft).1).Binds dropped := by
  refine (Listeners.makes_extract settings typedefs).binds_append (by simp) (fun function => ?_)
    fun draft => functions_extract
  intro member
  obtain ⟨signature, -, rfl⟩ := List.mem_map.1 member
  rfl

theorem binds_of_mem_takePasses :
    ∀ pass ∈ takePasses settings rootClass header, pass.Binds dropped := by
  simp only [takePasses, List.forall_mem_cons]
  refine ⟨fun _ binds => binds, ?_, binds_takeFunctions header.functions, List.forall_mem_nil _⟩
  exact (makes_takeEnums settings header.enums).binds (by simp [quietKinds, MoveKind.adds])

theorem binds_of_mem_laterPasses :
    ∀ pass ∈ laterPasses settings rootClass header, pass.Binds dropped := by
  simp only [laterPasses, Grouping.passes, Sizing.passes, Accessors.passes, List.cons_append,
    List.nil_append, List.forall_mem_cons]
  refine ⟨?_, ?_, ?_, ?_, ?_, binds_extract header.typedefs, ?_, ?_, ?_, ?_, ?_, ?_, ?_, ?_, ?_,
    ?_, ?_, ?_, ?_, ?_, fun _ binds => binds, List.forall_mem_nil _⟩
  · exact (Hoisting.makes_hoistAllocators settings header.structs).binds
      (by simp [quietKinds, MoveKind.adds, Set.insert_subset_iff])
  · exact (Hoisting.makes_hoistStructFunctions settings header.structs).binds
      (by simp [quietKinds, MoveKind.adds, Set.insert_subset_iff])
  · exact (Hoisting.makes_hoistLeftovers settings rootClass).binds
      (by simp [quietKinds, MoveKind.adds, Set.insert_subset_iff])
  · exact (Grouping.makes_stripRootPrefixes settings).binds (by simp [quietKinds, MoveKind.adds])
  · exact (Grouping.makes_settleHandles settings).binds
      (by simp [NumberHandles.roundKinds, quietKinds, MoveKind.adds, Set.insert_subset_iff])
  · exact (NumberHandles.makes_convertLeftoverParameters settings).binds
      (by simp [quietKinds, MoveKind.adds])
  · exact (Sizing.makes_resolveReturns settings).binds
      (by simp [quietKinds, MoveKind.adds, Set.insert_subset_iff])
  · exact (Sizing.makes_resolveFilledBuffers settings).binds
      (by simp [quietKinds, MoveKind.adds, Set.insert_subset_iff])
  · exact (Sizing.makes_resolveSetters settings).binds
      (by simp [quietKinds, MoveKind.adds, Set.insert_subset_iff])
  · exact (Sizing.makes_resolveOverrides settings).binds (by simp [quietKinds, MoveKind.adds])
  · exact (Sizing.makes_pairParameters settings).binds (by simp [quietKinds, MoveKind.adds])
  · exact (Sizing.makes_resolveResiduals settings).binds (by simp [quietKinds, MoveKind.adds])
  · exact (Corrections.makes_retypeHandleReturns settings).binds
      (by simp [quietKinds, MoveKind.adds])
  · exact (Corrections.makes_extractInitializers settings).binds
      (by simp [quietKinds, MoveKind.adds])
  · exact (Accessors.makes_foldAccessors settings).binds
      (by simp [quietKinds, MoveKind.adds, Set.insert_subset_iff])
  · exact (Accessors.makes_dropSuccessReturns settings).binds (by simp [quietKinds, MoveKind.adds])
  · exact (Accessors.makes_foldStatics settings).binds
      (by simp [quietKinds, MoveKind.adds, Set.insert_subset_iff])
  · exact (Accessors.makes_foldForcedProperties settings).binds
      (by simp [quietKinds, MoveKind.adds, Set.insert_subset_iff])
  · exact (Corrections.makes_applyRenames settings).binds
      (by simp [quietKinds, MoveKind.adds, Set.insert_subset_iff])

/-- Converting error parameters binds the functions that lose theirs, and leaves the others bound
as they are. -/
theorem binds_convertErrorParameters (binds : draft.forest.Binds dropped)
    (ends : reached (Throwing.convertErrorParameters settings draft) = final)
    (drops : ∀ id ∈ draft.forest.free, ∀ exception,
      Throwing.Drops settings exception (draft.forest.functionAt id)
        (final.forest.functionAt id) → dropped id exception) :
    final.forest.Binds dropped := by
  have moves := Throwing.makes_convertErrorParameters settings draft binds.sound
  rw [ends] at moves
  obtain ⟨exceptions, enums⟩ := moves.exceptions_eq (by simp)
  refine ⟨moves.sound binds.sound, ?_, ?_⟩
  · rw [exceptions, enums]
    exact binds.enums
  · intro id present name isThrown
    rw [moves.functionCount_eq (by simp [MoveKind.adds])] at present
    rw [exceptions]
    rcases Throwing.drops_foldlM binds.sound.free_nodup
        (fun _ isFree => binds.sound.lt_of_mem_free isFree) ends id with
      same | ⟨isFree, exception, isThere, isDropped⟩
    · exact binds.throws id present name (same ▸ isThrown)
    · rw [isDropped.throws_eq] at isThrown
      exact ⟨exception, isThere, Option.some.inj isThrown, drops id isFree exception isDropped⟩

/-- Whether, among the given headers, there is one in which converting error parameters took away
one of the function, which was free when it was its turn, for the exception. -/
def Dropped (settings : Settings) (headers : List HeaderDeclarations) (id : FunctionId)
    (exception : Exception) : Prop :=
  ∃ front header rootClass, front ++ [header] <+: headers ∧
    id ∈ (takeIn settings rootClass header (goOn settings front {})).forest.free ∧
    Throwing.Drops settings exception
      ((takeIn settings rootClass header (goOn settings front {})).forest.functionAt id)
      ((reached (Throwing.convertErrorParameters settings
        (takeIn settings rootClass header (goOn settings front {})))).forest.functionAt id)

theorem Dropped.mono {fewer more : List HeaderDeclarations} {exception : Exception}
    (isDropped : Dropped settings fewer id exception) (isFront : fewer <+: more) :
    Dropped settings more id exception := by
  obtain ⟨front, header, rootClass, within, drops⟩ := isDropped
  exact ⟨front, header, rootClass, within.trans isFront, drops⟩

variable (rootClass header) in
/-- Some passes of a header, after headers that left all bound. -/
theorem binds_take {front : List HeaderDeclarations}
    (binds : (goOn settings front {}).forest.Binds (Dropped settings front)) (count : Nat) :
    (between settings front rootClass header count).forest.Binds
      (Dropped settings (front ++ [header])) := by
  have start := binds.mono fun _ _ isDropped => isDropped.mono (List.prefix_append front [header])
  rw [between, passes_eq_laterPasses, List.take_append]
  cases rest : count - (takePasses settings rootClass header).length with
  | zero =>
      rw [List.take_zero, List.append_nil]
      exact Pass.Binds.run (fun pass member =>
        binds_of_mem_takePasses pass (List.mem_of_mem_take member)) _ start
  | succ later =>
      have whole : (takePasses settings rootClass header).length ≤ count := by omega
      have taken := Pass.Binds.run
        (@binds_of_mem_takePasses settings (Dropped settings (front ++ [header])) rootClass header)
        _ start
      rw [run_takePasses] at taken
      rw [List.take_of_length_le whole, List.take_succ_cons, Pass.run_append, run_takePasses]
      change (reached (Throwing.convertErrorParameters settings _ >>= Pass.run _)).forest.Binds _
      refine reached_bind ?_ (Pass.Binds.run fun pass member =>
        binds_of_mem_laterPasses pass (List.mem_of_mem_take member))
      refine binds_convertErrorParameters taken rfl fun id isFree exception drops => ?_
      exact ⟨front, header, rootClass, List.prefix_refl _, isFree, drops⟩

theorem binds_goOn (headers : List HeaderDeclarations) :
    (goOn settings headers {}).forest.Binds (Dropped settings headers) := by
  induction headers using List.reverseRecOn with
  | nil => exact Forest.binds_empty
  | append_singleton front header ih =>
      rw [goOn, List.foldl_concat, ← goOn, processHeader]
      cases settings.rootClass? header.file with
      | none =>
          exact ih.mono fun _ _ isDropped => isDropped.mono (List.prefix_append front [header])
      | some rootClass =>
          have all := binds_take rootClass header ih
            (passes settings rootClass header).length
          rw [between, List.take_length] at all
          exact all

/-- After any headers, those that failed included, and between any two passes of one more, every
exception stands for an enum of the forest, and every function that throws does so by one of the
exceptions, whose enum is the type of an error parameter that was dropped from the function. -/
theorem binds_goOn_and_between (settings : Settings) (headers : List HeaderDeclarations)
    (rootClass : String) (header : HeaderDeclarations) (count : Nat) :
    (goOn settings headers {}).forest.Binds (Dropped settings headers) ∧
      (between settings headers rootClass header count).forest.Binds
        (Dropped settings (headers ++ [header])) := by
  have before : (goOn settings headers {}).forest.Binds _ := binds_goOn headers
  exact ⟨before, binds_take rootClass header before count⟩

end Conversion

end Bindery
