import Bindery.Proofs.Seats

/-!
# Marked parameters

Number handles that are left among the parameters of methods become references in one pass, which
takes the marker off the name of each of them once.  Allocators and deallocators are no methods by
then and keep their parameters as they were declared, and a name that ends in the marker twice over
still ends in it afterwards.  No later pass gives a plain parameter another name.
-/

namespace Bindery

variable {settings : Settings} {kind : MoveKind} {kinds : Set MoveKind} {draft final : Draft}
  {before after forest : Forest} {c : ClassId} {id : FunctionId} {slot : Slot}

namespace NumberHandles

/-- Only a name that ends in the marker twice over still ends in it when it is taken off. -/
theorem endsWith_referTo (parameter : Parameter) :
    Text.endsWith (referTo settings parameter).name settings.markers.numberHandle =
      Text.endsWith parameter.name
        (settings.markers.numberHandle ++ settings.markers.numberHandle) := by
  rw [Bool.eq_iff_iff, Text.endsWith_iff, Text.endsWith_iff, String.toList_append, referTo]
  cases found : Text.dropSuffix? parameter.name settings.markers.numberHandle with
  | some base =>
      rw [Text.dropSuffix?_eq_some found, String.toList_append]
      exact List.suffix_append_self_iff.symm
  | none =>
      have unmarked := Text.not_suffix_of_dropSuffix?_eq_none found
      exact ⟨fun marked => absurd marked unmarked,
        fun marked => absurd ((List.suffix_append _ _).trans marked) unmarked⟩

end NumberHandles

/-! ## Loops that rewrite every method -/

theorem functionAt_foldl_modify {change : Function → Function} {ids : List FunctionId}
    (different : ids.Nodup) (present : id < draft.forest.functionCount) :
    (ids.foldl (fun draft id => draft.modifyFunction id change) draft).forest.functionAt id =
      if id ∈ ids then change (draft.forest.functionAt id) else draft.forest.functionAt id := by
  induction ids generalizing draft with
  | nil => rfl
  | cons first rest ih =>
      obtain ⟨fresh, different⟩ := List.nodup_cons.1 different
      have still : id < (draft.modifyFunction first change).forest.functionCount := by
        rwa [Draft.forest_modifyFunction, Forest.functionCount_modifyFunction]
      rw [List.foldl_cons, ih different still, Draft.forest_modifyFunction]
      by_cases same : id = first
      · subst same
        rw [if_neg fresh, if_pos List.mem_cons_self, Forest.functionAt_modifyFunction_self present]
      · rw [Forest.functionAt_modifyFunction_of_ne same]
        simp only [List.mem_cons, same, false_or]

theorem forEachMethod_modify_eq (change : Function → Function) (draft : Draft) :
    (draft.forEachMethod fun _ id draft => draft.modifyFunction id change) =
      (draft.forest.allClasses.flatMap draft.forest.methods).foldl
        (fun draft id => draft.modifyFunction id change) draft := by
  have methods (ids : List FunctionId) (draft : Draft) : (ids.foldl
      (fun draft id => draft.modifyFunction id change) draft).forest.methods =
        draft.forest.methods := by
    induction ids generalizing draft with
    | nil => rfl
    | cons first rest ih => exact ih _
  have loop (classes : List ClassId) (draft : Draft) :
      classes.foldl (fun draft c => (draft.forest.methods c).foldl
          (fun draft id => draft.modifyFunction id change) draft) draft =
        (classes.flatMap draft.forest.methods).foldl
          (fun draft id => draft.modifyFunction id change) draft := by
    induction classes generalizing draft with
    | nil => rfl
    | cons c rest ih =>
        rw [List.foldl_cons, ih, List.flatMap_cons, List.foldl_append, methods]
  exact loop _ draft

/-- A loop that rewrites every method comes to each of them once. -/
theorem functionAt_forEachMethod_modify {change : Function → Function} (sound : draft.forest.Sound)
    (isMethod : id ∈ draft.forest.methods c) :
    (draft.forEachMethod fun _ id draft => draft.modifyFunction id change).forest.functionAt id =
      change (draft.forest.functionAt id) := by
  have member : id ∈ draft.forest.allClasses.flatMap draft.forest.methods := List.mem_flatMap.2
    ⟨c, Hierarchy.mem_all_iff.2 (Forest.lt_size_of_mem_methods isMethod), isMethod⟩
  have distinct := sound.methodsDistinct.nodup_allMethods
  rw [forEachMethod_modify_eq, functionAt_foldl_modify distinct (sound.lt_of_mem_methods isMethod),
    if_pos member]

/-! ## Single parameters -/

/-- The parameter without the accessor of its size. -/
def Parameter.unsized (parameter : Parameter) : Parameter :=
  { parameter with type := { parameter.type with sizeAccessor := none } }

/-- What is the same parameter but for its size stems from it. -/
theorem Parameter.stems_of_unsized_eq {former parameter : Parameter}
    (same : parameter.unsized = former.unsized) : former.Stems settings parameter := by
  obtain ⟨name, type⟩ := parameter
  obtain ⟨formerName, formerType⟩ := former
  obtain ⟨rfl, sameType⟩ : name = formerName ∧
      { type with sizeAccessor := none } = { formerType with sizeAccessor := none } := by
    simpa [unsized] using same
  have restored : type = { formerType with sizeAccessor := type.sizeAccessor } := by
    cases type
    cases formerType
    simpa using sameType
  rw [restored]
  exact .sized ⟨name, formerType⟩ _

namespace Parameter.Stems

variable {declared current : Parameter}

theorem referTo (parameter : Parameter) :
    parameter.Stems settings (NumberHandles.referTo settings parameter) := by
  rw [NumberHandles.referTo]
  split
  · rename_i base isBase
    exact .asReference isBase
  · exact .refl _

/-- What ends in the marker twice over did so when it was declared. -/
theorem endsWith_twice (stems : declared.Stems settings current)
    (marked : Text.endsWith current.name
      (settings.markers.numberHandle ++ settings.markers.numberHandle) = true) :
    Text.endsWith declared.name
      (settings.markers.numberHandle ++ settings.markers.numberHandle) = true := by
  obtain ⟨count, isName⟩ := stems.name
  rw [Text.endsWith_iff, String.toList_append] at marked ⊢
  obtain ⟨front, isCurrent⟩ := marked
  generalize settings.markers.numberHandle.toList = marker at isName isCurrent ⊢
  -- the markers that the name has lost follow those that it still has
  have turned : marker ++ marker ++ (List.replicate count marker).flatten =
      (List.replicate count marker).flatten ++ (marker ++ marker) := by
    have pair : (List.replicate 2 marker).flatten = marker ++ marker := by simp
    rw [← pair, ← List.flatten_append, ← List.flatten_append, ← List.replicate_add,
      ← List.replicate_add, Nat.add_comm]
  exact ⟨front ++ (List.replicate count marker).flatten, by
    rw [isName, ← isCurrent, List.append_assoc front, ← turned, List.append_assoc front]⟩

end Parameter.Stems

theorem Argument.plain?_eq_some_iff {argument : Argument} {parameter : Parameter} :
    argument.plain? = some parameter ↔ argument = .plain parameter := by
  cases argument with
  | plain declared => simp [plain?]
  | buffer data length => simp [plain?]

/-! ## Parameters through steps -/

section Relates

variable {Relates : Parameter → Parameter → Prop} (refl : ∀ parameter, Relates parameter parameter)
  (sized : ∀ parameter sizeAccessor,
    Relates parameter { parameter with type := { parameter.type with sizeAccessor } })

include refl sized

theorem Moves.traces (moves : Moves settings kinds before after)
    (present : id < before.functionCount)
    (trans : ∀ former between parameter, Relates former between → Relates between parameter →
      Relates former parameter)
    (refers : .edit .refer ∈ kinds → ∀ {parameter base},
      Text.dropSuffix? parameter.name settings.markers.numberHandle = some base →
      Relates parameter (NumberHandles.asReference base parameter)) :
    Traces Relates (before.functionAt id).params (after.functionAt id).params :=
  moves.functionAt_induction (fun function => Traces Relates (before.functionAt id).params
      function.params) present (.ofSubset refl (List.Subset.refl _))
    fun allowed step traced =>
      traced.trans trans (step.traces refl sized fun same => refers (same ▸ allowed))

end Relates

namespace Moves

variable (moves : Moves settings kinds before after) (present : id < before.functionCount)

include moves present

theorem traces_stems :
    Traces (Parameter.Stems settings) (before.functionAt id).params (after.functionAt id).params :=
  moves.traces .refl .sized present (@Parameter.Stems.trans settings) fun _ => .asReference

/-- Where nothing becomes a reference, parameters stay as they are but for their sizes. -/
theorem traces_unsized (refers : .edit .refer ∉ kinds) :
    Traces (fun former parameter => parameter.unsized = former.unsized)
      (before.functionAt id).params (after.functionAt id).params :=
  moves.traces (fun _ => rfl) (fun _ _ => rfl) present
    (fun _ _ _ first second => second.trans first) fun allowed => absurd allowed refers

end Moves

namespace Conversion

open Hoisting

/-- Everything that is done for a header before number handles that are left become references. -/
def beforeReferences (settings : Settings) (rootClass : String) (header : HeaderDeclarations) :
    List Pass :=
  takePasses settings rootClass header ++ (Throwing.convertErrorParameters settings ::
    (hoistPasses settings rootClass header ++ (handlePasses settings ++
      [Pass.ofTotal (fun draft => (Listeners.extract settings header.typedefs draft).1)])))

/-- What the parameters of the functions of a header are before methods move on: those that C
declares, without the error and without the object.  Listeners keep all of theirs. -/
def placements (settings : Settings) (header : HeaderDeclarations) : List (List Argument) :=
  (Intake.functions settings header.functions).map
      (fun function =>
        withoutObject header.structs settings (Throwing.withoutError settings function))
    ++ (callbacks settings header).map fun signature => (signature.intake settings).params

theorem length_placements (header : HeaderDeclarations) :
    (placements settings header).length = (arrivals settings header).length := by
  simp [placements, arrivals, callbacks]

variable {headers done : List HeaderDeclarations} {rootClass : String} {header : HeaderDeclarations}
  {start : Draft} {params current : List Argument} {position : Nat}

/-- Whether parameters are those of a method at the time when references were made, and came from
the given ones by then. -/
def Referred (settings : Settings) (headers : List HeaderDeclarations) (id : FunctionId)
    (params current : List Argument) : Prop :=
  ∃ origin c, After (beforeReferences settings) settings headers origin ∧
    id ∈ origin.forest.methods c ∧
    Traces (Parameter.Stems settings) params (origin.forest.functionAt id).params ∧
    Traces (fun former parameter =>
        parameter.unsized = (NumberHandles.referTo settings former).unsized)
      (origin.forest.functionAt id).params current

namespace Referred

theorem append (referred : Referred settings done id params current)
    (more : List HeaderDeclarations) : Referred settings (done ++ more) id params current := by
  obtain ⟨origin, c, after, known⟩ := referred
  exact ⟨origin, c, after.append more, known⟩

theorem stems (referred : Referred settings headers id params current) :
    Traces (Parameter.Stems settings) params current := by
  obtain ⟨origin, c, -, -, declared, refers⟩ := referred
  exact declared.trans (fun _ _ _ stems same =>
    (stems.trans (.referTo _)).trans (Parameter.stems_of_unsized_eq same)) refers

end Referred

namespace Course

variable (course : Course settings rootClass header start final)

theorem run_listened :
    Pass.run (beforeReferences settings rootClass header) start = .ok course.listened := by
  have listens : Pass.ofTotal (fun draft => (Listeners.extract settings header.typedefs draft).1)
      course.placed = .ok course.listened := rfl
  have heard := Pass.run_append_of_ok course.places
    (Pass.run_cons_of_ok listens (Pass.run_nil _))
  have formed := Pass.run_append_of_ok (run_hoistPasses _ _ _ _) heard
  exact Pass.run_append_of_ok (run_takePasses _ _ _ _) (Pass.run_cons_of_ok course.converts formed)

variable (sound : start.forest.Sound)

include sound

/-- What is left of the parameters of a declared function when functions have been hoisted. -/
theorem params_hoisted {declared : Function} (accounted : Accounted settings done start)
    (isDeclared : (Intake.functions settings header.functions)[position]? = some declared) :
    start.forest.functionCount + position ∈ course.converted.forest.free ∧
      (course.hoisted.forest.functionAt (start.forest.functionCount + position)).params =
        withoutObject header.structs settings (Throwing.withoutError settings declared) := by
  obtain ⟨isFree, throws, isFunction⟩ := course.converted_at accounted.free isDeclared
  obtain ⟨declaration, -, rfl⟩ := List.mem_map.1 (List.mem_of_getElem? isDeclared)
  have hoisted := course.functionAt_hoisted sound accounted.roots isFree isFunction
  rw [place_eq] at hoisted
  exact ⟨isFree, congrArg Function.params hoisted⟩

theorem moves_unreferring :
    Moves settings {kind | kind ≠ .edit .refer}
      (NumberHandles.convertLeftoverParameters settings course.listened).forest final.forest := by
  obtain ⟨referred, refers, returns⟩ := Pass.run_cons_ok course.handles
  obtain rfl := Except.ok.inj refers
  obtain ⟨handled, returns, last⟩ := Pass.run_cons_ok returns
  obtain rfl := Except.ok.inj last
  have soundReferred := (NumberHandles.makes_convertLeftoverParameters settings).sound_ofTotal
    (course.sound_listened sound)
  apply Moves.trans (((Sizing.makes_resolveReturns settings).ok returns soundReferred).mono _)
  apply Moves.trans ((course.moves_initialized_of_handled sound).mono _)
  apply (course.moves_final sound).mono _
  all_goals simp [promoteKinds, sizeKinds, memberKinds, Set.subset_def]

/-- The parameters of a method become references once. -/
theorem traces_referTo (isMethod : id ∈ course.listened.forest.methods c) :
    Traces (fun former parameter =>
        parameter.unsized = (NumberHandles.referTo settings former).unsized)
      (course.listened.forest.functionAt id).params (final.forest.functionAt id).params := by
  have soundListened := course.sound_listened sound
  have moves := NumberHandles.makes_convertLeftoverParameters settings _ soundListened
  have present := Nat.lt_of_lt_of_le (soundListened.lt_of_mem_methods isMethod)
    moves.functionCount_le
  have later := (course.moves_unreferring sound).traces_unsized present (by simp)
  rw [NumberHandles.convertLeftoverParameters,
    functionAt_forEachMethod_modify soundListened isMethod] at later
  exact (Traces.map _ _).trans
    (fun _ _ _ same last => last.trans (congrArg Parameter.unsized same)) later

end Course

/-! ## Whole runs -/

/-- What is known of the parameters of a function after some headers, once it has a slot. -/
def ParamsKnown (settings : Settings) (headers : List HeaderDeclarations) (params : List Argument)
    (id : FunctionId) (forest : Forest) : Prop :=
  ∀ slot, (id, slot) ∈ forest.owners → slot ≠ .free ∧
    (slot.isRootSlot = true → (forest.functionAt id).params = params) ∧
    (slot.isRootSlot = false → Referred settings headers id params (forest.functionAt id).params)

section Turn

variable (turn : Turn settings done header rootClass start final)

include turn

/-- A method takes part in the making of references. -/
theorem paramsKnown_of_listened (course : Course settings rootClass header start final)
    (present : id < course.listened.forest.functionCount)
    (methods : ∀ slot, (id, slot) ∈ course.listened.forest.owners → ∃ c, slot = .method c)
    (declared : Traces (Parameter.Stems settings) params
      (course.listened.forest.functionAt id).params) :
    ParamsKnown settings (done ++ [header]) params id final.forest := by
  intro slot owned
  have sound := turn.sound
  obtain ⟨old, wasOwned, keeps⟩ := (course.moves_listened_final sound).slot_before present owned
  obtain ⟨c, rfl⟩ := methods old wasOwned
  obtain ⟨notFree, notRoot⟩ := keeps nofun
  have isMethod := Forest.mem_methods_of_mem_owners wasOwned
  refine ⟨notFree, fun isRoot => ?_, fun _ => ⟨course.listened, c, turn.after course.run_listened,
    isMethod, declared, course.traces_referTo sound isMethod⟩⟩
  rw [notRoot] at isRoot
  cases isRoot

theorem paramsKnown_old (present : id < start.forest.functionCount)
    (known : ParamsKnown settings done params id start.forest) :
    ParamsKnown settings (done ++ [header]) params id final.forest := by
  obtain ⟨course, -⟩ := exists_course turn.finished
  have sound := turn.sound
  by_cases isMethod : ∃ c, id ∈ start.forest.methods c
  · obtain ⟨c, isMethod⟩ := isMethod
    have moves := course.moves_roaming sound
    obtain ⟨-, -, referred⟩ := known _ (Forest.mem_owners_of_method isMethod)
    exact paramsKnown_of_listened turn course (Nat.lt_of_lt_of_le present moves.functionCount_le)
      (moves.staysMethod (Set.Subset.refl _) sound isMethod)
      ((referred rfl).stems.trans (@Parameter.Stems.trans settings) (moves.traces_stems present))
  · intro slot owned
    obtain ⟨old, wasOwned, keeps⟩ := (course.moves_final_of_start sound).slot_before present owned
    obtain ⟨notFree, root, inner⟩ := known old wasOwned
    obtain ⟨stillNotFree, same⟩ := keeps notFree
    have rests : start.forest.Rests id := ⟨present, by simp [turn.accounted.free],
      fun c member => isMethod ⟨c, member⟩⟩
    rw [same, (rests_of_finished sound rests turn.finished).2.function]
    exact ⟨stillNotFree, root, fun notRoot => (inner notRoot).append _⟩

theorem paramsKnown_function {declared : Function}
    (isDeclared : (Intake.functions settings header.functions)[position]? = some declared) :
    ParamsKnown settings (done ++ [header])
      (withoutObject header.structs settings (Throwing.withoutError settings declared))
      (start.forest.functionCount + position) final.forest := by
  obtain ⟨course, -⟩ := exists_course turn.finished
  have sound := turn.sound
  obtain ⟨isFree, params⟩ := course.params_hoisted sound turn.accounted isDeclared
  generalize start.forest.functionCount + position = id at isFree params ⊢
  have present := course.present_hoisted sound isFree
  by_cases isMethod : ∃ c, id ∈ course.hoisted.forest.methods c
  · obtain ⟨c, isMethod⟩ := isMethod
    have moves := (course.moves_listened_of_hoisted sound).mono
      (show handleKinds ∪ {.listen} ⊆ roamingKinds by
        simp [roamingKinds, handleKinds, Set.subset_def])
    exact paramsKnown_of_listened turn course
      (Nat.lt_of_lt_of_le present moves.functionCount_le)
      (moves.staysMethod (Set.Subset.refl _) (course.sound_hoisted sound) isMethod)
      (params ▸ moves.traces_stems present)
  · intro slot owned
    have noMethod : course.hoisted.forest.NoMethod id := fun c member => isMethod ⟨c, member⟩
    obtain ⟨notFree, isRoot⟩ := course.slot_final_of_noMethod sound isFree noMethod owned
    obtain ⟨-, spares⟩ := course.rests_final sound
      (course.rests_of_noMethod sound isFree noMethod)
    refine ⟨notFree, fun _ => ?_, fun notRoot => ?_⟩
    · rw [spares.function, params]
    · rw [isRoot] at notRoot
      cases notRoot

theorem paramsKnown_listener {signature : FunctionDeclaration}
    (isCallback : (callbacks settings header)[position]? = some signature) :
    ParamsKnown settings (done ++ [header]) (signature.intake settings).params
      (start.forest.functionCount +
        ((Intake.functions settings header.functions).length + position))
      final.forest := by
  obtain ⟨course, -⟩ := exists_course turn.finished
  have sound := turn.sound
  obtain ⟨present, isListener⟩ := course.functionAt_listened isCallback
  rw [← Nat.add_assoc, ← course.functionCount_placed sound]
  have methods := (course.moves_listened sound).slot_of_listen (course.sound_placed sound)
    (Nat.le_add_right _ position)
  refine paramsKnown_of_listened turn course present methods ?_
  rw [isListener]
  exact .ofSubset .refl (List.Subset.refl _)

theorem paramsKnown_new (isParams : (placements settings header)[position]? = some params) :
    ParamsKnown settings (done ++ [header]) params (start.forest.functionCount + position)
      final.forest := by
  rcases arrival_cases isParams with ⟨declared, isDeclared, rfl⟩ |
    ⟨signature, later, isCallback, rfl, rfl⟩
  · exact paramsKnown_function turn isDeclared
  · exact paramsKnown_listener turn isCallback

end Turn

variable {declarations : DeclarationSet} {result : Result}

theorem paramsKnown_convert (converted : convert settings declarations = .ok result)
    (isParams : (declarations.headers.flatMap (placements settings))[id]? = some params) :
    ParamsKnown settings declarations.headers params id result.draft.forest :=
  @arrival_induction settings declarations result (List Argument) (placements settings)
    (ParamsKnown settings) length_placements paramsKnown_old paramsKnown_new converted id params
    isParams

/-- Functions that make or destroy objects have the parameters that C declares, whatever their names
are.  Every plain parameter of any other function was among those of a method when references were
made, and it ends in the marker exactly when it ended in it twice over by then, which it can only
do if it does so in C. -/
theorem endsWith_params_convert (converted : convert settings declarations = .ok result)
    (owned : (id, slot) ∈ result.draft.forest.owners) :
    ∃ params, (declarations.headers.flatMap (placements settings))[id]? = some params ∧
      (slot.isRootSlot = true → (result.draft.forest.functionAt id).params = params) ∧
      (slot.isRootSlot = false →
        ∀ parameter, .plain parameter ∈ (result.draft.forest.functionAt id).params →
          ∃ origin c former declared,
            After (beforeReferences settings) settings declarations.headers origin ∧
            id ∈ origin.forest.methods c ∧
            .plain former ∈ (origin.forest.functionAt id).params ∧
            parameter.unsized = (NumberHandles.referTo settings former).unsized ∧
            Text.endsWith parameter.name settings.markers.numberHandle =
              Text.endsWith former.name
                (settings.markers.numberHandle ++ settings.markers.numberHandle) ∧
            .plain declared ∈ params ∧
            (Text.endsWith parameter.name settings.markers.numberHandle = true →
              Text.endsWith declared.name
                (settings.markers.numberHandle ++ settings.markers.numberHandle) = true)) := by
  obtain ⟨params, isParams⟩ :=
    @exists_tag_of_mem_owners settings declarations result (List Argument) (placements settings)
      length_placements converted id slot owned
  obtain ⟨-, root, inner⟩ := paramsKnown_convert converted isParams slot owned
  refine ⟨params, isParams, root, fun notRoot parameter member => ?_⟩
  obtain ⟨origin, c, after, isMethod, declares, refers⟩ := inner notRoot
  obtain ⟨former, isFormer, same⟩ := refers parameter member
  obtain ⟨declared, isDeclared, stems⟩ := declares former isFormer
  have marked : Text.endsWith parameter.name settings.markers.numberHandle =
      Text.endsWith former.name
        (settings.markers.numberHandle ++ settings.markers.numberHandle) := by
    have sameName := congrArg Parameter.name same
    exact (congrArg (Text.endsWith · _) sameName).trans (NumberHandles.endsWith_referTo former)
  exact ⟨origin, c, former, declared, after, isMethod, isFormer, same, marked, isDeclared,
    fun still => stems.endsWith_twice (marked ▸ still)⟩

/-- An object that is made for a friend, and one to which friends are added. -/
def numberedTox : DeclarationSet where
  headers := [{
    file := "tox.h"
    functions := [
      { name := "tox_new"
        returnType := { name := "Tox", isPointer := true }
        parameters := [{ name := "friend_number", type := { name := "uint32_t" } }] },
      { name := "tox_add"
        returnType := { name := "void" }
        parameters := [
          { name := "tox", type := { name := "Tox", isPointer := true } },
          { name := "mode", type := { name := "uint32_t" } },
          { name := "friend_number", type := { name := "uint32_t" } }] }]
    structs := ["Tox"] }]

theorem referred_numberedTox :
    ∃ result, convert Settings.default numberedTox = .ok result ∧
      (0, .alloc 0) ∈ result.draft.forest.owners ∧
      (numberedTox.headers.flatMap (placements Settings.default))[0]? =
        some (result.draft.forest.functionAt 0).params ∧
      (1, .method 0) ∈ result.draft.forest.owners ∧
      ∃ parameter origin c former, parameter.name = "friend" ∧
        .plain parameter ∈ (result.draft.forest.functionAt 1).params ∧
        After (beforeReferences Settings.default) Settings.default numberedTox.headers origin ∧
        1 ∈ origin.forest.methods c ∧
        .plain former ∈ (origin.forest.functionAt 1).params ∧
        parameter.unsized = (NumberHandles.referTo Settings.default former).unsized := by
  obtain ⟨result, converted, known⟩ := exists_converted
    (fun result => decide ((0, .alloc 0) ∈ result.draft.forest.owners ∧
      (1, .method 0) ∈ result.draft.forest.owners ∧
      ∃ argument ∈ (result.draft.forest.functionAt 1).params,
        argument.plain?.map (·.name) = some "friend"))
    (show (convert Settings.default numberedTox).toOption.map _ = some true by decide +kernel)
  obtain ⟨allocates, isMethod, argument, member, named⟩ := of_decide_eq_true known
  obtain ⟨parameter, isPlain, isFriend⟩ := Option.map_eq_some_iff.1 named
  obtain rfl := Argument.plain?_eq_some_iff.1 isPlain
  obtain ⟨params, isParams, root, -⟩ := endsWith_params_convert converted allocates
  obtain ⟨_, _, _, inner⟩ := endsWith_params_convert converted isMethod
  obtain ⟨origin, c, former, -, after, wasMethod, isFormer, same, -⟩ := inner rfl parameter member
  exact ⟨result, converted, allocates, (root rfl).symm ▸ isParams, isMethod, parameter, origin, c,
    former, isFriend, member, after, wasMethod, isFormer, same⟩

/-- The number that the object is made from is no reference to a friend. -/
theorem marked_numberedTox :
    Settings.default.markers.numberHandle ≠ "" ∧
      ∃ result, convert Settings.default numberedTox = .ok result ∧
        (0, .alloc 0) ∈ result.draft.forest.owners ∧
        ∃ parameter, .plain parameter ∈ (result.draft.forest.functionAt 0).params ∧
          Text.endsWith parameter.name Settings.default.markers.numberHandle = true ∧
          parameter.type.containsNumberHandle = false := by
  refine ⟨by decide, ?_⟩
  obtain ⟨result, converted, known⟩ := exists_converted
    (fun result => decide ((0, .alloc 0) ∈ result.draft.forest.owners ∧
      ∃ argument ∈ (result.draft.forest.functionAt 0).params,
        argument.plain?.map (fun parameter =>
          (Text.endsWith parameter.name Settings.default.markers.numberHandle,
            parameter.type.containsNumberHandle)) = some (true, false)))
    (show (convert Settings.default numberedTox).toOption.map _ = some true by decide +kernel)
  obtain ⟨allocates, argument, member, told⟩ := of_decide_eq_true known
  obtain ⟨parameter, isPlain, isMarked⟩ := Option.map_eq_some_iff.1 told
  obtain rfl := Argument.plain?_eq_some_iff.1 isPlain
  obtain ⟨marked, noHandle⟩ := Prod.mk.inj isMarked
  exact ⟨result, converted, allocates, parameter, member, marked, noHandle⟩

end Conversion

end Bindery
