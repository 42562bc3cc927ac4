import Bindery.Proofs.Guarded.Basic
import Bindery.Proofs.Passes.Handles

/-!
# Guarded passes that form classes

The free functions that a pass comes to are there, and so is a parameter by which they are sorted.
A method that matched as one of a number handle has its handle in front when its turn comes,
because the matches before it were about other methods.
-/

namespace Bindery.Guarded

open Throwing Hoisting NumberHandles

variable {settings : Settings} {structs : List String} {draft : Draft} {id : FunctionId}

/-! ## Error parameters -/

def convertFunction (settings : Settings) (draft : Draft) (id : FunctionId) : Guarded Draft := do
  let function ← functionAt draft id
  match errorPosition? settings function with
  | none => return draft
  | some position =>
    let argument ← argumentAt function position
    let enumName := argument.type.name
    match exceptionFor? draft.forest enumName with
    | none =>
      throw <| .stopped { cause := .convention (.missingException enumName function.name), draft }
    | some exception =>
      let converted ← modifyAt draft id position fun function =>
        { function.dropParameter position with throws := some exception.name }
      return converted.note .debug s!"`{function.name}` throws `{exception.name}`"

def convertErrorParameters (settings : Settings) (draft : Draft) : Guarded Draft :=
  draft.forest.free.foldlM (convertFunction settings) draft

theorem convertFunction_eq (present : id < draft.forest.functionCount) :
    convertFunction settings draft id = follow (Throwing.convertFunction settings draft id) := by
  rw [convertFunction, Throwing.convertFunction, functionAt_eq present, ok_bind]
  dsimp only
  cases found : errorPosition? settings (draft.forest.functionAt id) with
  | none => rfl
  | some position =>
      obtain ⟨bound, -⟩ := List.findIdx?_eq_some_iff_getElem.1 found
      have isThere := List.getElem?_eq_getElem bound
      dsimp only
      rw [argumentAt_eq isThere, ok_bind, isThere]
      simp only [Option.map_some, Option.getD_some]
      cases exceptionFor? draft.forest _ with
      | none => rfl
      | some exception =>
          dsimp only
          rw [modifyAt_eq present bound, ok_bind]
          rfl

theorem convertErrorParameters_eq (sound : draft.forest.Sound) :
    convertErrorParameters settings draft =
      follow (Throwing.convertErrorParameters settings draft) := by
  refine (foldlM_eq (Ahead []) (fun draft id rest ahead => ?_) (.free sound)).1
  refine ⟨convertFunction_eq (ahead.present id List.mem_cons_self), fun next result => ?_⟩
  have moves := @moves_convertFunction settings draft id
  rw [result] at moves
  exact ahead.next (.ofMoves moves)

/-! ## Hoisting -/

def hoistAllocator (structs : List String) (settings : Settings) (draft : Draft)
    (id : FunctionId) : Guarded Draft := do
  let function ← functionAt draft id
  if !isAllocator structs settings function then return draft
  else
    let className := function.ret.type.name
    let (draft, c) ← requireClass draft none className
    let content ← classAt draft c
    if !content.holdsObject then return noteLeftFree draft className function.name
    else
      let draft ← modifyClass draft c (·.withAlloc id)
      let draft := draft.note .debug s!"`{function.name}` allocates `{className}`"
      let draft ← modifyFunction draft id fun function =>
        { function with name := settings.canonical.allocator, isStatic := true }
      return takeFree draft id

def hoistStructFunction (structs : List String) (settings : Settings) (draft : Draft)
    (id : FunctionId) : Guarded Draft := do
  let function ← functionAt draft id
  match structParameter? structs function with
  | none => return draft
  | some className =>
    let (draft, c) ← requireClass draft none className
    if isDeallocatorName settings function.name then
      let content ← classAt draft c
      if !content.holdsObject then return noteLeftFree draft className function.name
      else
        let draft ← modifyClass draft c (·.withDealloc id)
        let draft := draft.note .debug s!"`{function.name}` deallocates `{className}`"
        let draft ← modifyAt draft id 0 fun function =>
          { function.dropParameter 0 with
            name := settings.canonical.deallocator
            isStatic := true }
        return takeFree draft id
    else
      let draft ← modifyAt draft id 0 (·.dropParameter 0)
      let draft ← modifyClass draft c (·.addMethod id)
      return takeFree draft id

def hoistAllocators (structs : List String) (settings : Settings) (draft : Draft) :
    Guarded Draft :=
  draft.forest.free.foldlM (hoistAllocator structs settings) draft

def hoistStructFunctions (structs : List String) (settings : Settings) (draft : Draft) :
    Guarded Draft :=
  draft.forest.free.foldlM (hoistStructFunction structs settings) draft

def hoistLeftovers (rootClass : String) (draft : Draft) : Guarded Draft := do
  let leftovers := draft.forest.free
  let draft := draft.onForest fun forest => { forest with free := [] }
  let draft ← leftovers.foldlM (fun draft id =>
    modifyFunction draft id fun function => { function with isStatic := true }) draft
  let count := leftovers.length
  let draft := draft.note .debug s!"{count} leftover functions go to `{rootClass}`"
  let (draft, root) ← requireClass draft none rootClass
  modifyClass draft root fun c => { c with methods := c.methods ++ leftovers }

def stripClassPrefixes (classes : List ClassId) (draft : Draft) : Guarded Draft :=
  classes.foldlM (fun draft c => do
    let ids ← methods draft c
    ids.foldlM (fun draft id => do
      let name ← className draft c
      modifyFunction draft id (stripPrefix name)) draft) draft

theorem hoistAllocator_eq (present : id < draft.forest.functionCount) :
    hoistAllocator structs settings draft id =
      .ok (Hoisting.hoistAllocator structs settings draft id) := by
  rw [hoistAllocator, Hoisting.hoistAllocator, functionAt_eq present, ok_bind]
  dsimp only
  split
  · rfl
  · have isThere := @snd_requireClass_lt draft none (draft.forest.functionAt id).ret.type.name
      (by simp)
    rw [requireClass_eq _ (by simp), ok_bind, classAt_eq isThere, ok_bind]
    split
    · rfl
    · rw [modifyClass_eq isThere, ok_bind, modifyFunction_eq, ok_bind]
      · rfl
      · simpa using present

theorem hoistStructFunction_eq (present : id < draft.forest.functionCount) :
    hoistStructFunction structs settings draft id =
      .ok (Hoisting.hoistStructFunction structs settings draft id) := by
  rw [hoistStructFunction, Hoisting.hoistStructFunction, functionAt_eq present, ok_bind]
  dsimp only
  cases takes : structParameter? structs (draft.forest.functionAt id) with
  | none => rfl
  | some className =>
      have bound : 0 < (draft.forest.functionAt id).params.length := by
        rw [structParameter?] at takes
        cases params : (draft.forest.functionAt id).params with
        | nil => simp [params] at takes
        | cons first rest => exact Nat.zero_lt_succ _
      have isThere := @snd_requireClass_lt draft none className (by simp)
      dsimp only
      rw [requireClass_eq _ (by simp), ok_bind]
      split
      · rw [classAt_eq isThere, ok_bind]
        split
        · rfl
        · rw [modifyClass_eq isThere, ok_bind, modifyAt_eq, ok_bind]
          · rfl
          · simpa using present
          · simpa using bound
      · rw [modifyAt_eq, ok_bind, modifyClass_eq, ok_bind]
        · rfl
        · simpa using isThere
        · simpa using present
        · simpa using bound

/-- A loop over the free functions, each of them still there when its turn comes. -/
theorem foldlM_free_eq {kinds : Set MoveKind} {visit : Draft → FunctionId → Guarded Draft}
    {step : Draft → FunctionId → Draft}
    (reads : ∀ {draft : Draft} {id : FunctionId}, id < draft.forest.functionCount →
      visit draft id = .ok (step draft id))
    (moves : ∀ {draft : Draft} {id : FunctionId} {rest : List FunctionId},
      FreeRemain (id :: rest) draft.forest →
        Moves settings kinds draft.forest (step draft id).forest ∧
          FreeRemain rest (step draft id).forest)
    (sound : draft.forest.Sound) :
    draft.forest.free.foldlM visit draft = .ok (draft.forest.free.foldl step draft) := by
  have start : Ahead [] draft.forest.free draft.forest ∧
      FreeRemain draft.forest.free draft.forest := ⟨.free sound, .start sound⟩
  refine (foldlM_eq_foldl (fun ids forest => Ahead [] ids forest ∧ FreeRemain ids forest)
    (fun draft id rest facts => ?_) start).1
  obtain ⟨ahead, remain⟩ := facts
  obtain ⟨moved, remaining⟩ := moves remain
  exact ⟨reads (ahead.present id List.mem_cons_self), ahead.next (.ofMoves moved), remaining⟩

theorem hoistAllocators_eq (sound : draft.forest.Sound) :
    hoistAllocators structs settings draft =
      .ok (Hoisting.hoistAllocators structs settings draft) :=
  foldlM_free_eq hoistAllocator_eq moves_hoistAllocator sound

theorem hoistStructFunctions_eq (sound : draft.forest.Sound) :
    hoistStructFunctions structs settings draft =
      .ok (Hoisting.hoistStructFunctions structs settings draft) :=
  foldlM_free_eq hoistStructFunction_eq moves_hoistStructFunction sound

theorem hoistLeftovers_eq (rootClass : String) (sound : draft.forest.Sound) :
    hoistLeftovers rootClass draft = .ok (Hoisting.hoistLeftovers rootClass draft) := by
  have loop (ids : List FunctionId) (draft : Draft)
      (present : ∀ id ∈ ids, id < draft.forest.functionCount) :
      ids.foldlM (fun draft id =>
          modifyFunction draft id fun function => { function with isStatic := true }) draft =
        .ok (ids.foldl (fun draft id =>
          draft.modifyFunction id fun function => { function with isStatic := true }) draft) := by
    refine (foldlM_eq_foldl (fun ids forest => ∀ id ∈ ids, id < forest.functionCount)
      (fun draft id rest present => ?_) present).1
    refine ⟨modifyFunction_eq (present id List.mem_cons_self) _, fun other member => ?_⟩
    simpa using present other (List.mem_cons_of_mem _ member)
  have statics := loop draft.forest.free
    (draft.onForest fun forest => { forest with free := [] })
    fun id isFree => sound.lt_of_mem_free isFree
  rw [hoistLeftovers, Hoisting.hoistLeftovers]
  dsimp only
  rw [statics, ok_bind, requireClass_eq _ (by simp), ok_bind]
  exact modifyClass_eq (snd_requireClass_lt rootClass (by simp)) _

theorem stripClassPrefixes_eq {classes : List ClassId} (sound : draft.forest.Sound)
    (valid : ∀ c ∈ classes, c < draft.forest.hierarchy.size) :
    stripClassPrefixes classes draft = .ok (Hoisting.stripClassPrefixes classes draft) := by
  have loop (c : ClassId) (classes : List ClassId) {ids : List FunctionId} {draft : Draft}
      (ahead : Ahead (c :: classes) ids draft.forest) :
      ids.foldlM (fun draft id => do
          let name ← className draft c
          modifyFunction draft id (stripPrefix name)) draft =
        .ok (ids.foldl (fun draft id =>
          draft.modifyFunction id (stripPrefix (draft.forest.className c))) draft) ∧
      Ahead (c :: classes) [] (ids.foldl (fun draft id =>
        draft.modifyFunction id (stripPrefix (draft.forest.className c))) draft).forest := by
    refine foldlM_eq_foldl (Ahead (c :: classes)) (fun draft id rest ahead => ?_) ahead
    refine ⟨?_, ahead.next (.modifyFunction _ _ _)⟩
    rw [className_eq (ahead.valid c List.mem_cons_self), ok_bind]
    exact modifyFunction_eq (ahead.present id List.mem_cons_self) _
  have start : Ahead classes [] draft.forest := ⟨sound, valid, fun _ member => nomatch member⟩
  refine (foldlM_eq_foldl (fun classes forest => Ahead classes [] forest)
    (fun draft c classes ahead => ?_) start).1
  obtain ⟨same, later⟩ := loop c classes
    ⟨ahead.sound, ahead.valid, fun _ isMethod => ahead.sound.lt_of_mem_methods isMethod⟩
  rw [methods_eq (ahead.valid c List.mem_cons_self), ok_bind]
  exact ⟨same, later.sound, fun c member => later.valid c (List.mem_cons_of_mem _ member),
    later.present⟩

def stripRootPrefixes (draft : Draft) : Guarded Draft :=
  stripClassPrefixes draft.forest.hierarchy.roots draft

theorem stripRootPrefixes_eq (sound : draft.forest.Sound) :
    stripRootPrefixes draft = .ok (Grouping.stripRootPrefixes draft) :=
  stripClassPrefixes_eq sound fun _ => Hierarchy.lt_size_of_mem_children

/-! ## Number handles -/

def matchesIn (settings : Settings) (draft : Draft) (c : ClassId) :
    Guarded (List (Option Match)) := do
  let ids ← methods draft c
  ids.mapM fun id => do
    let function ← functionAt draft id
    return (handleBase? settings function).map ({ c, function := id, base := · })

def findMatches (settings : Settings) (draft : Draft) : Guarded (List Match) := do
  let classes ← allClasses draft
  let found ← classes.mapM (matchesIn settings draft)
  return found.flatten.filterMap fun entry => entry

/-- A method moves to another class if it is one of the first. -/
def moveMethod (draft : Draft) (source target : ClassId) (id : FunctionId) : Guarded Draft := do
  let ids ← methods draft source
  if id ∈ ids then
    let draft ← modifyClass draft source (·.removeMethod id)
    modifyClass draft target (·.addMethod id)
  else return draft

def relocate (settings : Settings) (draft : Draft) (found : Match) : Guarded Draft := do
  let owner ← className draft found.c
  let function ← functionAt draft found.function
  if settings.isHandleExempt function.name owner then
    modifyAt draft found.function 0 (·.mapParameter 0 (asReference found.base))
  else
    let (draft, inner) ←
      requireClass draft (some found.c) (Identifier.snakeToPascal found.base)
    let draft ← modifyAt draft found.function 0 (·.dropParameter 0)
    match function.params.head? with
    | some (.plain first) =>
      let draft ← modifyClass draft inner (wrapNumber first.type)
      let draft ← moveMethod draft found.c inner found.function
      let target ← qualifiedName draft inner
      return draft.note .debug s!"Moved `{function.name}` from `{owner}` to `{target}`"
    | _ => return draft

def round (settings : Settings) (draft : Draft) : Guarded (Draft × Bool) := do
  let found ← findMatches settings draft
  let relocated ← found.foldlM (relocate settings) draft
  let classes ← allClasses relocated
  let stripped ← stripClassPrefixes classes relocated
  return (stripped, !found.isEmpty)

def extractFrom (settings : Settings) (rounds : Nat) (draft : Draft) : Guarded (Draft × Nat) :=
  round settings draft >>= fun (next, found) =>
    if found then
      if weight next.forest < weight draft.forest then
        let count := rounds + 1
        extractFrom settings count (next.note .trace s!"Numeric handle round {count} done")
      else throw <| .stopped { cause := .convention .unsettledHandles, draft := next }
    else return (next, rounds)
termination_by weight draft.forest

def settleHandles (settings : Settings) (draft : Draft) : Guarded Draft := do
  let (draft, rounds) ← extractFrom settings 0 draft
  return draft.note .debug s!"Numeric handle extraction settled after {rounds} rounds"

def convertLeftoverParameters (settings : Settings) (draft : Draft) : Guarded Draft :=
  forEachMethod draft fun _ id draft =>
    modifyFunction draft id fun function =>
      { function with params := function.params.map (·.mapPlain (referTo settings)) }

theorem matchesIn_eq {c : ClassId} (sound : draft.forest.Sound)
    (valid : c < draft.forest.hierarchy.size) :
    matchesIn settings draft c = .ok ((draft.forest.methods c).map fun id =>
      (handleBase? settings (draft.forest.functionAt id)).map
        ({ c, function := id, base := · })) := by
  rw [matchesIn, methods_eq valid, ok_bind]
  refine mapM_eq fun id isMethod => ?_
  rw [functionAt_eq (sound.lt_of_mem_methods isMethod)]
  rfl

theorem findMatches_eq (sound : draft.forest.Sound) :
    findMatches settings draft = .ok (NumberHandles.findMatches settings draft.forest) := by
  have each : ∀ c ∈ draft.forest.allClasses, matchesIn settings draft c = .ok _ :=
    fun c member => matchesIn_eq sound (Forest.lt_size_of_mem_allClasses member)
  rw [findMatches, allClasses_eq, ok_bind, mapM_eq each, ok_bind, NumberHandles.findMatches]
  simp [List.flatMap, List.filterMap_flatten, Function.comp_def]

theorem moveMethod_eq {source target : ClassId} (isSource : source < draft.forest.hierarchy.size)
    (isTarget : target < draft.forest.hierarchy.size) :
    moveMethod draft source target id = .ok (draft.onForest (·.moveMethod source target id)) := by
  rw [moveMethod, methods_eq isSource, ok_bind]
  by_cases isMethod : id ∈ draft.forest.methods source
  · have still : target < (draft.modifyClass source (·.removeMethod id)).forest.hierarchy.size :=
      isTarget
    rw [if_pos isMethod, modifyClass_eq isSource, ok_bind, modifyClass_eq still, Draft.onForest,
      Forest.moveMethod, if_pos isMethod]
    rfl
  · rw [if_neg isMethod, Draft.onForest, Forest.moveMethod, if_neg isMethod]
    rfl

theorem relocate_eq {found : Match} {rest : List Match} (sound : draft.forest.Sound)
    (remain : MatchesRemain settings (found :: rest) draft.forest) :
    relocate settings draft found = .ok (NumberHandles.relocate settings draft found) := by
  obtain ⟨isMethod, matched⟩ := remain.2 found List.mem_cons_self
  obtain ⟨first, others, leading, -⟩ := handleBase?_eq_some matched
  have valid := Forest.lt_size_of_mem_methods isMethod
  have present := sound.lt_of_mem_methods isMethod
  have inFront : 0 < (draft.forest.functionAt found.function).params.length := by simp [leading]
  have below : ∀ outer ∈ some found.c, outer < draft.forest.hierarchy.size := by simpa using valid
  rw [relocate, NumberHandles.relocate, className_eq valid, ok_bind, functionAt_eq present, ok_bind]
  dsimp only
  split
  · exact modifyAt_eq present inFront _
  · have isInner := snd_requireClass_lt (Identifier.snakeToPascal found.base) below
    rw [requireClass_eq _ below, ok_bind, leading]
    dsimp only [List.head?_cons]
    rw [modifyAt_eq, ok_bind, modifyClass_eq, ok_bind, moveMethod_eq, ok_bind, qualifiedName_eq]
    · rfl
    · rw [Draft.forest_onForest, Forest.hierarchy_moveMethod]
      exact isInner
    · exact lt_size_requireClass (Identifier.snakeToPascal found.base) valid
    · exact isInner
    · exact isInner
    · simpa using present
    · simpa using inFront

theorem round_eq (sound : draft.forest.Sound) :
    round settings draft = .ok (NumberHandles.round settings draft) := by
  have start : MatchesRemain settings (NumberHandles.findMatches settings draft.forest)
      draft.forest := matchesRemain_findMatches sound.methodsDistinct
  obtain ⟨relocated, soundAfter, -⟩ := foldlM_eq_foldl
    (fun rest forest => forest.Sound ∧ MatchesRemain settings rest forest)
    (fun draft found rest facts => by
      obtain ⟨moves, remain⟩ := moves_relocate facts.2
      exact ⟨relocate_eq facts.1 facts.2, moves.sound facts.1, remain⟩) ⟨sound, start⟩
  rw [round, findMatches_eq sound, ok_bind, relocated, ok_bind, allClasses_eq, ok_bind,
    stripClassPrefixes_eq soundAfter fun _ => Forest.lt_size_of_mem_allClasses]
  rfl

theorem extractFrom_eq {rounds : Nat} (sound : draft.forest.Sound) :
    extractFrom settings rounds draft =
      follow (NumberHandles.extractFrom settings rounds draft) := by
  induction rounds, draft using NumberHandles.extractFrom.induct settings with
  | case1 rounds draft next finished =>
      rw [extractFrom, NumberHandles.extractFrom, round_eq sound, finished]
      rfl
  | case2 rounds draft next found shorter count ih =>
      have moves := moves_round settings sound.methodsDistinct
      rw [found] at moves
      rw [extractFrom, NumberHandles.extractFrom, round_eq sound, found]
      simp only [ok_bind, if_true, if_pos shorter]
      exact ih (moves.sound sound)
  | case3 rounds draft next found same =>
      rw [extractFrom, NumberHandles.extractFrom, round_eq sound, found]
      simp only [ok_bind, if_true, if_neg same]
      rfl

theorem settleHandles_eq (sound : draft.forest.Sound) :
    settleHandles settings draft = follow (Grouping.settleHandles settings draft) := by
  rw [settleHandles, extractFrom_eq sound, Grouping.settleHandles, NumberHandles.extract,
    follow_bind]
  rfl

theorem convertLeftoverParameters_eq (sound : draft.forest.Sound) :
    convertLeftoverParameters settings draft =
      .ok (NumberHandles.convertLeftoverParameters settings draft) :=
  forEachMethod_modify _ sound

/-! ## Listeners -/

def extractListener (settings : Settings) (state : Draft × List ClassId)
    (declaration : TypedefDeclaration) : Guarded (Draft × List ClassId) := do
  let (draft, listeners) := state
  match declaration.asFunction? with
  | none =>
    return (draft.note .warn s!"Callback typedef `{declaration.name}` is not a function type",
      listeners)
  | some signature =>
    let function := (signature.intake settings).rename settings.canonical.callback
    let (draft, id) := draft.addFunction function
    let (draft, c) ← requireClass draft none (Identifier.snakeToPascal declaration.name)
    let draft ← modifyClass draft c fun c => { c.addMethod id with isCallback := true }
    let className ← className draft c
    return (draft.note .debug s!"`{declaration.name}` becomes listener `{className}`",
      listeners ++ [c])

def extractListeners (settings : Settings) (typedefs : List TypedefDeclaration) (draft : Draft) :
    Guarded Draft := do
  let (draft, _) ← (typedefs.filter (Listeners.isCallback settings)).foldlM
    (extractListener settings) (draft, [])
  return draft

theorem extractListener_eq (state : Draft × List ClassId) (declaration : TypedefDeclaration) :
    extractListener settings state declaration =
      .ok (Listeners.extractOne settings state declaration) := by
  rw [extractListener, Listeners.extractOne]
  dsimp only
  cases declaration.asFunction? with
  | none => rfl
  | some signature =>
      dsimp only
      rw [requireClass_eq _ (by simp), ok_bind, modifyClass_eq, ok_bind, className_eq]
      · rfl
      · exact snd_requireClass_lt _ (by simp)
      · exact snd_requireClass_lt _ (by simp)

theorem extractListeners_eq (typedefs : List TypedefDeclaration) (draft : Draft) :
    extractListeners settings typedefs draft =
      .ok (Listeners.extract settings typedefs draft).1 := by
  have each : extractListener settings = fun state declaration =>
      pure (Listeners.extractOne settings state declaration) :=
    funext fun state => funext fun declaration => extractListener_eq state declaration
  rw [extractListeners, each, List.foldlM_pure]
  rfl

end Bindery.Guarded
