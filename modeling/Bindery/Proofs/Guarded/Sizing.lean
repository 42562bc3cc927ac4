import Bindery.Proofs.Guarded.Basic
import Bindery.Proofs.Pointing

/-!
# Guarded rules for buffers

An accessor that a search finds is there, and taking it off its class does not change the
parameters of the method that it serves, so that the position of the buffer is still right.
-/

namespace Bindery.Guarded

open Sizing

variable {settings : Settings} {draft : Draft} {c : ClassId} {id accessor : FunctionId}
  {keyword marker : String} {position : Nat} {α β : Type}

/-! ## The search -/

theorem findSomeM?_eq {items : List α} {visit : α → Guarded (Option β)} {plain : α → Option β}
    (each : ∀ item ∈ items, visit item = .ok (plain item)) :
    items.findSomeM? visit = .ok (items.findSome? plain) := by
  induction items with
  | nil => rfl
  | cons item rest ih =>
      have later := ih fun item member => each item (List.mem_cons_of_mem _ member)
      rw [List.findSomeM?, each item List.mem_cons_self, ok_bind, List.findSome?_cons]
      cases plain item with
      | some found => rfl
      | none => exact later

def staticAccessor? (settings : Settings) (draft : Draft) (keyword : String) (c : ClassId) :
    Guarded (Option FunctionId) := do
  let content ← classAt draft c
  let method ← findMethod? draft c fun function =>
    function.isStatic && isSizeOf settings keyword function.name
  let property := content.properties.find? fun property =>
    property.isStatic && isSizeOf settings keyword property.name
  return method.or (property.map (·.getter))

def search (settings : Settings) (draft : Draft) (keyword : String) (c : ClassId) :
    Guarded (Draft × Option FunctionId) := do
  let name ← className draft c
  let own ← findMethod? draft c fun function => isSizeOf settings keyword function.name
  let classes ← allClasses draft
  let elsewhere ← classes.findSomeM? (staticAccessor? settings draft keyword)
  return (draft.note .trace s!"Searching size accessor for `{keyword}` from `{name}`",
    own.or elsewhere)

def detach (draft : Draft) (c : ClassId) (accessor : FunctionId) (marker : String) :
    Guarded Draft := do
  let function ← functionAt draft accessor
  let ids ← methods draft c
  if Text.contains function.name marker ∧ accessor ∈ ids then
    let draft := draft.onForest fun forest =>
      { forest.removeMethod c accessor with detached := forest.detached ++ [(accessor, c)] }
    let name ← className draft c
    return draft.note .debug s!"Detached `{function.name}` from `{name}` as a size accessor"
  else return draft

/-- What is missing is told of a class and a method. -/
def missing (draft : Draft) (keyword : Keyword) (c : ClassId) (id : FunctionId) :
    Guarded Stopped := do
  let name ← qualifiedName draft c
  let function ← functionAt draft id
  return {
    cause := .convention (.missingSizeAccessor name function.name keyword.tried)
    draft }

theorem staticAccessor?_eq (sound : draft.forest.Sound) (valid : c < draft.forest.hierarchy.size) :
    staticAccessor? settings draft keyword c =
      .ok (Sizing.staticAccessor? settings draft.forest keyword c) := by
  rw [staticAccessor?, classAt_eq valid, ok_bind, findMethod?_eq sound valid]
  rfl

theorem search_eq (sound : draft.forest.Sound) (valid : c < draft.forest.hierarchy.size) :
    search settings draft keyword c = .ok (Sizing.search settings draft keyword c) := by
  have elsewhere : draft.forest.allClasses.findSomeM? (staticAccessor? settings draft keyword) =
      .ok (draft.forest.allClasses.findSome?
        (Sizing.staticAccessor? settings draft.forest keyword)) :=
    findSomeM?_eq fun c member => staticAccessor?_eq sound (Forest.lt_size_of_mem_allClasses member)
  rw [search, className_eq valid, ok_bind, findMethod?_eq sound valid, ok_bind, allClasses_eq,
    ok_bind, elsewhere]
  rfl

theorem detach_eq (valid : c < draft.forest.hierarchy.size)
    (present : accessor < draft.forest.functionCount) :
    detach draft c accessor marker = .ok (Sizing.detach draft c accessor marker) := by
  rw [detach, Sizing.detach, functionAt_eq present, ok_bind, methods_eq valid, ok_bind]
  dsimp only
  split
  · rw [className_eq (by exact valid)]
    rfl
  · rfl

theorem missing_eq (valid : c < draft.forest.hierarchy.size)
    (present : id < draft.forest.functionCount) (keyword : Keyword) :
    missing draft keyword c id = .ok (Sizing.missing draft keyword c id) := by
  rw [missing, qualifiedName_eq valid, ok_bind, functionAt_eq present]
  rfl

/-! ## Buffers that are returned -/

def resolveReturn (settings : Settings) (c : ClassId) (id : FunctionId) (draft : Draft) :
    Guarded Draft := do
  let ids ← methods draft c
  let function ← functionAt draft id
  if id ∉ ids ∨ !needsReturnAccessor settings function then return draft
  else
    let name ← className draft c
    let keyword := returnKeyword settings name function
    let (draft, found) ← search settings draft keyword.search c
    match found with
    | none =>
      let stopped ← missing draft keyword c id
      throw (.stopped stopped)
    | some accessor =>
      let draft ← detach draft c accessor settings.markers.getter
      modifyFunction draft id fun function =>
        { function with
          ret := { function.ret with type := function.ret.type.withGetter accessor } }

def resolveReturns (settings : Settings) (draft : Draft) : Guarded Draft :=
  forEachMethod draft (resolveReturn settings)

def resolveFilled (settings : Settings) (c : ClassId) (id : FunctionId) (draft : Draft) :
    Guarded Draft := do
  let function ← functionAt draft id
  match filledBuffer? settings function with
  | none => return draft
  | some position =>
    let ids ← methods draft c
    if id ∉ ids then return draft
    else
      let keyword := getterKeyword settings function
      let (draft, found) ← search settings draft keyword.search c
      match found with
      | none =>
        let stopped ← missing draft keyword c id
        throw (.stopped stopped)
      | some accessor =>
        let draft ← detach draft c accessor settings.markers.getter
        let argument ← argumentAt function position
        let draft ← modifyAt draft id position (promote position accessor)
        return draft.note .debug s!"`{function.name}` now returns its `{argument.name}` buffer"

def resolveFilledBuffers (settings : Settings) (draft : Draft) : Guarded Draft :=
  forEachMethod draft (resolveFilled settings)

theorem lt_length_of_filledBuffer? {function : Function}
    (filled : filledBuffer? settings function = some position) :
    position < function.params.length := by
  obtain ⟨⟨buffer, isBuffer, -⟩, -⟩ := filledBuffer?_eq_some filled
  exact (List.getElem?_eq_some_iff.1 isBuffer).1

variable (sound : draft.forest.Sound) (valid : c < draft.forest.hierarchy.size)
  (present : id < draft.forest.functionCount)

include sound valid present

theorem resolveReturn_eq :
    resolveReturn settings c id draft = follow (Sizing.resolveReturn settings c id draft) := by
  rw [resolveReturn, Sizing.resolveReturn, methods_eq valid, ok_bind, functionAt_eq present,
    ok_bind]
  dsimp only
  split
  · rfl
  · rw [className_eq valid, ok_bind]
    generalize returnKeyword settings _ _ = keyword
    rw [search_eq sound valid, ok_bind]
    rcases found : Sizing.search settings draft keyword.search c with ⟨searched, _ | accessor⟩
    · rw [← forest_of_search found] at valid present
      dsimp only
      rw [missing_eq valid present]
      rfl
    · have isThere := lt_of_search sound found
      rw [← forest_of_search found] at valid present
      dsimp only
      rw [detach_eq valid isThere, ok_bind, modifyFunction_eq]
      · rfl
      · simpa using present

theorem resolveFilled_eq :
    resolveFilled settings c id draft = follow (Sizing.resolveFilled settings c id draft) := by
  rw [resolveFilled, Sizing.resolveFilled, functionAt_eq present, ok_bind]
  dsimp only
  cases filled : filledBuffer? settings (draft.forest.functionAt id) with
  | none => rfl
  | some position =>
      have bound := lt_length_of_filledBuffer? filled
      have argument := List.getElem?_eq_getElem bound
      dsimp only
      rw [methods_eq valid, ok_bind]
      split
      · rfl
      · generalize getterKeyword settings _ = keyword
        rw [search_eq sound valid, ok_bind]
        rcases found : Sizing.search settings draft keyword.search c with ⟨searched, _ | accessor⟩
        · rw [← forest_of_search found] at valid present
          dsimp only
          rw [missing_eq valid present]
          rfl
        · have isThere := lt_of_search sound found
          rw [← forest_of_search found] at valid present
          dsimp only
          rw [detach_eq valid isThere, ok_bind, argumentAt_eq argument, ok_bind, modifyAt_eq,
            ok_bind, argument]
          · rfl
          · simpa using present
          · simpa [forest_of_search found] using bound

omit valid present in
theorem resolveReturns_eq :
    resolveReturns settings draft = follow (Sizing.resolveReturns settings draft) :=
  forEachMethod_follow (fun _ _ _ => True) (fun _ _ _ => trivial)
    (fun _ _ _ _ sound valid present _ => resolveReturn_eq sound valid present)
    (fun _ _ _ _ _ _ => ⟨.ofMoves ((@resolves_resolveReturn settings _ _ _).moves), trivial⟩) sound

omit valid present in
theorem resolveFilledBuffers_eq :
    resolveFilledBuffers settings draft = follow (Sizing.resolveFilledBuffers settings draft) :=
  forEachMethod_follow (fun _ _ _ => True) (fun _ _ _ => trivial)
    (fun _ _ _ _ sound valid present _ => resolveFilled_eq sound valid present)
    (fun _ _ _ _ _ _ => ⟨.ofMoves ((@resolves_resolveFilled settings _ _ _).moves), trivial⟩) sound

/-! ## Buffers that are passed -/

def attach (draft : Draft) (id : FunctionId) (position : Nat) (change : ValueType → ValueType) :
    Guarded Draft :=
  modifyAt draft id position (·.mapParameter position fun parameter =>
    { parameter with type := change parameter.type })

def resolveSetter (settings : Settings) (c : ClassId) (id : FunctionId) (draft : Draft) :
    Guarded Draft := do
  let function ← functionAt draft id
  match setBuffer? settings function with
  | none => return draft
  | some position =>
    let ids ← methods draft c
    if id ∉ ids then return draft
    else
      let keyword := setterKeyword settings function
      let (draft, found) ← search settings draft keyword c
      match found with
      | none =>
        return draft.note .debug
          s!"No size accessor for setter `{function.name}` (keyword `{keyword}`)"
      | some accessor =>
        let draft ← detach draft c accessor settings.markers.setter
        attach draft id position (·.withSetter accessor)

def resolveSetters (settings : Settings) (draft : Draft) : Guarded Draft :=
  forEachMethod draft (resolveSetter settings)

def resolveBuffer (settings : Settings) (c : ClassId) (id : FunctionId) (position : Nat)
    (keyword : String) (draft : Draft) : Guarded Draft := do
  let (draft, found) ← search settings draft keyword c
  match found with
  | none => return draft
  | some accessor => attach draft id position (·.withGetter accessor)

def resolveOverride (settings : Settings) (c : ClassId) (id : FunctionId) (draft : Draft) :
    Guarded Draft := do
  let function ← functionAt draft id
  match settings.keywords.parameters.get? function.name,
      function.params.findIdx? (·.isUnsizedBuffer) with
  | some keyword, some position => resolveBuffer settings c id position keyword draft
  | _, _ => return draft

def resolveOverrides (settings : Settings) (draft : Draft) : Guarded Draft :=
  forEachMethod draft (resolveOverride settings)

def pairParameters (settings : Settings) (draft : Draft) : Guarded Draft :=
  forEachMethod draft fun _ id draft =>
    modifyFunction draft id fun function =>
      { function with params := pairLengths settings.markers.length function.params }

def resolveResidual (settings : Settings) (c : ClassId) (id : FunctionId) (draft : Draft)
    (position : Nat) : Guarded Draft := do
  let function ← functionAt draft id
  let argument ← argumentAt function position
  if argument.isUnsizedBuffer then resolveBuffer settings c id position argument.name draft
  else return draft

def resolveResiduals (settings : Settings) (draft : Draft) : Guarded Draft :=
  forEachMethod draft fun c id draft => do
    let function ← functionAt draft id
    (List.range function.params.length).foldlM (resolveResidual settings c id) draft

omit sound valid in
theorem attach_eq (bound : position < (draft.forest.functionAt id).params.length)
    (change : ValueType → ValueType) :
    attach draft id position change = .ok (Sizing.attach draft id position change) :=
  modifyAt_eq present bound _

omit sound valid present in
theorem lt_length_of_findIdx? {params : List Argument} {wanted : Argument → Bool}
    (found : params.findIdx? wanted = some position) : position < params.length :=
  (List.findIdx?_eq_some_iff_getElem.1 found).1

theorem resolveSetter_eq :
    resolveSetter settings c id draft = .ok (Sizing.resolveSetter settings c id draft) := by
  rw [resolveSetter, Sizing.resolveSetter, functionAt_eq present, ok_bind]
  dsimp only
  cases isSet : setBuffer? settings (draft.forest.functionAt id) with
  | none => rfl
  | some position =>
      have bound : position < (draft.forest.functionAt id).params.length :=
        lt_length_of_findIdx? (setBuffer?_eq_some isSet)
      dsimp only
      rw [methods_eq valid, ok_bind]
      split
      · rfl
      · generalize setterKeyword settings _ = keyword
        rw [search_eq sound valid, ok_bind]
        rcases found : Sizing.search settings draft keyword c with ⟨searched, _ | accessor⟩
        · rfl
        · have isThere := lt_of_search sound found
          rw [← forest_of_search found] at valid present bound
          dsimp only
          rw [detach_eq valid isThere, ok_bind, attach_eq]
          · simpa using present
          · simpa using bound

theorem resolveBuffer_eq (bound : position < (draft.forest.functionAt id).params.length) :
    resolveBuffer settings c id position keyword draft =
      .ok (Sizing.resolveBuffer settings c id position keyword draft) := by
  rw [resolveBuffer, Sizing.resolveBuffer, search_eq sound valid, ok_bind]
  rcases found : Sizing.search settings draft keyword c with ⟨searched, _ | accessor⟩
  · rfl
  · rw [← forest_of_search found] at present bound
    exact attach_eq present bound _

theorem resolveOverride_eq :
    resolveOverride settings c id draft = .ok (Sizing.resolveOverride settings c id draft) := by
  rw [resolveOverride, Sizing.resolveOverride, functionAt_eq present, ok_bind]
  cases settings.keywords.parameters.get? (draft.forest.functionAt id).name with
  | none => rfl
  | some keyword =>
      cases found : (draft.forest.functionAt id).params.findIdx? (·.isUnsizedBuffer) with
      | none => rfl
      | some position => exact resolveBuffer_eq sound valid present (lt_length_of_findIdx? found)

theorem resolveResidual_eq (bound : position < (draft.forest.functionAt id).params.length) :
    resolveResidual settings c id draft position =
      .ok (Sizing.resolveResidual settings c id draft position) := by
  have argument := List.getElem?_eq_getElem bound
  rw [resolveResidual, Sizing.resolveResidual, functionAt_eq present, ok_bind,
    argumentAt_eq argument, ok_bind, argument]
  dsimp only
  split
  · exact resolveBuffer_eq sound valid present bound
  · rfl

omit sound valid in
/-- A parameter that learns of an accessor stays at its place. -/
theorem length_params_of_moves {after : Forest}
    (moves : Moves settings {.edit .sizeParameter} draft.forest after) :
    (after.functionAt id).params.length = (draft.forest.functionAt id).params.length := by
  refine moves.functionAt_induction (fun function => function.params.length = _) present rfl ?_
  intro kind function changed allowed step same
  obtain rfl := Set.mem_singleton_iff.1 allowed
  cases step with
  | edit edited =>
      cases edited with
      | sizeParameter accessor unsized =>
          rw [← same]
          exact List.length_modify _ _ _

/-- The positions of a parameter list are gone through while the parameters learn of accessors. -/
theorem foldlM_resolveResidual_eq :
    (List.range (draft.forest.functionAt id).params.length).foldlM
        (resolveResidual settings c id) draft =
      .ok ((List.range (draft.forest.functionAt id).params.length).foldl
        (Sizing.resolveResidual settings c id) draft) := by
  have start : Ahead [c] [id] draft.forest ∧
      ∀ position ∈ List.range (draft.forest.functionAt id).params.length,
        position < (draft.forest.functionAt id).params.length :=
    ⟨⟨sound, by simpa using valid, by simpa using present⟩, fun _ => List.mem_range.1⟩
  refine (foldlM_eq_foldl (fun positions forest => Ahead [c] [id] forest ∧
    ∀ position ∈ positions, position < (forest.functionAt id).params.length)
    (fun draft position rest facts => ?_) start).1
  obtain ⟨ahead, bounds⟩ := facts
  have present := ahead.present id List.mem_cons_self
  have moves := (@resolves_resolveResidual settings draft c id position).moves
  have preserves : Preserves draft.forest _ := .ofMoves moves
  refine ⟨resolveResidual_eq ahead.sound (ahead.valid c List.mem_cons_self) present
    (bounds position List.mem_cons_self), ?_, fun position member => ?_⟩
  · exact ⟨preserves.sound ahead.sound,
      fun c member => Nat.lt_of_lt_of_le (ahead.valid c member) preserves.valid,
      fun id member => Nat.lt_of_lt_of_le (ahead.present id member) preserves.present⟩
  · rw [length_params_of_moves present moves]
    exact bounds position (List.mem_cons_of_mem _ member)

omit valid present

theorem resolveSetters_eq :
    resolveSetters settings draft = .ok (Sizing.resolveSetters settings draft) :=
  forEachMethod_eq (fun _ _ _ => True) (fun _ _ _ => trivial)
    (fun _ _ _ _ sound valid present _ => resolveSetter_eq sound valid present)
    (fun _ _ _ _ _ _ => ⟨.ofMoves ((@resolves_resolveSetter settings _ _ _).moves), trivial⟩) sound

theorem resolveOverrides_eq :
    resolveOverrides settings draft = .ok (Sizing.resolveOverrides settings draft) :=
  forEachMethod_eq (fun _ _ _ => True) (fun _ _ _ => trivial)
    (fun _ _ _ _ sound valid present _ => resolveOverride_eq sound valid present)
    (fun _ _ _ _ _ _ => ⟨.ofMoves (@resolves_resolveOverride settings _ _ _).moves, trivial⟩) sound

theorem pairParameters_eq :
    pairParameters settings draft = .ok (Sizing.pairParameters settings draft) :=
  forEachMethod_modify _ sound

theorem resolveResiduals_eq :
    resolveResiduals settings draft = .ok (Sizing.resolveResiduals settings draft) := by
  refine forEachMethod_eq (fun _ _ _ => True) (fun _ _ _ => trivial)
    (fun draft c id _ sound valid present _ => ?_) (fun draft c id _ sound _ => ⟨?_, trivial⟩) sound
  · rw [functionAt_eq present, ok_bind, foldlM_resolveResidual_eq sound valid present]
  · exact .ofMoves
      (moves_foldl (fun _ _ _ _ => (@resolves_resolveResidual settings _ _ _ _).moves) sound)

end Bindery.Guarded
