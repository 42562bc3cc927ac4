import Bindery.Proofs.Guarded.Basic
import Bindery.Proofs.Passes.Naming

/-!
# Guarded passes that form members

Methods leave their class while its methods are gone through.  Each is still one when its turn
comes, or takes parameters and is passed over, and the setter that is looked for is one of the
methods that are left.
-/

namespace Bindery.Guarded

open Accessors Corrections

variable {settings : Settings} {draft : Draft} {c : ClassId} {id getter setter : FunctionId}
  {name : String} {isStatic : Bool}

def forEachClass (draft : Draft) (step : ClassId → Draft → Guarded Draft) : Guarded Draft := do
  let classes ← allClasses draft
  classes.foldlM (fun draft c => step c draft) draft

theorem forEachClass_eq {step : ClassId → Draft → Guarded Draft} {plain : ClassId → Draft → Draft}
    (each : ∀ draft c, draft.forest.Sound → c < draft.forest.hierarchy.size →
      step c draft = .ok (plain c draft))
    (preserves : ∀ draft c, draft.forest.Sound → Preserves draft.forest (plain c draft).forest)
    (sound : draft.forest.Sound) :
    forEachClass draft step = .ok (draft.forEachClass plain) := by
  have start : Ahead draft.forest.allClasses [] draft.forest :=
    ⟨sound, fun _ => Forest.lt_size_of_mem_allClasses, fun _ member => nomatch member⟩
  rw [forEachClass, allClasses_eq, ok_bind]
  refine (foldlM_eq_foldl (fun classes forest => Ahead classes [] forest)
    (fun draft c classes ahead => ?_) start).1
  have kept := preserves draft c ahead.sound
  refine ⟨each draft c ahead.sound (ahead.valid c List.mem_cons_self), kept.sound ahead.sound,
    fun place member => ?_, fun _ member => nomatch member⟩
  exact Nat.lt_of_lt_of_le (ahead.valid place (List.mem_cons_of_mem _ member)) kept.valid

/-! ## Corrections -/

def retypeHandleReturns (settings : Settings) (draft : Draft) : Guarded Draft :=
  forEachMethod draft fun _ id draft => modifyFunction draft id (retypeReturn settings)

def extractInitializer (settings : Settings) (c : ClassId) (draft : Draft) : Guarded Draft := do
  let className ← className draft c
  match settings.defaultInitializers.get? className with
  | none => return draft
  | some name =>
    let found ← findMethod? draft c fun function => function.name == name
    match found with
    | none => return draft
    | some id =>
      let draft ← modifyClass draft c fun c => { c.removeMethod id with defaultInit := some id }
      return draft.note .debug s!"`{name}` default-initializes `{className}`"

def extractInitializers (settings : Settings) (draft : Draft) : Guarded Draft :=
  forEachClass draft (extractInitializer settings)

def renameMethod (names : Table String) (draft : Draft) (id : FunctionId) : Guarded Draft := do
  let function ← functionAt draft id
  match names.get? function.name with
  | some renamed =>
    modifyFunction (draft.note .debug s!"Renamed `{function.name}` to `{renamed}`") id
      (·.rename renamed)
  | none => return draft

def renameMembers (settings : Settings) (c : ClassId) (draft : Draft) : Guarded Draft := do
  let className ← className draft c
  match settings.renames.get? className with
  | none => return draft
  | some names =>
    let draft ← modifyClass draft c fun c =>
      { c with properties := c.properties.map (renameProperty names.properties) }
    let ids ← methods draft c
    ids.foldlM (renameMethod names.functions) draft

def applyRenames (settings : Settings) (draft : Draft) : Guarded Draft :=
  forEachClass draft (renameMembers settings)

theorem retypeHandleReturns_eq (sound : draft.forest.Sound) :
    retypeHandleReturns settings draft = .ok (Corrections.retypeHandleReturns settings draft) :=
  forEachMethod_modify _ sound

theorem extractInitializer_eq (sound : draft.forest.Sound)
    (valid : c < draft.forest.hierarchy.size) :
    extractInitializer settings c draft =
      .ok (Corrections.extractInitializer settings c draft) := by
  rw [extractInitializer, Corrections.extractInitializer, className_eq valid, ok_bind]
  dsimp only
  cases settings.defaultInitializers.get? (draft.forest.className c) with
  | none => rfl
  | some name =>
      dsimp only
      rw [findMethod?_eq sound valid, ok_bind, Forest.findMethod?]
      cases (draft.forest.methods c).find? fun id => (draft.forest.functionAt id).name == name with
      | none => rfl
      | some id =>
          dsimp only
          rw [modifyClass_eq valid]
          rfl

theorem extractInitializers_eq (sound : draft.forest.Sound) :
    extractInitializers settings draft = .ok (Corrections.extractInitializers settings draft) :=
  forEachClass_eq (fun _ _ sound valid => extractInitializer_eq sound valid)
    (fun draft c _ => .ofMoves (moves_extractInitializer settings draft c)) sound

theorem renameMethod_eq (names : Table String) (present : id < draft.forest.functionCount) :
    renameMethod names draft id = .ok (Corrections.renameMethod names draft id) := by
  rw [renameMethod, Corrections.renameMethod, functionAt_eq present, ok_bind]
  cases names.get? (draft.forest.functionAt id).name with
  | none => rfl
  | some renamed => exact modifyFunction_eq (by exact present) _

theorem renameMembers_eq (sound : draft.forest.Sound) (valid : c < draft.forest.hierarchy.size) :
    renameMembers settings c draft = .ok (Corrections.renameMembers settings c draft) := by
  rw [renameMembers, Corrections.renameMembers, className_eq valid, ok_bind]
  cases found : settings.renames.get? (draft.forest.className c) with
  | none => rfl
  | some names =>
      dsimp only
      rw [modifyClass_eq valid, ok_bind, methods_eq (by exact valid), ok_bind]
      have move := @Move.renameProperties settings draft.forest c names.properties
      refine (foldlM_eq_foldl (Ahead []) (fun draft id rest ahead => ?_)
        (.methods (move.sound sound) c)).1
      exact ⟨renameMethod_eq _ (ahead.present id List.mem_cons_self),
        ahead.next (.ofMoves (moves_renameMethod settings found))⟩

theorem applyRenames_eq (sound : draft.forest.Sound) :
    applyRenames settings draft = .ok (Corrections.applyRenames settings draft) :=
  forEachClass_eq (fun _ _ sound valid => renameMembers_eq sound valid)
    (fun _ _ sound => .ofMoves (moves_renameMembers settings sound)) sound

/-! ## Properties -/

def addProperty (settings : Settings) (draft : Draft) (c : ClassId) (getter : FunctionId)
    (name : String) (isStatic : Bool) : Guarded Draft := do
  let draft ← modifyFunction draft getter (·.rename settings.canonical.getter)
  let draft ← modifyClass draft c (·.removeMethod getter)
  let className ← className draft c
  let draft := draft.note .debug s!"`{className}` gains property `{name}`"
  modifyClass draft c fun c =>
    { c with properties := c.properties ++ [{ name, getter, setter := none, isStatic }] }

def addSetter (settings : Settings) (draft : Draft) (c : ClassId) (setter : FunctionId) :
    Guarded Draft := do
  let draft ← modifyFunction draft setter (·.rename settings.canonical.setter)
  modifyClass draft c fun c =>
    { c.removeMethod setter with properties := setLast setter c.properties }

def foldAccessor (settings : Settings) (c : ClassId) (id : FunctionId) (draft : Draft) :
    Guarded Draft := do
  let function ← functionAt draft id
  let marker := settings.markers.getter
  if !Text.contains function.name marker || !function.params.isEmpty then return draft
  else
    let propertyName := Text.replaceAll function.name marker ""
    let setterName := Text.replaceAll function.name marker settings.markers.setter
    let draft ← addProperty settings draft c id propertyName false
    let found ← findMethod? draft c fun function => function.name == setterName
    match found with
    | none => return draft
    | some setter =>
      let function ← functionAt draft setter
      if function.params.length = 1 then addSetter settings draft c setter else return draft

def foldAccessors (settings : Settings) (draft : Draft) : Guarded Draft :=
  forEachMethod draft (foldAccessor settings)

def dropSuccessReturns (draft : Draft) : Guarded Draft :=
  forEachMethod draft fun _ id draft => modifyFunction draft id dropSuccess

def foldStatic (settings : Settings) (c : ClassId) (id : FunctionId) (draft : Draft) :
    Guarded Draft := do
  let function ← functionAt draft id
  if function.isStatic && function.params.isEmpty then
    addProperty settings draft c id (Text.replaceAll function.name settings.markers.getter "") true
  else return draft

def foldStatics (settings : Settings) (draft : Draft) : Guarded Draft :=
  forEachMethod draft (foldStatic settings)

def foldForced (settings : Settings) (c : ClassId) (id : FunctionId) (draft : Draft) :
    Guarded Draft := do
  let function ← functionAt draft id
  if settings.forcedProperties.contains function.name then
    addProperty settings draft c id function.name false
  else return draft

def foldForcedProperties (settings : Settings) (draft : Draft) : Guarded Draft :=
  forEachMethod draft (foldForced settings)

theorem addProperty_eq (valid : c < draft.forest.hierarchy.size)
    (present : getter < draft.forest.functionCount) :
    addProperty settings draft c getter name isStatic =
      .ok (Accessors.addProperty settings draft c getter name isStatic) := by
  rw [addProperty, modifyFunction_eq present, ok_bind, modifyClass_eq (by exact valid), ok_bind,
    className_eq (by exact valid), ok_bind, modifyClass_eq (by exact valid)]
  rfl

theorem addSetter_eq (valid : c < draft.forest.hierarchy.size)
    (present : setter < draft.forest.functionCount) :
    addSetter settings draft c setter = .ok (Accessors.addSetter settings draft c setter) := by
  rw [addSetter, modifyFunction_eq present, ok_bind, modifyClass_eq (by exact valid)]
  rfl

theorem foldAccessor_eq {rest : List FunctionId} (sound : draft.forest.Sound)
    (valid : c < draft.forest.hierarchy.size) (present : id < draft.forest.functionCount)
    (remain : GettersRemain c (id :: rest) draft.forest) :
    foldAccessor settings c id draft = .ok (Accessors.foldAccessor settings c id draft) := by
  rw [foldAccessor, Accessors.foldAccessor, functionAt_eq present, ok_bind]
  dsimp only
  split
  · rfl
  · rename_i folds
    simp only [Bool.or_eq_true, not_or, Bool.not_eq_true', List.isEmpty_iff,
      Bool.not_eq_false] at folds
    have getter : Accessors.Getter settings (draft.forest.functionAt id) _ :=
      ⟨folds.1, folds.2, rfl⟩
    have isMethod := remain.isMethod getter
    generalize Text.replaceAll _ _ "" = name
    generalize Text.replaceAll _ _ _ = setterName
    rw [addProperty_eq valid present, ok_bind]
    let folded := Accessors.addProperty settings draft c id name false
    have moves : Moves settings {.edit .rename, .addProperty} draft.forest folded.forest :=
      moves_addProperty isMethod (by simp) (by simp)
    have soundAfter := moves.sound sound
    have validAfter : c < folded.forest.hierarchy.size :=
      Nat.lt_of_lt_of_le valid moves.hierarchy_extends.size_le
    rw [findMethod?_eq soundAfter validAfter, ok_bind, Forest.findMethod?]
    cases found : (folded.forest.methods c).find? fun id =>
        (folded.forest.functionAt id).name == setterName with
    | none => rfl
    | some setter =>
        have isThere := soundAfter.lt_of_mem_methods (List.mem_of_find?_eq_some found)
        dsimp only
        rw [functionAt_eq isThere, ok_bind]
        split
        · exact addSetter_eq validAfter isThere
        · rfl

theorem foldAccessors_eq (sound : draft.forest.Sound) :
    foldAccessors settings draft = .ok (Accessors.foldAccessors settings draft) := by
  refine forEachMethod_eq GettersRemain (fun _ c sound => .start sound c)
    (fun _ _ _ _ sound valid present remain => foldAccessor_eq sound valid present remain)
    (fun draft c id rest _ remain => ?_) sound
  obtain ⟨moves, remains⟩ := @moves_foldAccessor settings draft c id rest remain
  exact ⟨.ofMoves moves, remains⟩

theorem dropSuccessReturns_eq (sound : draft.forest.Sound) :
    dropSuccessReturns draft = .ok (Accessors.dropSuccessReturns draft) :=
  forEachMethod_modify _ sound

theorem foldStatics_eq (sound : draft.forest.Sound) :
    foldStatics settings draft = .ok (Accessors.foldStatics settings draft) := by
  refine forEachMethod_eq MethodsRemain (fun _ c sound => .start sound c)
    (fun draft c id _ _ valid present _ => ?_) (fun draft c id rest _ remain => ?_) sound
  · rw [foldStatic, Accessors.foldStatic, functionAt_eq present, ok_bind]
    split
    · exact addProperty_eq valid present
    · rfl
  · exact (moves_foldStatic remain).imp_left .ofMoves

theorem foldForcedProperties_eq (sound : draft.forest.Sound) :
    foldForcedProperties settings draft = .ok (Accessors.foldForcedProperties settings draft) := by
  refine forEachMethod_eq MethodsRemain (fun _ c sound => .start sound c)
    (fun draft c id _ _ valid present _ => ?_) (fun draft c id rest _ remain => ?_) sound
  · rw [foldForced, Accessors.foldForced, functionAt_eq present, ok_bind]
    split
    · exact addProperty_eq valid present
    · rfl
  · exact (moves_foldForced remain).imp_left .ofMoves

end Bindery.Guarded
