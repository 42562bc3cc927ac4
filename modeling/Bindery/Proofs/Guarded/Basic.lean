import Bindery.Proofs.Narrowing

/-!
# Guarded access

An id that is not in a forest answers with an empty function or class, and a position beyond a
parameter list with nothing.  Here every access is guarded instead, and one that is out of bounds
ends the run.  The passes are written once more with guards; that they make the same drafts as
before means that no guard is ever needed.
-/

namespace Bindery

variable {settings : Settings} {kinds : Set MoveKind} {draft : Draft} {c : ClassId}
  {id : FunctionId} {α β : Type}

namespace Forest

theorem lt_size_of_mem_allClasses {forest : Forest} (member : c ∈ forest.allClasses) :
    c < forest.hierarchy.size :=
  Hierarchy.mem_all_iff.1 member

@[simp]
theorem functionCount_modifyClass (forest : Forest) (c : ClassId) (change : Class → Class) :
    (forest.modifyClass c change).functionCount = forest.functionCount :=
  rfl

@[simp]
theorem functionCount_requireClass (forest : Forest) (parent : Option ClassId) (name : String) :
    (forest.requireClass parent name).1.functionCount = forest.functionCount :=
  rfl

@[simp]
theorem hierarchy_modifyClass (forest : Forest) (c : ClassId) (change : Class → Class) :
    (forest.modifyClass c change).hierarchy = forest.hierarchy :=
  rfl

@[simp]
theorem hierarchy_modifyFunction (forest : Forest) (id : FunctionId)
    (change : Function → Function) :
    (forest.modifyFunction id change).hierarchy = forest.hierarchy :=
  rfl

@[simp]
theorem hierarchy_moveMethod (forest : Forest) (source target : ClassId) (id : FunctionId) :
    (forest.moveMethod source target id).hierarchy = forest.hierarchy := by
  rw [moveMethod]
  split <;> rfl

end Forest

/-- How a guarded run ends early: an access is out of bounds, or the run gives up. -/
inductive Halt where
  | outOfBounds
  | stopped (stopped : Stopped)

abbrev Guarded (α : Type) : Type :=
  Except Halt α

namespace Guarded

/-- A run in which no access is out of bounds. -/
def follow (run : Except Stopped α) : Guarded α :=
  run.mapError .stopped

@[simp]
theorem ok_bind (value : α) (rest : α → Guarded β) :
    (Except.ok value : Guarded α) >>= rest = rest value :=
  rfl

@[simp]
theorem pure_eq_ok (value : α) : (pure value : Guarded α) = .ok value :=
  rfl

theorem follow_bind (run : Except Stopped α) (rest : α → Except Stopped β) :
    follow (run >>= rest) = follow run >>= fun value => follow (rest value) := by
  cases run <;> rfl

/-! ## Guards -/

def within (bound : Prop) [Decidable bound] : Guarded Unit :=
  if bound then .ok () else .error .outOfBounds

theorem within_of {bound : Prop} [Decidable bound] (holds : bound) : within bound = .ok () :=
  if_pos holds

def functionAt (draft : Draft) (id : FunctionId) : Guarded Function := do
  within (id < draft.forest.functionCount)
  return draft.forest.functionAt id

def classAt (draft : Draft) (c : ClassId) : Guarded Class := do
  within (c < draft.forest.hierarchy.size)
  return draft.forest.classAt c

def methods (draft : Draft) (c : ClassId) : Guarded (List FunctionId) := do
  within (c < draft.forest.hierarchy.size)
  return draft.forest.methods c

def className (draft : Draft) (c : ClassId) : Guarded String := do
  within (c < draft.forest.hierarchy.size)
  return draft.forest.className c

def qualifiedName (draft : Draft) (c : ClassId) : Guarded String := do
  within (c < draft.forest.hierarchy.size)
  return draft.forest.qualifiedName c

def argumentAt (function : Function) (position : Nat) : Guarded Argument :=
  match function.params[position]? with
  | some argument => .ok argument
  | none => .error .outOfBounds

def modifyFunction (draft : Draft) (id : FunctionId) (change : Function → Function) :
    Guarded Draft := do
  within (id < draft.forest.functionCount)
  return draft.modifyFunction id change

/-- A change of a function that takes or changes the parameter at a position. -/
def modifyAt (draft : Draft) (id : FunctionId) (position : Nat) (change : Function → Function) :
    Guarded Draft := do
  let before ← functionAt draft id
  within (position < before.params.length)
  return draft.modifyFunction id change

def modifyClass (draft : Draft) (c : ClassId) (change : Class → Class) : Guarded Draft := do
  within (c < draft.forest.hierarchy.size)
  return draft.modifyClass c change

/-- A class that is required is looked for among the classes below its parent, and its path goes to
the journal. -/
def requireClass (draft : Draft) (parent : Option ClassId) (name : String) :
    Guarded (Draft × ClassId) := do
  within (∀ outer ∈ parent, outer < draft.forest.hierarchy.size)
  within (∀ c ∈ draft.forest.hierarchy.children parent, c < draft.forest.hierarchy.size)
  let required := draft.requireClass parent name
  within (required.2 < required.1.forest.hierarchy.size)
  return required

/-- All classes, each of which is asked for those in it. -/
def allClasses (draft : Draft) : Guarded (List ClassId) := do
  within (∀ c ∈ draft.forest.allClasses, c < draft.forest.hierarchy.size)
  return draft.forest.allClasses

def forEachMethod (draft : Draft) (step : ClassId → FunctionId → Draft → Guarded Draft) :
    Guarded Draft := do
  let classes ← allClasses draft
  classes.foldlM (fun draft c => do
    let ids ← methods draft c
    ids.foldlM (fun draft id => step c id draft) draft) draft

/-- The first method of a class that is as asked for. -/
def findMethod? (draft : Draft) (c : ClassId) (wanted : Function → Bool) :
    Guarded (Option FunctionId) := do
  let ids ← methods draft c
  ids.findM? fun id => do
    let function ← functionAt draft id
    return wanted function

/-! ## Where no guard is needed -/

theorem functionAt_eq (present : id < draft.forest.functionCount) :
    functionAt draft id = .ok (draft.forest.functionAt id) := by
  rw [functionAt, within_of present]
  rfl

theorem classAt_eq (valid : c < draft.forest.hierarchy.size) :
    classAt draft c = .ok (draft.forest.classAt c) := by
  rw [classAt, within_of valid]
  rfl

theorem methods_eq (valid : c < draft.forest.hierarchy.size) :
    methods draft c = .ok (draft.forest.methods c) := by
  rw [methods, within_of valid]
  rfl

theorem className_eq (valid : c < draft.forest.hierarchy.size) :
    className draft c = .ok (draft.forest.className c) := by
  rw [className, within_of valid]
  rfl

theorem qualifiedName_eq (valid : c < draft.forest.hierarchy.size) :
    qualifiedName draft c = .ok (draft.forest.qualifiedName c) := by
  rw [qualifiedName, within_of valid]
  rfl

theorem argumentAt_eq {function : Function} {position : Nat} {argument : Argument}
    (isThere : function.params[position]? = some argument) :
    argumentAt function position = .ok argument := by
  rw [argumentAt, isThere]

theorem modifyFunction_eq (present : id < draft.forest.functionCount)
    (change : Function → Function) :
    modifyFunction draft id change = .ok (draft.modifyFunction id change) := by
  rw [modifyFunction, within_of present]
  rfl

theorem modifyAt_eq {position : Nat} (present : id < draft.forest.functionCount)
    (isThere : position < (draft.forest.functionAt id).params.length)
    (change : Function → Function) :
    modifyAt draft id position change = .ok (draft.modifyFunction id change) := by
  rw [modifyAt, functionAt_eq present, ok_bind, within_of isThere]
  rfl

theorem modifyClass_eq (valid : c < draft.forest.hierarchy.size) (change : Class → Class) :
    modifyClass draft c change = .ok (draft.modifyClass c change) := by
  rw [modifyClass, within_of valid]
  rfl

/-- What is required is there. -/
theorem snd_requireClass_lt {parent : Option ClassId} (name : String)
    (below : ∀ outer ∈ parent, outer < draft.forest.hierarchy.size) :
    (draft.requireClass parent name).2 <
      (draft.requireClass parent name).1.forest.hierarchy.size := by
  rw [Draft.snd_requireClass, Draft.forest_requireClass]
  exact Hierarchy.snd_require_lt name below

theorem lt_size_requireClass {parent : Option ClassId} (name : String)
    (valid : c < draft.forest.hierarchy.size) :
    c < (draft.requireClass parent name).1.forest.hierarchy.size := by
  rw [Draft.forest_requireClass]
  exact Nat.lt_of_lt_of_le valid (Hierarchy.size_le_size_require _ parent name)

theorem requireClass_eq {parent : Option ClassId} (name : String)
    (below : ∀ outer ∈ parent, outer < draft.forest.hierarchy.size) :
    requireClass draft parent name = .ok (draft.requireClass parent name) := by
  have siblings : ∀ c ∈ draft.forest.hierarchy.children parent, c < draft.forest.hierarchy.size :=
    fun _ => Hierarchy.lt_size_of_mem_children
  rw [requireClass, within_of below, ok_bind, within_of siblings, ok_bind]
  dsimp only
  rw [within_of (snd_requireClass_lt name below)]
  rfl

theorem allClasses_eq (draft : Draft) : allClasses draft = .ok draft.forest.allClasses := by
  have valid : ∀ c ∈ draft.forest.allClasses, c < draft.forest.hierarchy.size :=
    fun _ => Forest.lt_size_of_mem_allClasses
  rw [allClasses, within_of valid]
  rfl

theorem findM?_eq {items : List α} {wanted : α → Guarded Bool} {plain : α → Bool}
    (each : ∀ item ∈ items, wanted item = .ok (plain item)) :
    items.findM? wanted = .ok (items.find? plain) := by
  induction items with
  | nil => rfl
  | cons item rest ih =>
      have later := ih fun item member => each item (List.mem_cons_of_mem _ member)
      rw [List.findM?, each item List.mem_cons_self, ok_bind, List.find?_cons]
      cases plain item with
      | true => rfl
      | false => exact later

theorem findMethod?_eq (sound : draft.forest.Sound) (valid : c < draft.forest.hierarchy.size)
    (wanted : Function → Bool) :
    findMethod? draft c wanted =
      .ok ((draft.forest.methods c).find? fun id => wanted (draft.forest.functionAt id)) := by
  rw [findMethod?, methods_eq valid, ok_bind]
  refine findM?_eq fun id isMethod => ?_
  rw [functionAt_eq (sound.lt_of_mem_methods isMethod)]
  rfl

/-! ## Loops -/

/-- A loop whose steps need no guards, as long as something holds of what is still to come. -/
theorem foldlM_eq {visit : Draft → α → Guarded Draft} {plain : Draft → α → Except Stopped Draft}
    (Remaining : List α → Forest → Prop)
    (each : ∀ draft item rest, Remaining (item :: rest) draft.forest →
      visit draft item = follow (plain draft item) ∧
        ∀ next, plain draft item = .ok next → Remaining rest next.forest)
    {items : List α} {draft : Draft} (start : Remaining items draft.forest) :
    items.foldlM visit draft = follow (items.foldlM plain draft) ∧
      ∀ final, items.foldlM plain draft = .ok final → Remaining [] final.forest := by
  induction items generalizing draft with
  | nil =>
      refine ⟨rfl, fun final finished => ?_⟩
      obtain rfl : draft = final := Except.ok.inj finished
      exact start
  | cons item rest ih =>
      obtain ⟨same, keeps⟩ := each draft item rest start
      rw [List.foldlM_cons, List.foldlM_cons, same]
      cases result : plain draft item with
      | error stopped => exact ⟨rfl, fun final finished => nomatch finished⟩
      | ok next => exact ih (keeps next result)

/-- The same for steps that do not give up. -/
theorem foldlM_eq_foldl {visit : Draft → α → Guarded Draft} {plain : Draft → α → Draft}
    (Remaining : List α → Forest → Prop)
    (each : ∀ draft item rest, Remaining (item :: rest) draft.forest →
      visit draft item = .ok (plain draft item) ∧ Remaining rest (plain draft item).forest)
    {items : List α} {draft : Draft} (start : Remaining items draft.forest) :
    items.foldlM visit draft = .ok (items.foldl plain draft) ∧
      Remaining [] (items.foldl plain draft).forest := by
  induction items generalizing draft with
  | nil => exact ⟨rfl, start⟩
  | cons item rest ih =>
      obtain ⟨same, remaining⟩ := each draft item rest start
      rw [List.foldlM_cons, same]
      exact ih remaining

theorem mapM_eq {items : List α} {visit : α → Guarded β} {plain : α → β}
    (each : ∀ item ∈ items, visit item = .ok (plain item)) :
    items.mapM visit = .ok (items.map plain) := by
  induction items with
  | nil => rfl
  | cons item rest ih =>
      rw [List.mapM_cons, each item List.mem_cons_self, ok_bind,
        ih fun item member => each item (List.mem_cons_of_mem _ member)]
      rfl

/-- Whether a forest stays sound and everything that is there stays there. -/
structure Preserves (before after : Forest) : Prop where
  sound : before.Sound → after.Sound
  valid : before.hierarchy.size ≤ after.hierarchy.size
  present : before.functionCount ≤ after.functionCount

namespace Preserves

variable {before middle after : Forest}

theorem ofMoves (moves : Moves settings kinds before after) : Preserves before after :=
  ⟨moves.sound, moves.hierarchy_extends.size_le, moves.functionCount_le⟩

theorem modifyFunction (forest : Forest) (id : FunctionId) (change : Function → Function) :
    Preserves forest (forest.modifyFunction id change) :=
  ⟨fun sound => sound.modifyFunction, Nat.le_refl _,
    (forest.functionCount_modifyFunction id change).ge⟩

end Preserves

/-- What a loop over the methods of classes may rely on: the classes and methods that are still to
come are there. -/
structure Ahead (classes : List ClassId) (ids : List FunctionId) (forest : Forest) : Prop where
  sound : forest.Sound
  valid : ∀ c ∈ classes, c < forest.hierarchy.size
  present : ∀ id ∈ ids, id < forest.functionCount

theorem Ahead.next {classes : List ClassId} {id : FunctionId} {ids : List FunctionId}
    {before after : Forest} (ahead : Ahead classes (id :: ids) before)
    (preserves : Preserves before after) : Ahead classes ids after where
  sound := preserves.sound ahead.sound
  valid := fun c member => Nat.lt_of_lt_of_le (ahead.valid c member) preserves.valid
  present := fun id member =>
    Nat.lt_of_lt_of_le (ahead.present id (List.mem_cons_of_mem _ member)) preserves.present

theorem Ahead.free {forest : Forest} (sound : forest.Sound) : Ahead [] forest.free forest :=
  ⟨sound, fun _ member => (nomatch member), fun _ isFree => sound.lt_of_mem_free isFree⟩

theorem Ahead.methods {forest : Forest} (sound : forest.Sound) (c : ClassId) :
    Ahead [] (forest.methods c) forest :=
  ⟨sound, fun _ member => (nomatch member), fun _ isMethod => sound.lt_of_mem_methods isMethod⟩

section Methods

variable {step : ClassId → FunctionId → Draft → Guarded Draft}

/-- A loop over all methods whose steps need no guards, if something holds of the methods of the
class that are still to come. -/
theorem forEachMethod_follow {plain : ClassId → FunctionId → Draft → Except Stopped Draft}
    (Remaining : ClassId → List FunctionId → Forest → Prop)
    (enter : ∀ forest c, forest.Sound → Remaining c (forest.methods c) forest)
    (each : ∀ draft c id rest, draft.forest.Sound → c < draft.forest.hierarchy.size →
      id < draft.forest.functionCount → Remaining c (id :: rest) draft.forest →
      step c id draft = follow (plain c id draft))
    (preserves : ∀ draft c id rest, draft.forest.Sound → Remaining c (id :: rest) draft.forest →
      Preserves draft.forest (reached (plain c id draft)).forest ∧
        Remaining c rest (reached (plain c id draft)).forest)
    (sound : draft.forest.Sound) :
    forEachMethod draft step = follow (draft.tryForEachMethod plain) := by
  have loop (c : ClassId) (classes : List ClassId) {ids : List FunctionId} {draft : Draft}
      (ahead : Ahead (c :: classes) ids draft.forest) (remaining : Remaining c ids draft.forest) :
      ids.foldlM (fun draft id => step c id draft) draft =
          follow (ids.foldlM (fun draft id => plain c id draft) draft) ∧
        ∀ final, ids.foldlM (fun draft id => plain c id draft) draft = .ok final →
          Ahead (c :: classes) [] final.forest ∧ Remaining c [] final.forest := by
    refine foldlM_eq (fun ids forest => Ahead (c :: classes) ids forest ∧ Remaining c ids forest)
      (fun draft id rest facts => ?_) ⟨ahead, remaining⟩
    obtain ⟨ahead, remaining⟩ := facts
    refine ⟨each draft c id rest ahead.sound (ahead.valid c List.mem_cons_self)
      (ahead.present id List.mem_cons_self) remaining, fun next result => ?_⟩
    obtain ⟨kept, still⟩ := preserves draft c id rest ahead.sound remaining
    rw [result] at kept still
    exact ⟨ahead.next kept, still⟩
  have start : Ahead draft.forest.allClasses [] draft.forest :=
    ⟨sound, fun _ => Forest.lt_size_of_mem_allClasses, fun _ member => nomatch member⟩
  rw [forEachMethod, allClasses_eq, ok_bind]
  refine (foldlM_eq (fun classes forest => Ahead classes [] forest)
    (fun draft c classes ahead => ?_) start).1
  obtain ⟨same, keeps⟩ := loop c classes
    ⟨ahead.sound, ahead.valid, fun _ isMethod => ahead.sound.lt_of_mem_methods isMethod⟩
    (enter draft.forest c ahead.sound)
  rw [methods_eq (ahead.valid c List.mem_cons_self), ok_bind]
  refine ⟨same, fun next finished => ?_⟩
  have later := (keeps next finished).1
  exact ⟨later.sound, fun c member => later.valid c (List.mem_cons_of_mem _ member), later.present⟩

/-- The same for steps that do not give up. -/
theorem forEachMethod_eq {plain : ClassId → FunctionId → Draft → Draft}
    (Remaining : ClassId → List FunctionId → Forest → Prop)
    (enter : ∀ forest c, forest.Sound → Remaining c (forest.methods c) forest)
    (each : ∀ draft c id rest, draft.forest.Sound → c < draft.forest.hierarchy.size →
      id < draft.forest.functionCount → Remaining c (id :: rest) draft.forest →
      step c id draft = .ok (plain c id draft))
    (preserves : ∀ draft c id rest, draft.forest.Sound → Remaining c (id :: rest) draft.forest →
      Preserves draft.forest (plain c id draft).forest ∧
        Remaining c rest (plain c id draft).forest)
    (sound : draft.forest.Sound) :
    forEachMethod draft step = .ok (draft.forEachMethod plain) := by
  have total : forEachMethod draft step =
      follow (draft.tryForEachMethod fun c id draft => .ok (plain c id draft)) :=
    forEachMethod_follow Remaining enter each preserves sound
  rwa [tryForEachMethod_ok] at total

theorem forEachMethod_modify (change : Function → Function) (sound : draft.forest.Sound) :
    forEachMethod draft (fun _ id draft => modifyFunction draft id change) =
      .ok (draft.forEachMethod fun _ id draft => draft.modifyFunction id change) :=
  forEachMethod_eq (fun _ _ _ => True) (fun _ _ _ => trivial)
    (fun _ _ _ _ _ _ present _ => modifyFunction_eq present change)
    (fun _ _ _ _ _ _ => ⟨.modifyFunction _ _ _, trivial⟩) sound

end Methods

end Guarded

end Bindery
