import Bindery.Proofs.Contents

/-!
# The slots of top classes

Every top class has one slot for an allocator and one for a deallocator.  A function that comes
into a slot pushes out what was there, and what was pushed out is held by nothing any more.  No
top class ever wraps a number, so a function that is meant for a slot always gets it.
-/

namespace Bindery

/-- The slots of a native handle. -/
inductive RootSlot where
  | alloc
  | dealloc
  deriving DecidableEq

namespace RootSlot

/-- What a class has in the slot. -/
def get : RootSlot → Class → Option FunctionId
  | alloc, c => c.alloc?
  | dealloc, c => c.dealloc?

/-- The class with the function in the slot. -/
def fill : RootSlot → FunctionId → Class → Class
  | alloc, id, c => c.withAlloc id
  | dealloc, id, c => c.withDealloc id

def other : RootSlot → RootSlot
  | alloc => dealloc
  | dealloc => alloc

/-- The moves that fill the slot. -/
def move : RootSlot → MoveKind
  | alloc => .allocate
  | dealloc => .deallocate

variable (slot : RootSlot) {content : Class} {id : FunctionId}

@[simp]
theorem get_default : slot.get default = none := by
  cases slot <;> rfl

theorem get_of_handle {left right : Class} (same : left.handle = right.handle) :
    slot.get left = slot.get right := by
  cases slot with
  | alloc => simp only [get, Class.alloc?, same]
  | dealloc => simp only [get, Class.dealloc?, same]

theorem get_fill_self (vacant : content.holdsObject = true) :
    slot.get (slot.fill id content) = some id := by
  obtain ⟨isCallback, handle, defaultInit, properties, methods⟩ := content
  match handle with
  | none => cases slot <;> rfl
  | some (.native _ _) => cases slot <;> rfl
  | some (.number _) => cases vacant

theorem get_fill_other : slot.other.get (slot.fill id content) = slot.other.get content := by
  obtain ⟨isCallback, handle, defaultInit, properties, methods⟩ := content
  match handle with
  | none => cases slot <;> rfl
  | some (.native _ _) => cases slot <;> rfl
  | some (.number _) => cases slot <;> rfl

theorem holdsObject_fill (vacant : content.holdsObject = true) :
    (slot.fill id content).holdsObject = true := by
  obtain ⟨isCallback, handle, defaultInit, properties, methods⟩ := content
  match handle with
  | none => cases slot <;> rfl
  | some (.native _ _) => cases slot <;> rfl
  | some (.number _) => cases vacant

theorem held_fill (vacant : content.holdsObject = true) :
    (slot.fill id content).held + ↑(slot.get content).toList = id ::ₘ content.held := by
  cases slot with
  | alloc => exact Class.held_withAlloc id vacant
  | dealloc => exact Class.held_withDealloc id vacant

end RootSlot

namespace Forest

variable {forest older newer : Forest} {slot : RootSlot} {name : String} {c : ClassId}
  {id : FunctionId}

/-- Whether the top class of the name has something in the slot. -/
def Fills (forest : Forest) (slot : RootSlot) (name : String) : Prop :=
  ∃ c, forest.hierarchy.parent? c = none ∧ forest.className c = name ∧
    (slot.get (forest.classAt c)).isSome = true

/-- Whether no top class wraps a number. -/
def RootsHold (forest : Forest) : Prop :=
  ∀ c, forest.hierarchy.parent? c = none → (forest.classAt c).holdsObject = true

theorem lt_size_of_isSome (filled : (slot.get (forest.classAt c)).isSome = true) :
    c < forest.hierarchy.size := by
  by_contra beyond
  rw [classAt_of_size_le (Nat.le_of_not_lt beyond), RootSlot.get_default] at filled
  cases filled

theorem fills_iff_of_extends (growth : older.hierarchy.Extends newer.hierarchy)
    (same : ∀ c, slot.get (newer.classAt c) = slot.get (older.classAt c)) :
    newer.Fills slot name ↔ older.Fills slot name := by
  constructor
  · intro ⟨c, isRoot, named, filled⟩
    rw [same] at filled
    have valid := lt_size_of_isSome filled
    rw [growth.parent?_eq valid] at isRoot
    rw [className, growth.name_eq valid] at named
    exact ⟨c, isRoot, named, filled⟩
  · intro ⟨c, isRoot, named, filled⟩
    have valid := lt_size_of_isSome filled
    rw [← growth.parent?_eq valid] at isRoot
    rw [className, ← growth.name_eq valid] at named
    rw [← same] at filled
    exact ⟨c, isRoot, named, filled⟩

/-- A slot of one class is filled if that class is the one of the name. -/
theorem fills_iff (valid : c < forest.hierarchy.size) (isRoot : forest.hierarchy.parent? c = none)
    (named : forest.className c = name) :
    forest.Fills slot name ↔ (slot.get (forest.classAt c)).isSome = true := by
  constructor
  · intro ⟨other, otherRoot, otherNamed, filled⟩
    have same : other = c := Hierarchy.eq_of_parent?_of_name (lt_size_of_isSome filled) valid
      (otherRoot.trans isRoot.symm) (otherNamed.trans named.symm)
    exact same ▸ filled
  · intro filled
    exact ⟨c, isRoot, named, filled⟩

/-! ## Filling a slot -/

/-- The forest in which a free function has come into the slot of a class. -/
def fillSlot (forest : Forest) (slot : RootSlot) (c : ClassId) (id : FunctionId) : Forest :=
  (forest.modifyClass c (slot.fill id)).takeFree id

theorem classAt_fillSlot_self (valid : c < forest.hierarchy.size) :
    (forest.fillSlot slot c id).classAt c = slot.fill id (forest.classAt c) :=
  classAt_modifyClass_self valid

theorem classAt_fillSlot_of_ne {place : ClassId} (different : place ≠ c) :
    (forest.fillSlot slot c id).classAt place = forest.classAt place :=
  classAt_modifyClass_of_ne different

theorem get_other_fillSlot (place : ClassId) :
    slot.other.get ((forest.fillSlot slot c id).classAt place) =
      slot.other.get (forest.classAt place) := by
  rcases (forest.takeFree id).classAt_modifyClass_or c (slot.fill id) place with
    same | ⟨rfl, filled⟩
  · exact congrArg slot.other.get same
  · exact (congrArg slot.other.get filled).trans (RootSlot.get_fill_other ..)

theorem fills_fillSlot_iff (valid : c < forest.hierarchy.size)
    (isRoot : forest.hierarchy.parent? c = none) (named : forest.className c = name)
    (vacant : (forest.classAt c).holdsObject = true) {other : String} :
    (forest.fillSlot slot c id).Fills slot other ↔ other = name ∨ forest.Fills slot other := by
  constructor
  · intro ⟨place, placeRoot, placeNamed, filled⟩
    by_cases same : place = c
    · subst same
      exact .inl (placeNamed.symm.trans named)
    · rw [classAt_fillSlot_of_ne same] at filled
      exact .inr ⟨place, placeRoot, placeNamed, filled⟩
  · intro filled
    have fresh : (slot.get ((forest.fillSlot slot c id).classAt c)).isSome = true := by
      rw [classAt_fillSlot_self valid, RootSlot.get_fill_self slot vacant]
      rfl
    rcases filled with isName | ⟨place, placeRoot, placeNamed, filled⟩
    · exact ⟨c, isRoot, named.trans isName.symm, fresh⟩
    · by_cases same : place = c
      · subst same
        exact ⟨place, placeRoot, placeNamed, fresh⟩
      · have stays : (forest.fillSlot slot c id).classAt place = forest.classAt place :=
          classAt_fillSlot_of_ne same
        exact ⟨place, placeRoot, placeNamed, stays ▸ filled⟩

theorem rootsHold_requireClass (roots : forest.RootsHold) (parent : Option ClassId)
    (name : String) : (forest.requireClass parent name).1.RootsHold := by
  intro c isRoot
  rw [classAt_requireClass]
  exact roots c ((forest.hierarchy.extends_require parent name).isRoot isRoot)

theorem rootsHold_fillSlot (roots : forest.RootsHold) (c : ClassId) :
    (forest.fillSlot slot c id).RootsHold := by
  intro place isRoot
  by_cases same : place = c
  · subst same
    by_cases valid : place < forest.hierarchy.size
    · rw [classAt_fillSlot_self valid]
      exact slot.holdsObject_fill (roots place isRoot)
    · rw [@classAt_of_size_le (forest.fillSlot slot place id) _ (Nat.le_of_not_lt valid)]
      rfl
  · rw [classAt_fillSlot_of_ne same]
    exact roots place isRoot

/-- What is lost after a change that pushes out some functions and takes no other. -/
theorem lost_of_held_add (sound : older.Sound) (evicted : List FunctionId)
    (counted : newer.functionCount = older.functionCount)
    (balance : newer.held + ↑evicted = older.held) :
    newer.lost = older.lost + evicted.length := by
  have cards : newer.held.card + evicted.length = older.held.card := by
    rw [← balance, Multiset.card_add, Multiset.coe_card]
  have total := sound.lost_add_card
  rw [lost, counted]
  omega

/-- Filling a slot loses a function exactly if the slot was filled before. -/
theorem lost_fillSlot_eq_zero_iff (sound : forest.Sound) (valid : c < forest.hierarchy.size)
    (isRoot : forest.hierarchy.parent? c = none) (named : forest.className c = name)
    (vacant : (forest.classAt c).holdsObject = true) (isFree : id ∈ forest.free) :
    (forest.fillSlot slot c id).lost = 0 ↔ forest.lost = 0 ∧ ¬ forest.Fills slot name := by
  have balance : (forest.fillSlot slot c id).held + ↑(slot.get (forest.classAt c)).toList =
      forest.held :=
    held_fillSlot (slot.fill id) _ sound.free_nodup valid isFree (slot.held_fill vacant)
  have counted : (forest.fillSlot slot c id).functionCount = forest.functionCount := rfl
  have lost := lost_of_held_add sound _ counted balance
  rw [lost, fills_iff valid isRoot named]
  cases slot.get (forest.classAt c) with
  | none => simp
  | some evicted => simp

end Forest

/-! ## What moves do to slots -/

namespace Move

variable {settings : Settings} {kind : MoveKind} {before after : Forest}

theorem slot_eq (move : Move settings kind before after) (slot : RootSlot)
    (other : kind ≠ slot.move) (place : ClassId) :
    slot.get (after.classAt place) = slot.get (before.classAt place) := by
  rcases move.classAt_step place with same | step
  · rw [same]
  · generalize before.classAt place = content, after.classAt place = changed at step ⊢
    cases step with
    | allocate isRoot vacant isFree =>
        cases slot with
        | alloc => exact absurd rfl other
        | dealloc => exact RootSlot.get_fill_other .alloc
    | deallocate isRoot vacant isFree =>
        cases slot with
        | alloc => exact RootSlot.get_fill_other .dealloc
        | dealloc => exact absurd rfl other
    | arrive isInner cameFrom =>
        obtain ⟨isCallback, handle, defaultInit, properties, methods⟩ := content
        cases handle <;> cases slot <;> rfl
    | _ => exact slot.get_of_handle rfl

theorem fills_iff (move : Move settings kind before after) (slot : RootSlot)
    (other : kind ≠ slot.move) {name : String} :
    after.Fills slot name ↔ before.Fills slot name :=
  Forest.fills_iff_of_extends move.hierarchy_extends (move.slot_eq slot other)

theorem rootsHold (move : Move settings kind before after) (roots : before.RootsHold) :
    after.RootsHold := by
  intro place isRoot
  have wasRoot := move.hierarchy_extends.isRoot isRoot
  have held := roots place wasRoot
  rcases move.classAt_step place with same | step
  · rw [same]
    exact held
  · generalize before.classAt place = content, after.classAt place = changed at step held ⊢
    cases step with
    | allocate isRoot vacant isFree => exact RootSlot.holdsObject_fill .alloc vacant
    | deallocate isRoot vacant isFree => exact RootSlot.holdsObject_fill .dealloc vacant
    | arrive isInner cameFrom =>
        rw [wasRoot] at isInner
        cases isInner
    | _ => exact held

/-- Nothing is lost where no slot is filled. -/
theorem lost_eq (move : Move settings kind before after) (sound : before.Sound)
    (evicts : kind.evicts = false) : after.lost = before.lost := by
  obtain ⟨evicted, onlyEvicting, balance⟩ := move.held_add_evicted sound
  have nothing : evicted = none := by
    cases evicted with
    | none => rfl
    | some id => simp [evicts] at onlyEvicting
  subst nothing
  have cards := congrArg Multiset.card balance
  have counted := move.functionCount_eq
  have total := sound.lost_add_card
  rw [Forest.lost, counted]
  cases adds : kind.adds with
  | true =>
      simp only [adds, Option.toList_none, Multiset.coe_nil, add_zero, if_true, Multiset.card_add,
        Multiset.card_singleton] at cards ⊢
      omega
  | false =>
      simp [adds] at cards ⊢
      omega

end Move

end Bindery
