import Bindery.Proofs.Moves

/-!
# What every move preserves

A move takes nothing out of the forest, except that an allocator, a deallocator or a default
initializer may push out the one that was there before it.  So every function is held at most once
in every state that moves lead to, and classes stay where they are.
-/

namespace Bindery

namespace Forest

variable {forest : Forest} {c inner : ClassId} {id : FunctionId}

theorem held_modifyClass_of_eq {change : Class → Class}
    (same : (change (forest.classAt c)).held = (forest.classAt c).held) :
    (forest.modifyClass c change).held = forest.held := by
  by_cases valid : c < forest.hierarchy.size
  · have balance := held_modifyClass valid change
    rw [same] at balance
    exact add_right_cancel balance
  · have beyond : forest.classes.length ≤ c := by
      rw [forest.classes_length]
      exact Nat.le_of_not_lt valid
    simp [modifyClass, List.modify_eq_self beyond]

theorem held_modifyClass_of_gain {change : Class → Class} (id : FunctionId)
    (valid : c < forest.hierarchy.size)
    (gain : (change (forest.classAt c)).held = id ::ₘ (forest.classAt c).held) :
    (forest.modifyClass c change).held = id ::ₘ forest.held := by
  have balance := held_modifyClass valid change
  rw [gain, Multiset.add_cons, ← Multiset.cons_add] at balance
  exact add_right_cancel balance

theorem held_removeMethod (isMethod : id ∈ forest.methods c) :
    id ::ₘ (forest.removeMethod c id).held = forest.held := by
  have balance := held_modifyClass (lt_size_of_mem_methods isMethod) (·.removeMethod id)
  rw [← Class.held_removeMethod isMethod, Multiset.add_cons, ← Multiset.cons_add] at balance
  exact add_right_cancel balance

theorem free_le_held (forest : Forest) : (↑forest.free : Multiset FunctionId) ≤ forest.held := by
  rw [held, add_assoc]
  exact Multiset.le_add_right _ _

theorem Sound.free_nodup (sound : forest.Sound) : forest.free.Nodup :=
  Multiset.coe_nodup.1 (Multiset.nodup_of_le forest.free_le_held sound.once)

theorem methods_le_held (c : Class) : (↑c.methods : Multiset FunctionId) ≤ c.held := by
  rw [Class.held]
  exact Multiset.le_add_left _ _

theorem classHeld_le_held (valid : c < forest.hierarchy.size) :
    (forest.classAt c).held ≤ forest.held := by
  refine le_trans ?_ (Multiset.le_add_left _ _)
  exact Multiset.le_bind _ (Multiset.mem_range.2 valid)

theorem lt_size_of_mem_held (inClass : id ∈ (forest.classAt c).held) :
    c < forest.hierarchy.size := by
  by_contra beyond
  simp [classAt_of_size_le (Nat.le_of_not_lt beyond)] at inClass

namespace Sound

theorem lt_of_mem_free (sound : forest.Sound) (isFree : id ∈ forest.free) :
    id < forest.functionCount :=
  sound.present id (Multiset.mem_of_le forest.free_le_held isFree)

theorem lt_of_mem_class (sound : forest.Sound) (inClass : id ∈ (forest.classAt c).held) :
    id < forest.functionCount :=
  sound.present id (Multiset.mem_of_le (classHeld_le_held (lt_size_of_mem_held inClass)) inClass)

theorem lt_of_mem_methods (sound : forest.Sound) (isMethod : id ∈ forest.methods c) :
    id < forest.functionCount :=
  sound.lt_of_mem_class (Multiset.mem_of_le (methods_le_held _) isMethod)

theorem methods_nodup (sound : forest.Sound) (c : ClassId) : (forest.methods c).Nodup := by
  by_cases valid : c < forest.hierarchy.size
  · exact Multiset.coe_nodup.1 (Multiset.nodup_of_le
      ((methods_le_held _).trans (classHeld_le_held valid)) sound.once)
  · rw [methods, classAt_of_size_le (Nat.le_of_not_lt valid)]
    exact List.nodup_nil

theorem modifyFunction (sound : forest.Sound) {change : Function → Function} :
    (forest.modifyFunction id change).Sound where
  once := sound.once
  present := by
    rw [functionCount_modifyFunction]
    exact sound.present
  homes := sound.homes

/-- A function is held by one class at most. -/
theorem class_unique (sound : forest.Sound) {left right : ClassId}
    (inLeft : id ∈ (forest.classAt left).held) (inRight : id ∈ (forest.classAt right).held) :
    left = right := by
  by_contra different
  obtain ⟨others, split⟩ :=
    Multiset.exists_cons_of_mem (Multiset.mem_range.2 (lt_size_of_mem_held inLeft))
  have elsewhere : right ∈ others := by
    have member := Multiset.mem_range.2 (lt_size_of_mem_held inRight)
    rw [split] at member
    exact (Multiset.mem_cons.1 member).resolve_left (Ne.symm different)
  have both : (forest.classAt left).held + (forest.classAt right).held ≤ forest.held := by
    refine le_trans ?_ (Multiset.le_add_left _ _)
    rw [split, Multiset.cons_bind]
    exact add_le_add_right (Multiset.le_bind _ elsewhere) _
  have disjoint := Multiset.nodup_add.1 (Multiset.nodup_of_le both sound.once)
  exact Multiset.disjoint_left.1 disjoint.2.2 inLeft inRight

end Sound

/-- No function is a method twice, in one class or in two. -/
structure MethodsDistinct (forest : Forest) : Prop where
  nodup : ∀ c, (forest.methods c).Nodup
  unique : ∀ {id left right}, id ∈ forest.methods left → id ∈ forest.methods right → left = right

theorem Sound.methodsDistinct (sound : forest.Sound) : forest.MethodsDistinct where
  nodup := sound.methods_nodup
  unique := fun inLeft inRight => sound.class_unique
    (Multiset.mem_of_le (methods_le_held _) inLeft)
    (Multiset.mem_of_le (methods_le_held _) inRight)

theorem held_takeFree (once : forest.free.Nodup) (isFree : id ∈ forest.free) :
    id ::ₘ (forest.takeFree id).held = forest.held := by
  have split : (↑forest.free : Multiset FunctionId) =
      id ::ₘ ↑(forest.free.filter (· != id)) := by
    rw [← once.erase_eq_filter, Multiset.cons_coe, Multiset.coe_eq_coe]
    exact List.perm_cons_erase isFree
  rw [held, held, split, Multiset.cons_add, Multiset.cons_add]
  rfl

/-- A free function fills a slot, out of which it pushes what was there. -/
theorem held_fillSlot (change : Class → Class) (evicted : Option FunctionId)
    (once : forest.free.Nodup) (valid : c < forest.hierarchy.size) (isFree : id ∈ forest.free)
    (fills : (change (forest.classAt c)).held + ↑evicted.toList =
      id ::ₘ (forest.classAt c).held) :
    ((forest.modifyClass c change).takeFree id).held + ↑evicted.toList = forest.held := by
  have balance := held_modifyClass valid change
  have taken : id ::ₘ ((forest.modifyClass c change).takeFree id).held =
      (forest.modifyClass c change).held := held_takeFree once isFree
  rw [← taken] at balance
  refine (Multiset.cons_inj_right id).1 (add_right_cancel (b := (forest.classAt c).held) ?_)
  calc
    (id ::ₘ (((forest.modifyClass c change).takeFree id).held + ↑evicted.toList)) +
        (forest.classAt c).held =
        (id ::ₘ ((forest.modifyClass c change).takeFree id).held + (forest.classAt c).held) +
          ↑evicted.toList := by
      rw [← Multiset.cons_add]
      ac_rfl
    _ = forest.held + ((change (forest.classAt c)).held + ↑evicted.toList) := by
      rw [balance]
      ac_rfl
    _ = (id ::ₘ forest.held) + (forest.classAt c).held := by
      rw [fills, Multiset.add_cons, Multiset.cons_add]

theorem held_adoptAll (valid : c < forest.hierarchy.size) :
    ({ forest.modifyClass c fun c => { c with methods := c.methods ++ forest.free } with
        free := [] } : Forest).held = forest.held := by
  let changed := forest.modifyClass c fun c => { c with methods := c.methods ++ forest.free }
  have gained : ({ forest.classAt c with
      methods := (forest.classAt c).methods ++ forest.free } : Class).held =
      ↑forest.free + (forest.classAt c).held := by
    simp only [Class.held, ← Multiset.coe_add]
    ac_rfl
  have emptied : changed.held = ↑forest.free + ({ changed with free := [] } : Forest).held := by
    simp only [held, Multiset.coe_nil, zero_add, add_assoc]
    rfl
  apply add_left_cancel (a := (↑forest.free : Multiset FunctionId))
  apply add_right_cancel (b := (forest.classAt c).held)
  calc
    ↑forest.free + ({ changed with free := [] } : Forest).held + (forest.classAt c).held =
        changed.held + (forest.classAt c).held := by
      rw [emptied]
    _ = forest.held + (↑forest.free + (forest.classAt c).held) := by
      rw [← gained]
      exact held_modifyClass valid fun c => { c with methods := c.methods ++ forest.free }
    _ = ↑forest.free + forest.held + (forest.classAt c).held := by
      ac_rfl

theorem descend_eq (isMethod : id ∈ forest.methods c) (type : ValueType) (different : c ≠ inner) :
    forest.descend c inner id type =
      (((forest.modifyFunction id (·.dropParameter 0)).modifyClass inner
        (NumberHandles.wrapNumber type)).removeMethod c id).modifyClass inner (·.addMethod id) := by
  rw [descend, moveMethod, if_pos]
  rw [methods, classAt_modifyClass_of_ne different]
  exact isMethod

theorem classAt_descend_inner (isMethod : id ∈ forest.methods c) (different : c ≠ inner)
    (valid : inner < forest.hierarchy.size) (type : ValueType) :
    (forest.descend c inner id type).classAt inner =
      (NumberHandles.wrapNumber type (forest.classAt inner)).addMethod id := by
  let dropped := forest.modifyFunction id (·.dropParameter 0)
  let wrapped := dropped.modifyClass inner (NumberHandles.wrapNumber type)
  have isWrapped : wrapped.classAt inner = NumberHandles.wrapNumber type (dropped.classAt inner) :=
    classAt_modifyClass_self valid
  have stays : (wrapped.removeMethod c id).classAt inner = wrapped.classAt inner :=
    classAt_modifyClass_of_ne (Ne.symm different)
  have arrives : ((wrapped.removeMethod c id).modifyClass inner (·.addMethod id)).classAt inner =
      ((wrapped.removeMethod c id).classAt inner).addMethod id :=
    classAt_modifyClass_self valid
  rw [descend_eq isMethod type different]
  exact arrives.trans (by rw [stays, isWrapped]; rfl)

theorem classAt_descend_outer (isMethod : id ∈ forest.methods c) (different : c ≠ inner)
    (type : ValueType) :
    (forest.descend c inner id type).classAt c = (forest.classAt c).removeMethod id := by
  let dropped := forest.modifyFunction id (·.dropParameter 0)
  let wrapped := dropped.modifyClass inner (NumberHandles.wrapNumber type)
  have unwrapped : wrapped.classAt c = forest.classAt c := classAt_modifyClass_of_ne different
  have valid : c < wrapped.hierarchy.size := @lt_size_of_mem_methods forest c id isMethod
  have leaves : (wrapped.removeMethod c id).classAt c = (wrapped.classAt c).removeMethod id :=
    classAt_modifyClass_self valid
  rw [descend_eq isMethod type different, classAt_modifyClass_of_ne different]
  exact leaves.trans (by rw [unwrapped])

theorem classAt_descend_of_ne (isMethod : id ∈ forest.methods c) (different : c ≠ inner)
    (type : ValueType) {place : ClassId} (notOuter : place ≠ c) (notInner : place ≠ inner) :
    (forest.descend c inner id type).classAt place = forest.classAt place := by
  rw [descend_eq isMethod type different, classAt_modifyClass_of_ne notInner, removeMethod,
    classAt_modifyClass_of_ne notOuter, classAt_modifyClass_of_ne notInner]
  rfl

theorem held_wrapNumber (c : Class) (type : ValueType) :
    (NumberHandles.wrapNumber type c).held = c.held := by
  obtain ⟨isCallback, handle, defaultInit, properties, methods⟩ := c
  cases handle <;> rfl

theorem held_descend (isMethod : id ∈ forest.methods c) (type : ValueType)
    (different : c ≠ inner) (valid : inner < forest.hierarchy.size) :
    (forest.descend c inner id type).held = forest.held := by
  let wrapped := (forest.modifyFunction id (·.dropParameter 0)).modifyClass inner
    (NumberHandles.wrapNumber type)
  have stays : id ∈ wrapped.methods c := by
    rw [methods, classAt_modifyClass_of_ne different]
    exact isMethod
  have wrappedHeld : wrapped.held = forest.held :=
    held_modifyClass_of_eq (held_wrapNumber _ type)
  have gained : ((wrapped.removeMethod c id).modifyClass inner (·.addMethod id)).held =
      id ::ₘ (wrapped.removeMethod c id).held :=
    held_modifyClass_of_gain id valid (Class.held_addMethod _ id)
  rw [descend_eq isMethod type different, ← wrappedHeld, ← held_removeMethod stays]
  exact gained

theorem held_detach (isMethod : id ∈ forest.methods c) :
    (forest.detach c id).held = forest.held := by
  rw [← held_removeMethod isMethod]
  simp only [held, detach, List.map_append, List.map_singleton, ← Multiset.coe_add,
    Multiset.coe_singleton]
  rw [← Multiset.singleton_add]
  simp only [removeMethod, modifyClass]
  ac_rfl

theorem held_intake (forest : Forest) (function : Function) :
    ({ forest.addFunction function with
        free := forest.free ++ [forest.functionCount] } : Forest).held =
      forest.functionCount ::ₘ forest.held := by
  simp only [held, ← Multiset.coe_add, Multiset.coe_singleton]
  rw [← Multiset.singleton_add]
  simp only [addFunction]
  ac_rfl

end Forest

variable {settings : Settings} {kind : MoveKind} {before after : Forest}

namespace Move

theorem hierarchy_extends (move : Move settings kind before after) :
    before.hierarchy.Extends after.hierarchy := by
  cases move with
  | listen function name => exact before.hierarchy.extends_require none name
  | require name below => exact before.hierarchy.extends_require _ name
  | descend isMethod valid isInner leading marked =>
      rw [Forest.descend_eq isMethod _ (Nat.ne_of_lt (Hierarchy.parent_lt isInner))]
      exact .refl _
  | _ => exact .refl _

theorem functionCount_eq (move : Move settings kind before after) :
    after.functionCount = before.functionCount + if kind.adds then 1 else 0 := by
  cases move with
  | intake function => exact before.functionCount_addFunction function
  | listen function name => exact before.functionCount_addFunction function
  | edit edited => exact before.functionCount_modifyFunction _ _
  | descend isMethod valid isInner leading marked =>
      rw [Forest.descend_eq isMethod _ (Nat.ne_of_lt (Hierarchy.parent_lt isInner))]
      exact before.functionCount_modifyFunction _ _
  | _ => rfl

/-- What is held after a move, together with what the move pushed out, is what was held before,
together with the function that the move added. -/
theorem held_add_evicted (move : Move settings kind before after) (sound : before.Sound) :
    ∃ evicted : Option FunctionId, (evicted.isSome = true → kind.evicts = true) ∧
      after.held + ↑evicted.toList =
        (if kind.adds then {before.functionCount} else 0) + before.held := by
  have kept (same : after.held = before.held) (adds : kind.adds = false) :
      ∃ evicted : Option FunctionId, (evicted.isSome = true → kind.evicts = true) ∧
        after.held + ↑evicted.toList =
          (if kind.adds then {before.functionCount} else 0) + before.held :=
    ⟨none, by simp, by simp [same, adds]⟩
  cases move with
  | register enums => exact kept rfl rfl
  | intake function =>
      refine ⟨none, by simp, ?_⟩
      simp [Forest.held_intake, MoveKind.adds, Multiset.singleton_add]
  | listen function name =>
      refine ⟨none, by simp, ?_⟩
      rw [Forest.held_modifyClass_of_gain before.functionCount
        (Hierarchy.snd_require_lt name (by simp)) (Class.held_addMethod _ _)]
      have stored : (before.addFunction function).held = before.held := rfl
      simp [stored, MoveKind.adds, Multiset.singleton_add]
  | edit edited => exact kept rfl rfl
  | require name below => exact kept (before.held_requireClass _ name) rfl
  -- A slot that is filled twice gives up the function that it held.
  | @allocate _ c id valid isRoot vacant isFree =>
      refine ⟨(before.classAt c).alloc?, fun _ => rfl, ?_⟩
      have fills := Forest.held_fillSlot (·.withAlloc id) (before.classAt c).alloc?
        sound.free_nodup valid isFree (Class.held_withAlloc id vacant)
      exact fills.trans (zero_add _).symm
  | @deallocate _ c id valid isRoot vacant isFree =>
      refine ⟨(before.classAt c).dealloc?, fun _ => rfl, ?_⟩
      have fills := Forest.held_fillSlot (·.withDealloc id) (before.classAt c).dealloc?
        sound.free_nodup valid isFree (Class.held_withDealloc id vacant)
      exact fills.trans (zero_add _).symm
  | adopt valid isFree =>
      refine kept ?_ rfl
      have fills := Forest.held_fillSlot (·.addMethod _) none sound.free_nodup valid isFree
        (by simpa using Class.held_addMethod _ _)
      simpa using fills
  | adoptAll valid => exact kept (Forest.held_adoptAll valid) rfl
  | descend isMethod valid isInner leading marked =>
      exact kept (Forest.held_descend isMethod _ (Nat.ne_of_lt (Hierarchy.parent_lt isInner))
        valid) rfl
  | detach isMethod => exact kept (Forest.held_detach isMethod) rfl
  -- A class that has an initializer already gives that up.
  | @takeInitializer _ c id isMethod =>
      refine ⟨(before.classAt c).defaultInit, fun _ => rfl, ?_⟩
      have balance := Forest.held_modifyClass (Forest.lt_size_of_mem_methods isMethod)
        fun c => { c.removeMethod id with defaultInit := some id }
      rw [← Class.held_takeInitializer isMethod, ← add_assoc, add_right_comm] at balance
      exact (add_right_cancel balance).trans (zero_add _).symm
  | addProperty isMethod name isStatic =>
      exact kept (Forest.held_modifyClass_of_eq (Class.held_addProperty isMethod name isStatic)) rfl
  | addSetter isMethod isLast vacant =>
      refine kept (Forest.held_modifyClass_of_eq ?_) rfl
      rw [isLast, Accessors.setLast_append]
      exact Class.held_addSetter isMethod isLast vacant
  | renameProperties c names =>
      exact kept (Forest.held_modifyClass_of_eq (Class.held_mapProperties _ fun _ => rfl)) rfl

/-- Only the filling of slots loses functions. -/
theorem held_eq (move : Move settings kind before after) (sound : before.Sound)
    (adds : kind.adds = false) (evicts : kind.evicts = false) : after.held = before.held := by
  obtain ⟨evicted, onlyEvicting, balance⟩ := move.held_add_evicted sound
  have none : evicted = none := by
    cases evicted with
    | none => rfl
    | some id => simp [evicts] at onlyEvicting
  simpa [none, adds] using balance

theorem homes_valid (move : Move settings kind before after)
    (homes : ∀ entry ∈ before.detached, entry.2 < before.hierarchy.size) :
    ∀ entry ∈ after.detached, entry.2 < after.hierarchy.size := by
  have grow : before.hierarchy.size ≤ after.hierarchy.size := move.hierarchy_extends.size_le
  have kept (same : after.detached = before.detached) :
      ∀ entry ∈ after.detached, entry.2 < after.hierarchy.size := by
    intro entry member
    exact Nat.lt_of_lt_of_le (homes entry (same ▸ member)) grow
  cases move with
  | descend isMethod valid isInner leading marked =>
      apply kept
      rw [Forest.descend_eq isMethod _ (Nat.ne_of_lt (Hierarchy.parent_lt isInner))]
      rfl
  | detach isMethod =>
      intro entry member
      rcases List.mem_append.1 member with old | new
      · exact homes entry old
      · rw [List.mem_singleton.1 new]
        exact @Forest.lt_size_of_mem_methods before _ _ isMethod
  | _ => exact kept rfl

theorem sound (move : Move settings kind before after) (sound : before.Sound) : after.Sound := by
  obtain ⟨evicted, -, balance⟩ := move.held_add_evicted sound
  have held_le : after.held ≤
      (if kind.adds then {before.functionCount} else 0) + before.held :=
    balance ▸ Multiset.le_add_right _ _
  have fresh : before.functionCount ∉ before.held := fun member =>
    Nat.lt_irrefl _ (sound.present _ member)
  constructor
  · apply Multiset.nodup_of_le held_le
    split
    · rw [Multiset.singleton_add]
      exact Multiset.nodup_cons.2 ⟨fresh, sound.once⟩
    · rw [zero_add]
      exact sound.once
  · intro id member
    rw [move.functionCount_eq]
    have origin := Multiset.mem_of_le held_le member
    split at origin
    · rw [if_pos ‹_›]
      rcases Multiset.mem_cons.1 (Multiset.singleton_add _ _ ▸ origin) with rfl | old
      · exact Nat.lt_succ_self _
      · exact Nat.lt_succ_of_lt (sound.present id old)
    · rw [if_neg ‹_›]
      exact sound.present id (zero_add before.held ▸ origin)
  · exact move.homes_valid sound.homes

end Move

namespace Moves

variable {kinds more : Set MoveKind} {middle : Forest}

theorem refl (forest : Forest) : Moves settings kinds forest forest :=
  Relation.ReflTransGen.refl

theorem single (isAllowed : kind ∈ kinds) (move : Move settings kind before after) :
    Moves settings kinds before after :=
  Relation.ReflTransGen.single ⟨kind, isAllowed, move⟩

/-- An edit of one function, as one move of the given kind. -/
theorem edit (edit : EditKind) (isAllowed : .edit edit ∈ kinds) {id : FunctionId}
    {change : Function → Function}
    (edited : Edit settings edit (before.functionAt id) (change (before.functionAt id))) :
    Moves settings kinds before (before.modifyFunction id change) :=
  single isAllowed (.edit edited)

theorem trans (first : Moves settings kinds before middle)
    (second : Moves settings kinds middle after) : Moves settings kinds before after :=
  Relation.ReflTransGen.trans first second

theorem mono (allowed : kinds ⊆ more) (moves : Moves settings kinds before after) :
    Moves settings more before after := by
  refine Relation.ReflTransGen.mono (fun _ _ step => ?_) _ _ moves
  obtain ⟨kind, member, move⟩ := step
  exact ⟨kind, allowed member, move⟩

/-- What every allowed move preserves is preserved by any number of them. -/
theorem preserves (Invariant : Forest → Prop) (moves : Moves settings kinds before after)
    (sound : before.Sound) (start : Invariant before)
    (step : ∀ {kind first second}, kind ∈ kinds → Move settings kind first second →
      first.Sound → Invariant first → Invariant second) :
    after.Sound ∧ Invariant after := by
  induction moves with
  | refl => exact ⟨sound, start⟩
  | tail _ last ih =>
      obtain ⟨kind, allowed, move⟩ := last
      obtain ⟨soundBefore, invariant⟩ := ih
      exact ⟨move.sound soundBefore, step allowed move soundBefore invariant⟩

theorem sound (moves : Moves settings kinds before after) (sound : before.Sound) :
    after.Sound :=
  (moves.preserves (fun _ => True) sound trivial fun _ _ _ _ => trivial).1

theorem hierarchy_extends (moves : Moves settings kinds before after) :
    before.hierarchy.Extends after.hierarchy := by
  induction moves with
  | refl => exact .refl _
  | tail _ last ih =>
      obtain ⟨kind, -, move⟩ := last
      exact ih.trans move.hierarchy_extends

end Moves

end Bindery
