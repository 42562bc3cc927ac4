import Bindery.Model.Ownership
import Bindery.Proofs.Hierarchy
import Mathlib.Data.Multiset.Bind
import Mathlib.Data.Multiset.Range

/-!
# What a forest holds

All slots together hold a multiset of functions, and a change of one class changes it by what that
class gains and loses.  A forest is sound if no function is held twice and nothing is held that is
not there; the violations of ownership are then exactly the functions that are missing from the
multiset.
-/

namespace Bindery

namespace Property

def functions (property : Property) : List FunctionId :=
  property.getter :: property.setter.toList

end Property

namespace Handle

def held : Handle → Multiset FunctionId
  | .native alloc dealloc => ↑alloc.toList + ↑dealloc.toList
  | .number _ => 0

end Handle

namespace Class

/-- The functions in the slots of a class. -/
def held (c : Class) : Multiset FunctionId :=
  c.handle.elim 0 Handle.held + ↑c.defaultInit.toList + ↑(c.properties.flatMap (·.functions))
    + ↑c.methods

def alloc? (c : Class) : Option FunctionId :=
  match c.handle with
  | some (.native alloc _) => alloc
  | _ => none

def dealloc? (c : Class) : Option FunctionId :=
  match c.handle with
  | some (.native _ dealloc) => dealloc
  | _ => none

theorem held_eq_owners (c : Class) (id : ClassId) :
    (↑((c.owners id).map (·.1)) : Multiset FunctionId) = c.held := by
  have accessors : (c.properties.flatMap (·.owners id)).map (·.1) =
      c.properties.flatMap (·.functions) := by
    simp [List.map_flatMap, Property.owners, Property.functions, Function.comp_def]
  have methods : (c.methods.map fun method => (method, Slot.method id)).map (·.1) = c.methods := by
    simp [Function.comp_def]
  simp only [owners, held, List.map_append, accessors, methods, ← Multiset.coe_add]
  congr 2
  cases c.handle with
  | none => simp [Function.comp_def]
  | some handle =>
      cases handle <;> simp [Handle.owners, Handle.held, Function.comp_def]

@[simp]
theorem held_default : (default : Class).held = 0 :=
  rfl

/-! ### What each slot takes and gives -/

theorem held_addMethod (c : Class) (id : FunctionId) : (c.addMethod id).held = id ::ₘ c.held := by
  simp only [held, addMethod, ← Multiset.coe_add]
  rw [← add_assoc, Multiset.coe_singleton, add_comm, Multiset.singleton_add]

theorem held_removeMethod {c : Class} {id : FunctionId} (member : id ∈ c.methods) :
    id ::ₘ (c.removeMethod id).held = c.held := by
  have split : (↑c.methods : Multiset FunctionId) = id ::ₘ ↑(c.methods.erase id) := by
    rw [Multiset.cons_coe, Multiset.coe_eq_coe]
    exact List.perm_cons_erase member
  simp only [held, removeMethod, split, Multiset.add_cons]

theorem held_withAlloc {c : Class} (id : FunctionId) (vacant : c.holdsObject = true) :
    (c.withAlloc id).held + ↑c.alloc?.toList = id ::ₘ c.held := by
  obtain ⟨isCallback, handle, defaultInit, properties, methods⟩ := c
  cases handle with
  | none => simp [held, withAlloc, alloc?, Handle.held, Multiset.singleton_add]
  | some handle =>
      cases handle with
      | native alloc dealloc =>
          simp only [held, withAlloc, alloc?, Handle.held, Option.elim_some, Option.toList_some,
            Multiset.coe_singleton, Multiset.singleton_add, Multiset.cons_add]
          congr 1
          ac_rfl
      | number type => simp [holdsObject] at vacant

theorem held_withDealloc {c : Class} (id : FunctionId) (vacant : c.holdsObject = true) :
    (c.withDealloc id).held + ↑c.dealloc?.toList = id ::ₘ c.held := by
  obtain ⟨isCallback, handle, defaultInit, properties, methods⟩ := c
  cases handle with
  | none => simp [held, withDealloc, dealloc?, Handle.held, Multiset.singleton_add]
  | some handle =>
      cases handle with
      | native alloc dealloc =>
          simp only [held, withDealloc, dealloc?, Handle.held, Option.elim_some,
            Option.toList_some, Multiset.coe_singleton]
          rw [← Multiset.singleton_add]
          ac_rfl
      | number type => simp [holdsObject] at vacant

theorem held_takeInitializer {c : Class} {id : FunctionId} (member : id ∈ c.methods) :
    ({ c.removeMethod id with defaultInit := some id } : Class).held + ↑c.defaultInit.toList =
      c.held := by
  rw [← held_removeMethod member]
  simp only [held, removeMethod, Option.toList_some, Multiset.coe_singleton]
  rw [← Multiset.singleton_add]
  ac_rfl

theorem held_addProperty {c : Class} {id : FunctionId} (member : id ∈ c.methods) (name : String)
    (isStatic : Bool) :
    ({ c.removeMethod id with
        properties := c.properties ++ [{ name, getter := id, setter := none, isStatic }] } :
      Class).held = c.held := by
  rw [← held_removeMethod member]
  simp only [held, removeMethod, List.flatMap_append, List.flatMap_singleton, Property.functions,
    Option.toList_none, ← Multiset.coe_add, Multiset.coe_singleton]
  rw [← Multiset.singleton_add]
  ac_rfl

theorem held_addSetter {c : Class} {id : FunctionId} {front : List Property} {last : Property}
    (member : id ∈ c.methods) (isLast : c.properties = front ++ [last])
    (vacant : last.setter = none) :
    ({ c.removeMethod id with
        properties := front ++ [{ last with setter := some id }] } : Class).held = c.held := by
  rw [← held_removeMethod member]
  simp only [held, removeMethod, isLast, List.flatMap_append, List.flatMap_singleton,
    Property.functions, vacant, Option.toList_some, Option.toList_none, ← Multiset.coe_add,
    ← Multiset.cons_coe, Multiset.coe_nil, ← Multiset.singleton_add, add_zero]
  ac_rfl

theorem held_mapProperties (c : Class) {change : Property → Property}
    (same : ∀ property, (change property).functions = property.functions) :
    ({ c with properties := c.properties.map change } : Class).held = c.held := by
  have accessors : (c.properties.map change).flatMap (·.functions) =
      c.properties.flatMap (·.functions) := by
    simp [List.flatMap_map, same]
  simp only [held, accessors]

end Class

namespace Forest

/-- Everything that is held by some slot. -/
def held (forest : Forest) : Multiset FunctionId :=
  ↑forest.free + ↑(forest.detached.map (·.1)) +
    (Multiset.range forest.hierarchy.size).bind fun c => (forest.classAt c).held

theorem coe_owners (forest : Forest) :
    (↑(forest.owners.map (·.1)) : Multiset FunctionId) = forest.held := by
  have all : (↑forest.allClasses : Multiset ClassId) = Multiset.range forest.hierarchy.size :=
    Multiset.coe_eq_coe.2 forest.hierarchy.all_perm_range
  have slots : (↑((forest.allClasses.flatMap fun c => (forest.classAt c).owners c).map (·.1)) :
      Multiset FunctionId) =
      (Multiset.range forest.hierarchy.size).bind fun c => (forest.classAt c).held := by
    rw [List.map_flatMap, ← all, ← Multiset.coe_bind]
    exact Multiset.bind_congr fun c _ => (forest.classAt c).held_eq_owners c
  simp only [owners, held, List.map_append, ← Multiset.coe_add, slots]
  congr 2 <;> simp [Function.comp_def]

theorem held_modifyFunction (forest : Forest) (id : FunctionId) (change : Function → Function) :
    (forest.modifyFunction id change).held = forest.held :=
  rfl

theorem held_modifyClass {forest : Forest} {c : ClassId} (valid : c < forest.hierarchy.size)
    (change : Class → Class) :
    (forest.modifyClass c change).held + (forest.classAt c).held =
      forest.held + (change (forest.classAt c)).held := by
  obtain ⟨others, split⟩ := Multiset.exists_cons_of_mem (Multiset.mem_range.2 valid)
  have fresh : c ∉ others := by
    have nodup := Multiset.nodup_range forest.hierarchy.size
    rw [split] at nodup
    exact (Multiset.nodup_cons.1 nodup).1
  have unchanged : (others.bind fun c' => ((forest.modifyClass c change).classAt c').held) =
      others.bind fun c' => (forest.classAt c').held := by
    apply Multiset.bind_congr
    intro c' member
    rw [classAt_modifyClass_of_ne fun same : c' = c => fresh (same ▸ member)]
  have size : (forest.modifyClass c change).hierarchy.size = forest.hierarchy.size := rfl
  simp only [held, size, split, Multiset.cons_bind, unchanged, classAt_modifyClass_self valid]
  simp only [modifyClass]
  ac_rfl

theorem classAt_of_size_le {forest : Forest} {c : ClassId} (beyond : forest.hierarchy.size ≤ c) :
    forest.classAt c = default := by
  have missing : forest.classes.length ≤ c := by
    rw [forest.classes_length]
    exact beyond
  simp [classAt, List.getElem?_eq_none missing]

theorem lt_size_of_mem_methods {forest : Forest} {c : ClassId} {id : FunctionId}
    (member : id ∈ forest.methods c) : c < forest.hierarchy.size := by
  by_contra beyond
  rw [methods, classAt_of_size_le (Nat.le_of_not_lt beyond)] at member
  simp [show (default : Class).methods = [] from rfl] at member

/-- Classes that were not there before hold nothing. -/
theorem held_of_extends {older newer : Forest}
    (growth : older.hierarchy.Extends newer.hierarchy) (free : newer.free = older.free)
    (detached : newer.detached = older.detached)
    (classes : ∀ c, newer.classAt c = older.classAt c) : newer.held = older.held := by
  obtain ⟨added, size⟩ := Nat.exists_eq_add_of_le growth.size_le
  simp only [held, free, detached, classes, size, Multiset.range_add, Multiset.add_bind]
  have nothing : ((Multiset.range added).map (older.hierarchy.size + ·)).bind
      (fun c => (older.classAt c).held) = 0 := by
    rw [Multiset.bind_map, Multiset.bind_congr (g := fun _ => 0), Multiset.bind_zero]
    intro offset _
    rw [classAt_of_size_le (Nat.le_add_right _ _), Class.held_default]
  rw [nothing, add_zero]

@[simp]
theorem held_requireClass (forest : Forest) (parent : Option ClassId) (name : String) :
    (forest.requireClass parent name).1.held = forest.held :=
  held_of_extends (forest.hierarchy.extends_require parent name) rfl rfl
    (classAt_requireClass forest parent name)

/-! ## Soundness -/

/-- No function is held twice, and what is held or named as a home is there. -/
structure Sound (forest : Forest) : Prop where
  once : forest.held.Nodup
  present : ∀ id ∈ forest.held, id < forest.functionCount
  homes : ∀ entry ∈ forest.detached, entry.2 < forest.hierarchy.size

theorem sound_empty : Forest.empty.Sound where
  once := by simp [held, empty, Hierarchy.empty, Hierarchy.size]
  present := by simp [held, empty, Hierarchy.empty, Hierarchy.size]
  homes := by simp [empty]

/-- How many functions are held by no slot. -/
def lost (forest : Forest) : Nat :=
  forest.functionCount - forest.held.card

namespace Sound

variable {forest : Forest}

theorem held_le (sound : forest.Sound) : forest.held ≤ Multiset.range forest.functionCount :=
  (Multiset.le_iff_subset sound.once).2 fun id member =>
    Multiset.mem_range.2 (sound.present id member)

theorem card_held_le (sound : forest.Sound) : forest.held.card ≤ forest.functionCount := by
  simpa using Multiset.card_le_card sound.held_le

theorem lost_add_card (sound : forest.Sound) :
    forest.lost + forest.held.card = forest.functionCount :=
  Nat.sub_add_cancel sound.card_held_le

/-- The violations of a sound forest are the functions that nothing holds. -/
theorem mem_ownershipViolations_iff (sound : forest.Sound) {id : FunctionId} :
    id ∈ forest.ownershipViolations ↔ id < forest.functionCount ∧ id ∉ forest.held := by
  have counted : (forest.owners.map (·.1)).count id = forest.held.count id := by
    rw [← coe_owners, Multiset.coe_count]
  have atMostOnce := Multiset.nodup_iff_count_le_one.1 sound.once id
  rw [ownershipViolations, List.mem_filter, List.mem_range, counted, bne_iff_ne,
    ← Multiset.count_eq_zero]
  apply and_congr_right
  intro _
  omega

theorem ownershipViolations_eq_nil_iff (sound : forest.Sound) :
    forest.ownershipViolations = [] ↔ forest.lost = 0 := by
  constructor
  · intro clean
    have all : Multiset.range forest.functionCount ≤ forest.held := by
      apply (Multiset.le_iff_subset (Multiset.nodup_range _)).2
      intro id member
      by_contra missing
      have violation := sound.mem_ownershipViolations_iff.2 ⟨Multiset.mem_range.1 member, missing⟩
      simp [clean] at violation
    have bound := Multiset.card_le_card all
    rw [Multiset.card_range] at bound
    exact Nat.sub_eq_zero_of_le bound
  · intro complete
    have full : forest.functionCount ≤ forest.held.card := Nat.le_of_sub_eq_zero complete
    have held : forest.held = Multiset.range forest.functionCount :=
      Multiset.eq_of_le_of_card_le sound.held_le (by simpa using full)
    apply List.eq_nil_iff_forall_not_mem.2
    intro id violation
    obtain ⟨present, missing⟩ := sound.mem_ownershipViolations_iff.1 violation
    exact missing (held ▸ Multiset.mem_range.2 present)

end Sound

end Forest

end Bindery
