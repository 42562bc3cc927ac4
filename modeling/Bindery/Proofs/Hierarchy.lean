import Bindery.Model.Forest
import Mathlib.Algebra.BigOperators.Group.List.Basic
import Mathlib.Algebra.GroupWithZero.Nat
import Mathlib.Data.List.Nodup

/-!
# The classes of a hierarchy

Parenthood is stored with the inner class only, and the list of all classes descends from the
roots.  These lemmas say that the descent meets every class exactly once, and that asking for a
class leaves the places of all others as they are.
-/

namespace Bindery.Hierarchy

variable {hierarchy : Hierarchy}

theorem children_eq_map_filter (hierarchy : Hierarchy) (parent : Option ClassId) :
    hierarchy.children parent =
      (hierarchy.places.zipIdx.filter fun entry => entry.1.parent = parent).map (·.2) := by
  rw [children]
  induction hierarchy.places.zipIdx with
  | nil => rfl
  | cons entry rest ih =>
      by_cases same : entry.1.parent = parent
      · simp [same, ih]
      · simp [same, ih]

theorem mem_children_iff {parent : Option ClassId} {id : ClassId} :
    id ∈ hierarchy.children parent ↔
      ∃ place, hierarchy.places[id]? = some place ∧ place.parent = parent := by
  simp [children, List.mk_mem_zipIdx_iff_getElem?]

theorem nodup_children (hierarchy : Hierarchy) (parent : Option ClassId) :
    (hierarchy.children parent).Nodup := by
  rw [children_eq_map_filter]
  have sublist := (List.filter_sublist
    (p := fun entry : Place × ClassId => decide (entry.1.parent = parent))
    (l := hierarchy.places.zipIdx)).map (·.2)
  rw [List.zipIdx_map_snd] at sublist
  exact sublist.nodup List.nodup_range'

theorem lt_size_of_mem_children {parent : Option ClassId} {id : ClassId}
    (member : id ∈ hierarchy.children parent) : id < hierarchy.size := by
  obtain ⟨place, present, -⟩ := mem_children_iff.1 member
  exact (List.getElem?_eq_some_iff.1 present).1

theorem parent?_of_mem_children {parent : Option ClassId} {id : ClassId}
    (member : id ∈ hierarchy.children parent) : hierarchy.parent? id = parent := by
  obtain ⟨place, present, rfl⟩ := mem_children_iff.1 member
  simp [parent?, present]

theorem count_children {id : ClassId} (valid : id < hierarchy.size) (parent : Option ClassId) :
    (hierarchy.children parent).count id =
      if parent = hierarchy.parent? id then 1 else 0 := by
  by_cases same : parent = hierarchy.parent? id
  · rw [if_pos same]
    apply List.count_eq_one_of_mem (hierarchy.nodup_children parent)
    refine mem_children_iff.2 ⟨hierarchy.places[id], List.getElem?_eq_getElem valid, ?_⟩
    simp [same, parent?, List.getElem?_eq_getElem valid]
  · rw [if_neg same]
    refine List.count_eq_zero_of_not_mem fun member => same ?_
    exact (parent?_of_mem_children member).symm

theorem parent_lt {id parent : ClassId} (isParent : hierarchy.parent? id = some parent) :
    parent < id := by
  obtain ⟨place, present, isParent⟩ := Option.bind_eq_some_iff.1 isParent
  exact hierarchy.rooted id place present parent isParent

theorem lt_size_of_parent? {id parent : ClassId}
    (isParent : hierarchy.parent? id = some parent) : id < hierarchy.size := by
  obtain ⟨place, present, -⟩ := Option.bind_eq_some_iff.1 isParent
  exact (List.getElem?_eq_some_iff.1 present).1

/-! ## Every class is met once -/

private theorem sum_map_indicator (siblings : List ClassId) (id : ClassId) :
    (siblings.map fun sibling => if sibling = id then 1 else 0).sum = siblings.count id := by
  induction siblings with
  | nil => rfl
  | cons sibling rest ih =>
      by_cases same : sibling = id
      · simp [same, ih, Nat.add_comm]
      · simp [same, ih]

/-- A descent meets a class among the siblings it starts from, and below its parent as often as it
meets the parent one level higher up. -/
theorem count_descend {id : ClassId} (valid : id < hierarchy.size) (depth : Nat)
    (siblings : List ClassId) :
    (hierarchy.descend (depth + 1) siblings).count id =
      siblings.count id +
        ((hierarchy.parent? id).elim 0 fun parent =>
          (hierarchy.descend depth siblings).count parent) := by
  induction depth generalizing siblings with
  | zero =>
      have nothing : siblings.flatMap (fun _ => ([] : List ClassId)) = [] := by simp
      cases hierarchy.parent? id <;> simp [descend, nothing]
  | succ depth ih =>
      have below (sibling : ClassId) :
          (hierarchy.descend (depth + 1) (hierarchy.inner sibling)).count id =
            (if some sibling = hierarchy.parent? id then 1 else 0) +
              ((hierarchy.parent? id).elim 0 fun parent =>
                (hierarchy.descend depth (hierarchy.inner sibling)).count parent) := by
        rw [ih, inner, count_children valid]
      rw [descend, List.count_append, List.count_flatMap]
      simp only [Function.comp_def, below]
      cases parent : hierarchy.parent? id with
      | none => simp
      | some parent =>
          simp only [Option.some.injEq, Option.elim_some, List.sum_map_add, sum_map_indicator]
          rw [descend, List.count_append, List.count_flatMap]
          rfl

theorem lt_size_of_mem_descend {depth : Nat} {siblings : List ClassId} {id : ClassId}
    (valid : ∀ sibling ∈ siblings, sibling < hierarchy.size)
    (member : id ∈ hierarchy.descend depth siblings) : id < hierarchy.size := by
  induction depth generalizing siblings with
  | zero => simp [descend] at member
  | succ depth ih =>
      rw [descend, List.mem_append, List.mem_flatMap] at member
      rcases member with top | ⟨sibling, -, below⟩
      · exact valid id top
      · exact ih (fun _ inner => lt_size_of_mem_children inner) below

theorem count_descend_roots {id depth : Nat} (valid : id < hierarchy.size)
    (deep : id < depth) : (hierarchy.descend depth hierarchy.roots).count id = 1 := by
  induction id using Nat.strongRecOn generalizing depth with
  | ind id ih =>
      obtain ⟨depth, rfl⟩ := Nat.exists_eq_succ_of_ne_zero (Nat.ne_zero_of_lt deep)
      rw [Nat.succ_eq_add_one, count_descend valid, roots, count_children valid]
      cases isParent : hierarchy.parent? id with
      | none => simp
      | some parent =>
          have older := parent_lt isParent
          have once := ih parent older (Nat.lt_trans older valid)
            (Nat.lt_of_lt_of_le older (Nat.le_of_lt_succ deep))
          simpa [roots] using once

/-- A descent that goes deep enough lists every class once. -/
theorem descend_roots_perm_range {depth : Nat} (deep : hierarchy.size ≤ depth) :
    (hierarchy.descend depth hierarchy.roots).Perm (List.range hierarchy.size) := by
  apply List.perm_iff_count.2
  intro id
  by_cases valid : id < hierarchy.size
  · rw [count_descend_roots valid (Nat.lt_of_lt_of_le valid deep),
      List.count_eq_one_of_mem List.nodup_range (List.mem_range.2 valid)]
  · rw [List.count_eq_zero_of_not_mem fun member => valid ?_,
      List.count_eq_zero_of_not_mem fun member => valid (List.mem_range.1 member)]
    exact lt_size_of_mem_descend (fun _ root => lt_size_of_mem_children root) member

theorem all_perm_range (hierarchy : Hierarchy) :
    hierarchy.all.Perm (List.range hierarchy.size) :=
  descend_roots_perm_range (Nat.le_refl _)

@[simp]
theorem mem_all_iff {id : ClassId} : id ∈ hierarchy.all ↔ id < hierarchy.size := by
  rw [hierarchy.all_perm_range.mem_iff, List.mem_range]

theorem nodup_all (hierarchy : Hierarchy) : hierarchy.all.Nodup :=
  hierarchy.all_perm_range.nodup_iff.2 List.nodup_range

/-! ## Asking for classes -/

/-- Whether the second hierarchy has the classes of the first and perhaps newer ones. -/
def Extends (older newer : Hierarchy) : Prop :=
  older.places <+: newer.places

namespace Extends

variable {older newer newest : Hierarchy}

theorem refl (hierarchy : Hierarchy) : hierarchy.Extends hierarchy :=
  List.prefix_refl _

theorem trans (first : older.Extends newer) (second : newer.Extends newest) :
    older.Extends newest :=
  List.IsPrefix.trans first second

theorem size_le (growth : older.Extends newer) : older.size ≤ newer.size :=
  growth.length_le

theorem getElem?_eq (growth : older.Extends newer) {id : ClassId} (valid : id < older.size) :
    newer.places[id]? = older.places[id]? := by
  obtain ⟨added, places⟩ := growth
  rw [← places, List.getElem?_append_left valid]

theorem name_eq (growth : older.Extends newer) {id : ClassId} (valid : id < older.size) :
    newer.name id = older.name id := by
  simp only [name, growth.getElem?_eq valid]

theorem parent?_eq (growth : older.Extends newer) {id : ClassId} (valid : id < older.size) :
    newer.parent? id = older.parent? id := by
  simp only [parent?, growth.getElem?_eq valid]

theorem isRoot (growth : older.Extends newer) {id : ClassId} (isRoot : newer.parent? id = none) :
    older.parent? id = none := by
  by_cases valid : id < older.size
  · rw [← growth.parent?_eq valid]
    exact isRoot
  · rw [parent?, List.getElem?_eq_none (Nat.le_of_not_lt valid)]
    rfl

end Extends

theorem extends_require (hierarchy : Hierarchy) (parent : Option ClassId) (name : String) :
    hierarchy.Extends (hierarchy.require parent name).1 := by
  rw [require]
  split
  · exact .refl _
  · split
    · exact List.prefix_append _ _
    · exact .refl _

/-- The class that was asked for stands at its place. -/
theorem getElem?_require {parent : Option ClassId} (name : String)
    (below : ∀ outer ∈ parent, outer < hierarchy.size) :
    (hierarchy.require parent name).1.places[(hierarchy.require parent name).2]? =
      some { parent, name } := by
  rw [require]
  split
  · rename_i id found
    obtain ⟨valid, same, -⟩ := List.findIdx?_eq_some_iff_getElem.1 found
    rw [List.getElem?_eq_getElem valid]
    simpa using same
  · rw [dif_pos below]
    simp [add, size]

theorem snd_require_lt {parent : Option ClassId} (name : String)
    (below : ∀ outer ∈ parent, outer < hierarchy.size) :
    (hierarchy.require parent name).2 < (hierarchy.require parent name).1.size :=
  (List.getElem?_eq_some_iff.1 (getElem?_require name below)).1

theorem parent?_require {parent : Option ClassId} (name : String)
    (below : ∀ outer ∈ parent, outer < hierarchy.size) :
    (hierarchy.require parent name).1.parent? (hierarchy.require parent name).2 = parent := by
  simp [parent?, getElem?_require name below]

theorem name_require {parent : Option ClassId} (name : String)
    (below : ∀ outer ∈ parent, outer < hierarchy.size) :
    (hierarchy.require parent name).1.name (hierarchy.require parent name).2 = name := by
  simp [Hierarchy.name, getElem?_require name below]

/-- Siblings are told apart by their names. -/
theorem eq_of_parent?_of_name {left right : ClassId} (leftValid : left < hierarchy.size)
    (rightValid : right < hierarchy.size)
    (sameParent : hierarchy.parent? left = hierarchy.parent? right)
    (sameName : hierarchy.name left = hierarchy.name right) : left = right := by
  have leftPlace := List.getElem?_eq_getElem leftValid
  have rightPlace := List.getElem?_eq_getElem rightValid
  simp only [parent?, leftPlace, rightPlace, Option.bind_some] at sameParent
  simp only [name, leftPlace, rightPlace, Option.map_some, Option.getD_some] at sameName
  have samePlace : hierarchy.places[left] = hierarchy.places[right] := by
    cases placed : hierarchy.places[left]
    cases otherPlaced : hierarchy.places[right]
    simp_all
  exact (List.Nodup.getElem_inj_iff hierarchy.distinct).1 samePlace

/-! ## Paths -/

private theorem pathWithin_eq {steps id : Nat} (enough : id < steps) :
    hierarchy.pathWithin steps id = hierarchy.path id := by
  induction id using Nat.strongRecOn generalizing steps with
  | ind id ih =>
      obtain ⟨steps, rfl⟩ := Nat.exists_eq_succ_of_ne_zero (Nat.ne_zero_of_lt enough)
      rw [path, Nat.succ_eq_add_one, pathWithin, pathWithin]
      cases isParent : hierarchy.parent? id with
      | none => rfl
      | some parent =>
          have older := parent_lt isParent
          dsimp only
          rw [ih parent older (Nat.lt_of_lt_of_le older (Nat.le_of_lt_succ enough)),
            ih parent older older]

theorem path_of_parent {id parent : ClassId} (isParent : hierarchy.parent? id = some parent) :
    hierarchy.path id = hierarchy.path parent ++ [hierarchy.name id] := by
  have older := parent_lt isParent
  rw [path, pathWithin, isParent]
  dsimp only
  rw [pathWithin_eq older]

theorem path_of_root {id : ClassId} (isRoot : hierarchy.parent? id = none) :
    hierarchy.path id = [hierarchy.name id] := by
  rw [path, pathWithin, isRoot]

theorem Extends.path_eq {older newer : Hierarchy} (growth : older.Extends newer) {id : ClassId}
    (valid : id < older.size) : newer.path id = older.path id := by
  induction id using Nat.strongRecOn with
  | ind id ih =>
      cases isParent : older.parent? id with
      | none =>
          rw [path_of_root isParent, path_of_root ((growth.parent?_eq valid).trans isParent),
            growth.name_eq valid]
      | some parent =>
          have before := parent_lt isParent
          rw [path_of_parent isParent, path_of_parent ((growth.parent?_eq valid).trans isParent),
            growth.name_eq valid, ih parent before (Nat.lt_trans before valid)]

/-! ## Asking again -/

theorem require_of_find? {parent : Option ClassId} {name : String} {id : ClassId}
    (found : hierarchy.find? parent name = some id) :
    hierarchy.require parent name = (hierarchy, id) := by
  unfold require
  split
  · rename_i same
    rw [found] at same
    cases same
    rfl
  · rename_i missing
    rw [found] at missing
    cases missing

theorem eq_of_places {left right : Hierarchy} (same : left.places = right.places) :
    left = right := by
  cases left
  cases right
  cases same
  rfl

theorem places_require_of_not_mem {parent : Option ClassId} {name : String}
    (fresh : { parent, name } ∉ hierarchy.places)
    (below : ∀ outer ∈ parent, outer < hierarchy.size) :
    (hierarchy.require parent name).1.places = hierarchy.places ++ [⟨parent, name⟩] := by
  unfold require
  split
  · rename_i id found
    obtain ⟨valid, same, -⟩ := List.findIdx?_eq_some_iff_getElem.1 found
    have placed : hierarchy.places[id] = { parent, name } := by simpa using same
    exact absurd (placed ▸ List.getElem_mem valid) fresh
  · rw [dif_pos below]
    rfl

end Bindery.Hierarchy

namespace Bindery.Forest

/-- Asking for a class that is there changes nothing. -/
theorem requireClass_of_find? {forest : Forest} {parent : Option ClassId} {name : String}
    {id : ClassId} (found : forest.hierarchy.find? parent name = some id) :
    forest.requireClass parent name = (forest, id) := by
  have required := Hierarchy.require_of_find? found
  obtain ⟨functions, hierarchy, classes, length, free, detached, enums, exceptions⟩ := forest
  simp only [requireClass] at required ⊢
  simp [required]

end Bindery.Forest
