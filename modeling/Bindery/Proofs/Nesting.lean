import Bindery.Proofs.Guarded.Conversion

/-!
# The tree of classes

Seen through its lists of roots and inner classes, a hierarchy is a tree: every class stands in one
list, once, and no two classes in one list have the same name.  So the class above another one is
found again by a search through the lists, the names on the way to a class tell it from all others,
and both the collection of all classes and the way up to a root come to an end.
-/

namespace Bindery

namespace Hierarchy

variable {hierarchy : Hierarchy} {parent : Option ClassId} {id outer : ClassId}

/-! ## Lists of classes -/

/-- In a list in which no key occurs twice, the first entry of a key is the only one. -/
theorem find?_key_eq_some_iff {α β : Type*} [DecidableEq β] {key : α → β} {entries : List α}
    (distinct : (entries.map key).Nodup) {wanted : β} {entry : α} :
    (entries.find? fun entry => key entry = wanted) = some entry ↔
      entry ∈ entries ∧ key entry = wanted := by
  constructor
  · intro found
    exact ⟨List.mem_of_find?_eq_some found, by simpa using List.find?_some found⟩
  · rintro ⟨member, rfl⟩
    cases found : entries.find? fun other => key other = key entry with
    | none => simpa using List.find?_eq_none.1 found entry member
    | some first =>
        have same : key first = key entry := by simpa using List.find?_some found
        rw [List.inj_on_of_nodup_map distinct (List.mem_of_find?_eq_some found) member same]

theorem mem_inner_iff : id ∈ hierarchy.inner outer ↔ hierarchy.parent? id = some outer := by
  constructor
  · exact parent?_of_mem_children
  · intro isParent
    obtain ⟨place, present, isParent⟩ := Option.bind_eq_some_iff.1 isParent
    exact mem_children_iff.2 ⟨place, present, isParent⟩

theorem mem_children_parent? (valid : id < hierarchy.size) :
    id ∈ hierarchy.children (hierarchy.parent? id) := by
  refine mem_children_iff.2 ⟨hierarchy.places[id], List.getElem?_eq_getElem valid, ?_⟩
  simp [parent?, List.getElem?_eq_getElem valid]

theorem nodup_map_name_children (hierarchy : Hierarchy) (parent : Option ClassId) :
    ((hierarchy.children parent).map hierarchy.name).Nodup := by
  refine List.Nodup.map_on ?_ (hierarchy.nodup_children parent)
  intro left leftMember right rightMember sameName
  exact eq_of_parent?_of_name (lt_size_of_mem_children leftMember)
    (lt_size_of_mem_children rightMember)
    ((parent?_of_mem_children leftMember).trans (parent?_of_mem_children rightMember).symm)
    sameName

theorem find?_eq_some_iff {name : String} :
    hierarchy.find? parent name = some id ↔
      id ∈ hierarchy.children parent ∧ hierarchy.name id = name := by
  constructor
  · intro found
    obtain ⟨valid, same, -⟩ := List.findIdx?_eq_some_iff_getElem.1 found
    have place : hierarchy.places[id]? = some { parent, name } := by
      rw [List.getElem?_eq_getElem valid]
      simpa using same
    exact ⟨mem_children_iff.2 ⟨_, place, rfl⟩, by simp [Hierarchy.name, place]⟩
  · rintro ⟨member, named⟩
    obtain ⟨⟨above, label⟩, present, sameParent⟩ := mem_children_iff.1 member
    obtain ⟨valid, placed⟩ := List.getElem?_eq_some_iff.1 present
    have sameName : label = name := by simpa [Hierarchy.name, present] using named
    refine List.findIdx?_eq_some_iff_getElem.2 ⟨valid, ?_, ?_⟩
    · simpa [placed] using ⟨sameParent, sameName⟩
    · intro earlier isEarlier same
      have twin : hierarchy.places[earlier] = hierarchy.places[id] := by
        rw [placed, sameName]
        simpa [← sameParent] using same
      have sameIndex := (List.Nodup.getElem_inj_iff hierarchy.distinct).1 twin
      exact absurd isEarlier (by rw [sameIndex]; exact Nat.lt_irrefl _)

/-- A class is known by its place, so the first sibling of a name is the only one. -/
theorem find?_eq_find?_children (hierarchy : Hierarchy) (parent : Option ClassId)
    (name : String) :
    hierarchy.find? parent name =
      (hierarchy.children parent).find? fun id => hierarchy.name id = name := by
  refine Option.ext fun id => ?_
  rw [find?_eq_some_iff]
  exact (find?_key_eq_some_iff (hierarchy.nodup_map_name_children parent)).symm

/-- A class that was not there is put to the end of the list it was asked for in. -/
theorem children_require {name : String} (missing : hierarchy.find? parent name = none)
    (below : ∀ outer ∈ parent, outer < hierarchy.size) (scope : Option ClassId) :
    (hierarchy.require parent name).1.children scope =
      hierarchy.children scope ++ if scope = parent then [hierarchy.size] else [] := by
  have fresh : { parent, name } ∉ hierarchy.places := by simpa [find?] using missing
  rw [children, places_require_of_not_mem fresh below, List.zipIdx_append, List.filterMap_append,
    ← children]
  congr 1
  by_cases same : scope = parent
  · simp [same, size]
  · simp [same, Ne.symm same]

/-- The class above another one is the first, and only, class that lists it. -/
theorem parent?_eq_find?_range (hierarchy : Hierarchy) (id : ClassId) :
    hierarchy.parent? id =
      (List.range hierarchy.size).find? fun outer => id ∈ hierarchy.inner outer := by
  simp only [mem_inner_iff]
  cases isParent : hierarchy.parent? id with
  | none =>
      symm
      simp
  | some outer =>
      have valid : outer < hierarchy.size :=
        Nat.lt_trans (parent_lt isParent) (lt_size_of_parent? isParent)
      symm
      refine List.find?_range_eq_some.2 ⟨by simp, List.mem_range.2 valid, ?_⟩
      intro younger younger_lt
      simpa using (Nat.ne_of_lt younger_lt).symm

/-! ## Collecting classes -/

/-- Everything below a class. -/
def below (hierarchy : Hierarchy) (id : ClassId) : List ClassId :=
  hierarchy.descend hierarchy.size (hierarchy.inner id)

/-- Inner classes are younger, so a descent ends after as many levels as there are classes that
are not older than those it starts from. -/
theorem descend_add {depth : Nat} {siblings : List ClassId}
    (deep : ∀ sibling ∈ siblings,
      sibling < hierarchy.size ∧ hierarchy.size ≤ sibling + depth) (more : Nat) :
    hierarchy.descend (depth + more) siblings = hierarchy.descend depth siblings := by
  induction depth generalizing siblings with
  | zero =>
      cases siblings with
      | nil => cases more <;> simp [descend]
      | cons sibling rest =>
          obtain ⟨valid, old⟩ := deep sibling List.mem_cons_self
          exact absurd valid (Nat.not_lt.2 old)
  | succ depth ih =>
      rw [Nat.add_right_comm, descend, descend]
      congr 1
      refine List.flatMap_congr fun sibling member => ih fun id isInner => ?_
      have younger := parent_lt (parent?_of_mem_children isInner)
      refine ⟨lt_size_of_mem_children isInner, (deep sibling member).2.trans ?_⟩
      rw [← Nat.succ_add_eq_add_succ]
      exact Nat.add_le_add_right younger depth

theorem descend_succ_size (parent : Option ClassId) :
    hierarchy.descend (hierarchy.size + 1) (hierarchy.children parent) =
      hierarchy.descend hierarchy.size (hierarchy.children parent) :=
  descend_add (fun _ member => ⟨lt_size_of_mem_children member, Nat.le_add_left _ _⟩) 1

theorem all_eq (hierarchy : Hierarchy) :
    hierarchy.all = hierarchy.roots ++ hierarchy.roots.flatMap hierarchy.below := by
  rw [all, roots, ← descend_succ_size, descend]
  rfl

theorem below_eq (hierarchy : Hierarchy) (id : ClassId) :
    hierarchy.below id =
      hierarchy.inner id ++ (hierarchy.inner id).flatMap hierarchy.below := by
  rw [below, inner, ← descend_succ_size, descend]
  rfl

/-- A descent comes to a class before it comes to what that class contains. -/
theorem sublist_descend {depth : Nat} {siblings : List ClassId}
    (isInner : id ∈ hierarchy.inner outer) (member : outer ∈ hierarchy.descend depth siblings) :
    [outer, id].Sublist (hierarchy.descend (depth + 1) siblings) := by
  induction depth generalizing siblings with
  | zero => simp [descend] at member
  | succ depth ih =>
      rw [descend, List.mem_append, List.mem_flatMap] at member
      rw [descend]
      rcases member with top | ⟨sibling, isSibling, lower⟩
      · refine (List.singleton_sublist.2 top).append (List.singleton_sublist.2 ?_)
        refine List.mem_flatMap.2 ⟨outer, top, ?_⟩
        rw [descend]
        exact List.mem_append_left _ isInner
      · refine (ih lower).trans ?_
        have part := List.sublist_flatten_of_mem (List.mem_map_of_mem
          (f := fun id => hierarchy.descend (depth + 1) (hierarchy.inner id)) isSibling)
        exact part.trans (List.sublist_append_right _ _)

theorem sublist_all (isInner : id ∈ hierarchy.inner outer) :
    [outer, id].Sublist hierarchy.all := by
  have isParent := parent?_of_mem_children isInner
  have valid : outer < hierarchy.size :=
    Nat.lt_trans (parent_lt isParent) (lt_size_of_parent? isParent)
  rw [all, roots, ← descend_succ_size]
  exact sublist_descend isInner (mem_all_iff.2 valid)

theorem idxOf_all_lt (isInner : id ∈ hierarchy.inner outer) :
    hierarchy.all.idxOf outer < hierarchy.all.idxOf id := by
  obtain ⟨front, back, split, outerMember, later⟩ := List.cons_sublist_iff.1 (sublist_all isInner)
  have distinct := hierarchy.nodup_all
  rw [split] at distinct ⊢
  have absent : id ∉ front := fun idMember =>
    List.disjoint_of_nodup_append distinct idMember (List.singleton_sublist.1 later)
  rw [List.idxOf_append_of_mem outerMember, List.idxOf_append_of_notMem absent]
  exact Nat.lt_add_right _ (List.idxOf_lt_length_iff.2 outerMember)

/-! ## Ways down -/

/-- Whether the names lead from a root through lists of inner classes to the class. -/
inductive Reaches (hierarchy : Hierarchy) : List String → ClassId → Prop
  | root {id : ClassId} :
      id ∈ hierarchy.roots → hierarchy.Reaches [hierarchy.name id] id
  | inner {names : List String} {outer id : ClassId} :
      hierarchy.Reaches names outer → id ∈ hierarchy.inner outer →
        hierarchy.Reaches (names ++ [hierarchy.name id]) id

theorem path_ne_nil (hierarchy : Hierarchy) (id : ClassId) : hierarchy.path id ≠ [] := by
  cases isParent : hierarchy.parent? id with
  | none => simp [path_of_root isParent]
  | some outer => simp [path_of_parent isParent]

theorem path_eq_append (hierarchy : Hierarchy) (id : ClassId) :
    hierarchy.path id = (hierarchy.parent? id).elim [] hierarchy.path ++ [hierarchy.name id] := by
  cases isParent : hierarchy.parent? id with
  | none => rw [path_of_root isParent, Option.elim_none, List.nil_append]
  | some outer => rw [path_of_parent isParent, Option.elim_some]

/-- Siblings have different names, so no two classes have the same path. -/
theorem eq_of_path {left right : ClassId} (leftValid : left < hierarchy.size)
    (rightValid : right < hierarchy.size)
    (samePath : hierarchy.path left = hierarchy.path right) : left = right := by
  induction left using Nat.strongRecOn generalizing right with
  | ind left ih =>
      rw [path_eq_append, path_eq_append hierarchy right] at samePath
      obtain ⟨sameFront, sameName⟩ := List.append_inj' samePath rfl
      have sameParent : hierarchy.parent? left = hierarchy.parent? right := by
        cases leftParent : hierarchy.parent? left with
        | none =>
            cases rightParent : hierarchy.parent? right with
            | none => rfl
            | some outer =>
                rw [leftParent, rightParent] at sameFront
                exact absurd sameFront.symm (hierarchy.path_ne_nil outer)
        | some leftOuter =>
            cases rightParent : hierarchy.parent? right with
            | none =>
                rw [leftParent, rightParent] at sameFront
                exact absurd sameFront (hierarchy.path_ne_nil leftOuter)
            | some rightOuter =>
                rw [leftParent, rightParent] at sameFront
                have leftOlder := parent_lt leftParent
                have rightOlder := parent_lt rightParent
                rw [ih leftOuter leftOlder (Nat.lt_trans leftOlder leftValid)
                  (Nat.lt_trans rightOlder rightValid) sameFront]
      exact eq_of_parent?_of_name leftValid rightValid sameParent (List.singleton_inj.1 sameName)

theorem reaches_path (valid : id < hierarchy.size) : hierarchy.Reaches (hierarchy.path id) id := by
  induction id using Nat.strongRecOn with
  | ind id ih =>
      have listed := mem_children_parent? valid
      cases isParent : hierarchy.parent? id with
      | none =>
          rw [isParent] at listed
          rw [path_of_root isParent]
          exact .root listed
      | some outer =>
          rw [isParent] at listed
          have older := parent_lt isParent
          rw [path_of_parent isParent]
          exact .inner (ih outer older (Nat.lt_trans older valid)) listed

namespace Reaches

variable {names : List String} {left right : ClassId}

theorem eq_path (reaches : hierarchy.Reaches names id) : names = hierarchy.path id := by
  induction reaches with
  | root listed => rw [path_of_root (parent?_of_mem_children listed)]
  | inner _ listed ih => rw [path_of_parent (parent?_of_mem_children listed), ih]

theorem ne_nil (reaches : hierarchy.Reaches names id) : names ≠ [] := by
  rw [reaches.eq_path]
  exact hierarchy.path_ne_nil id

theorem lt_size (reaches : hierarchy.Reaches names id) : id < hierarchy.size := by
  cases reaches with
  | root listed => exact lt_size_of_mem_children listed
  | inner _ listed => exact lt_size_of_mem_children listed

/-- Classes are younger than those on the way to them, so the way is short. -/
theorem length_le (reaches : hierarchy.Reaches names id) : names.length ≤ id + 1 := by
  induction reaches with
  | root => simp
  | inner _ listed ih =>
      rw [List.length_append, List.length_singleton]
      exact Nat.add_le_add_right (ih.trans (parent_lt (parent?_of_mem_children listed))) 1

/-- The same names lead to the same class. -/
theorem unique (first : hierarchy.Reaches names left) (second : hierarchy.Reaches names right) :
    left = right :=
  eq_of_path first.lt_size second.lt_size (first.eq_path.symm.trans second.eq_path)

end Reaches

theorem qualifiedName_of_root (isRoot : hierarchy.parent? id = none) :
    hierarchy.qualifiedName id = hierarchy.name id := by
  rw [qualifiedName, path_of_root isRoot, String.intercalate_singleton]

theorem qualifiedName_of_parent (isParent : hierarchy.parent? id = some outer) :
    hierarchy.qualifiedName id = hierarchy.qualifiedName outer ++ "." ++ hierarchy.name id := by
  rw [qualifiedName, path_of_parent isParent,
    String.intercalate_append_of_ne_nil (hierarchy.path_ne_nil outer) (List.cons_ne_nil _ _),
    String.intercalate_singleton]
  rfl

/-! ## The tree -/

/-- Whether the lists of roots and inner classes make up a tree, which the collection of classes
goes through from the roots down, and in which searches recover what stands where. -/
structure IsTree (hierarchy : Hierarchy) : Prop where
  listed : hierarchy.all.Perm (List.range hierarchy.size)
  collected : hierarchy.all = hierarchy.roots ++ hierarchy.roots.flatMap hierarchy.below
  collectedBelow : ∀ id, hierarchy.below id =
    hierarchy.inner id ++ (hierarchy.inner id).flatMap hierarchy.below
  outerFirst : ∀ outer, ∀ id ∈ hierarchy.inner outer,
    hierarchy.all.idxOf outer < hierarchy.all.idxOf id
  present : ∀ parent, ∀ id ∈ hierarchy.children parent, id < hierarchy.size
  older : ∀ outer, ∀ id ∈ hierarchy.inner outer, outer < id
  stored : ∀ id < hierarchy.size, ∃! parent, id ∈ hierarchy.children parent
  once : ∀ parent, (hierarchy.children parent).Nodup
  siblings : ∀ parent, ((hierarchy.children parent).map hierarchy.name).Nodup
  found : ∀ parent name, hierarchy.find? parent name =
    (hierarchy.children parent).find? fun id => hierarchy.name id = name
  parent : ∀ id outer, hierarchy.parent? id = some outer ↔ id ∈ hierarchy.inner outer
  searched : ∀ id, hierarchy.parent? id =
    (List.range hierarchy.size).find? fun outer => id ∈ hierarchy.inner outer
  named : ∀ id, hierarchy.qualifiedName id = match hierarchy.parent? id with
    | some outer => hierarchy.qualifiedName outer ++ "." ++ hierarchy.name id
    | none => hierarchy.name id
  ways : ∀ id < hierarchy.size, ∃! names, hierarchy.Reaches names id
  apart : ∀ names left right, hierarchy.Reaches names left → hierarchy.Reaches names right →
    left = right
  joined : ∀ names id, hierarchy.Reaches names id →
    hierarchy.qualifiedName id = ".".intercalate names

theorem isTree (hierarchy : Hierarchy) : hierarchy.IsTree where
  listed := hierarchy.all_perm_range
  collected := hierarchy.all_eq
  collectedBelow := hierarchy.below_eq
  outerFirst := fun _ _ => idxOf_all_lt
  present := fun _ _ => lt_size_of_mem_children
  older := fun _ _ isInner => parent_lt (mem_inner_iff.1 isInner)
  stored := fun id valid =>
    ⟨hierarchy.parent? id, mem_children_parent? valid,
      fun _ listed => (parent?_of_mem_children listed).symm⟩
  once := hierarchy.nodup_children
  siblings := hierarchy.nodup_map_name_children
  found := hierarchy.find?_eq_find?_children
  parent := fun _ _ => mem_inner_iff.symm
  searched := hierarchy.parent?_eq_find?_range
  named := by
    intro id
    cases isParent : hierarchy.parent? id with
    | none => exact qualifiedName_of_root isParent
    | some outer => exact qualifiedName_of_parent isParent
  ways := fun id valid =>
    ⟨hierarchy.path id, reaches_path valid, fun _ reaches => reaches.eq_path⟩
  apart := fun _ _ _ => Reaches.unique
  joined := by
    intro names id reaches
    rw [reaches.eq_path]
    rfl

end Hierarchy

namespace Forest

variable {forest : Forest}

/-! ## Asking for one class after another -/

/-- The forest after classes were asked for one after another. -/
def requireAll (forest : Forest) (requests : List Place) : Forest :=
  requests.foldl (fun forest request => (forest.requireClass request.parent request.name).1) forest

theorem extends_requireAll (forest : Forest) (requests : List Place) :
    forest.hierarchy.Extends (forest.requireAll requests).hierarchy := by
  induction requests generalizing forest with
  | nil => exact .refl _
  | cons request rest ih =>
      have first := Hierarchy.extends_require forest.hierarchy request.parent request.name
      exact first.trans (ih (forest.requireClass request.parent request.name).1)

/-- A class that was asked for is found again, whatever else was asked for. -/
theorem requireClass_requireAll {parent : Option ClassId} (name : String)
    (below : ∀ outer ∈ parent, outer < forest.hierarchy.size) (requests : List Place) :
    ((forest.requireClass parent name).1.requireAll requests).requireClass parent name =
      ((forest.requireClass parent name).1.requireAll requests,
        (forest.requireClass parent name).2) := by
  have placed := Hierarchy.getElem?_require name below
  have growth := extends_requireAll (forest.requireClass parent name).1 requests
  have kept := (growth.getElem?_eq (Hierarchy.snd_require_lt name below)).trans placed
  refine requireClass_of_find? (Hierarchy.find?_eq_some_iff.2 ⟨?_, ?_⟩)
  · exact Hierarchy.mem_children_iff.2 ⟨_, kept, rfl⟩
  · rw [Hierarchy.name]
    exact congrArg (fun place => (place.map (·.name)).getD "") kept

/-- Every hierarchy comes about by asking for its places in order. -/
theorem hierarchy_requireAll_places (hierarchy : Hierarchy) :
    (empty.requireAll hierarchy.places).hierarchy = hierarchy := by
  -- Each place is new when its turn comes, and the class above it is there.
  have places (front : List Place) (isFront : front <+: hierarchy.places) :
      (empty.requireAll front).hierarchy.places = front := by
    induction front using List.reverseRecOn with
    | nil => rfl
    | append_singleton front place ih =>
        have before := ih ((List.prefix_append _ _).trans isFront)
        have distinct := hierarchy.distinct.sublist isFront.sublist
        have fresh : place ∉ (empty.requireAll front).hierarchy.places := by
          rw [before]
          exact fun member => List.disjoint_of_nodup_append distinct member (by simp)
        have below : ∀ outer ∈ place.parent,
            outer < (empty.requireAll front).hierarchy.size := by
          intro outer isParent
          rw [Hierarchy.size, before]
          refine hierarchy.rooted front.length place ?_ outer isParent
          obtain ⟨rest, split⟩ := isFront
          simp [← split]
        rw [requireAll, List.foldl_concat, ← requireAll]
        have added := Hierarchy.places_require_of_not_mem fresh below
        rw [before] at added
        exact added
  exact Hierarchy.eq_of_places (places hierarchy.places (List.prefix_refl _))

/-- Whether the classes of a forest are a tree, and asking for classes only adds to it. -/
structure NestsClasses (forest : Forest) : Prop where
  tree : forest.hierarchy.IsTree
  added : ∀ parent name, forest.hierarchy.find? parent name = none →
    (∀ outer ∈ parent, outer < forest.hierarchy.size) → ∀ scope,
    (forest.requireClass parent name).1.hierarchy.children scope =
      forest.hierarchy.children scope ++ if scope = parent then [forest.hierarchy.size] else []
  again : ∀ parent name, (∀ outer ∈ parent, outer < forest.hierarchy.size) → ∀ requests,
    ((forest.requireClass parent name).1.requireAll requests).requireClass parent name =
      ((forest.requireClass parent name).1.requireAll requests,
        (forest.requireClass parent name).2)
  kept : ∀ requests, ∀ id < forest.hierarchy.size,
    (forest.requireAll requests).hierarchy.path id = forest.hierarchy.path id ∧
      (forest.requireAll requests).qualifiedName id = forest.qualifiedName id

theorem nestsClasses (forest : Forest) : forest.NestsClasses where
  tree := forest.hierarchy.isTree
  added := fun _ _ missing below scope => Hierarchy.children_require missing below scope
  again := fun _ name below requests => requireClass_requireAll name below requests
  kept := by
    intro requests id valid
    have same := (forest.extends_requireAll requests).path_eq valid
    exact ⟨same, congrArg ".".intercalate same⟩

end Forest

namespace Conversion

/-- Classes that were asked for one after another are a tree, and so are those of a conversion
between any two passes, which are what asking for their places builds. -/
theorem nestsClasses_requireAll_between (requests : List Place) (settings : Settings)
    (headers : List HeaderDeclarations) (rootClass : String) (header : HeaderDeclarations)
    (count : Nat) :
    (Forest.empty.requireAll requests).NestsClasses ∧
      (between settings headers rootClass header count).forest.NestsClasses ∧
      (Forest.empty.requireAll
          (between settings headers rootClass header count).forest.hierarchy.places).hierarchy =
        (between settings headers rootClass header count).forest.hierarchy := by
  refine ⟨Forest.nestsClasses _, Forest.nestsClasses _, ?_⟩
  exact Forest.hierarchy_requireAll_places _

end Conversion

end Bindery
