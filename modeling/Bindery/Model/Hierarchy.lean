import Bindery.Model.Type

/-!
# The hierarchy of classes

Classes are nested, and within one class, or at the top, no name is used twice.  A class is
therefore known by its place, which is its parent and its name, and it is numbered by the order in
which places were first asked for.  Places are never given up, and a parent is older than its
inner classes; both are part of the type.
-/

namespace Bindery

structure Place where
  parent : Option ClassId
  name : String
  deriving DecidableEq, Inhabited

structure Hierarchy where
  places : List Place
  distinct : places.Nodup
  rooted : ∀ (id : ClassId) (place : Place), places[id]? = some place →
    ∀ parent ∈ place.parent, parent < id
  deriving DecidableEq

namespace Hierarchy

def empty : Hierarchy where
  places := []
  distinct := .nil
  rooted := by simp

instance : Inhabited Hierarchy := ⟨empty⟩

def size (hierarchy : Hierarchy) : Nat :=
  hierarchy.places.length

def name (hierarchy : Hierarchy) (id : ClassId) : String :=
  (hierarchy.places[id]?.map (·.name)).getD ""

def parent? (hierarchy : Hierarchy) (id : ClassId) : Option ClassId :=
  hierarchy.places[id]?.bind (·.parent)

def find? (hierarchy : Hierarchy) (parent : Option ClassId) (name : String) : Option ClassId :=
  hierarchy.places.idxOf? { parent, name }

/-- A hierarchy with one more place, below a class that is there. -/
def add (hierarchy : Hierarchy) (place : Place) (fresh : place ∉ hierarchy.places)
    (below : ∀ parent ∈ place.parent, parent < hierarchy.size) : Hierarchy where
  places := hierarchy.places ++ [place]
  distinct := by
    refine List.nodup_append.2 ⟨hierarchy.distinct, by simp, ?_⟩
    intro old member new isNew same
    exact fresh (List.mem_singleton.1 isNew ▸ same ▸ member)
  rooted := by
    intro id found present parent isParent
    rcases Nat.lt_or_ge id hierarchy.places.length with old | new
    · rw [List.getElem?_append_left old] at present
      exact hierarchy.rooted id found present parent isParent
    · rw [List.getElem?_append_right new] at present
      have last : id - hierarchy.places.length = 0 := by
        rcases Nat.eq_zero_or_pos (id - hierarchy.places.length) with zero | positive
        · exact zero
        · rw [List.getElem?_eq_none (by simp only [List.length_singleton]; omega)] at present
          simp at present
      rw [last] at present
      simp only [List.getElem?_cons_zero, Option.some.injEq] at present
      exact Nat.lt_of_lt_of_le (below parent (present ▸ isParent)) new

/-- The class at a place, which is added if it is not there.  Below a class that does not exist
nothing is added. -/
def require (hierarchy : Hierarchy) (parent : Option ClassId) (name : String) :
    Hierarchy × ClassId :=
  match found : hierarchy.find? parent name with
  | some id => (hierarchy, id)
  | none =>
    if below : ∀ outer ∈ parent, outer < hierarchy.size then
      (hierarchy.add { parent, name } (by simpa [find?] using found) below, hierarchy.size)
    else (hierarchy, hierarchy.size)

/-- The classes directly below `parent`, or the top ones for `none`, oldest first. -/
def children (hierarchy : Hierarchy) (parent : Option ClassId) : List ClassId :=
  hierarchy.places.zipIdx.filterMap fun (place, id) =>
    if place.parent = parent then some id else none

def roots (hierarchy : Hierarchy) : List ClassId :=
  hierarchy.children none

def inner (hierarchy : Hierarchy) (id : ClassId) : List ClassId :=
  hierarchy.children (some id)

/-- Siblings first, then what is below each of them in turn, down to the given depth. -/
def descend (hierarchy : Hierarchy) : Nat → List ClassId → List ClassId
  | 0, _ => []
  | depth + 1, siblings =>
    siblings ++ siblings.flatMap fun id => hierarchy.descend depth (hierarchy.inner id)

/-- All classes: the roots, and then each root's inner classes in depth.  No class lies deeper
than there are classes. -/
def all (hierarchy : Hierarchy) : List ClassId :=
  hierarchy.descend hierarchy.size hierarchy.roots

/-- The names on the way to a class, over at most the given number of steps. -/
def pathWithin (hierarchy : Hierarchy) : Nat → ClassId → List String
  | 0, _ => []
  | steps + 1, id =>
    match hierarchy.parent? id with
    | some parent => hierarchy.pathWithin steps parent ++ [hierarchy.name id]
    | none => [hierarchy.name id]

/-- The names on the way to a class.  It has fewer ancestors than there are older classes. -/
def path (hierarchy : Hierarchy) (id : ClassId) : List String :=
  hierarchy.pathWithin (id + 1) id

/-- The path with dots between the names, such as `Tox.Friend.File`. -/
def qualifiedName (hierarchy : Hierarchy) (id : ClassId) : String :=
  ".".intercalate (hierarchy.path id)

/-- The first class of the given name, wherever it stands. -/
def findAnywhere? (hierarchy : Hierarchy) (name : String) : Option ClassId :=
  hierarchy.all.find? fun id => hierarchy.name id == name

theorem size_add (hierarchy : Hierarchy) (place : Place) (fresh : place ∉ hierarchy.places)
    (below : ∀ parent ∈ place.parent, parent < hierarchy.size) :
    (hierarchy.add place fresh below).size = hierarchy.size + 1 := by
  simp [add, size]

/-- Asking for a class takes no class away. -/
theorem size_le_size_require (hierarchy : Hierarchy) (parent : Option ClassId) (name : String) :
    hierarchy.size ≤ (hierarchy.require parent name).1.size := by
  unfold require
  split
  · exact Nat.le_refl _
  · split
    · rw [size_add]
      exact Nat.le_succ _
    · exact Nat.le_refl _

end Hierarchy

end Bindery
