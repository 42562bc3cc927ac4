/-!
# Tables

Finite maps from names, kept in the order of their names.  A name occurs once, so two tables with
the same entries are equal as values.
-/

namespace Bindery

/-- A finite map from names to values. -/
structure Table (α : Type) where
  entries : List (String × α)
  sorted : entries.Pairwise (fun left right => left.1 < right.1)
  deriving DecidableEq

namespace Table

variable {α : Type}

def empty : Table α where
  entries := []
  sorted := .nil

instance : EmptyCollection (Table α) := ⟨empty⟩
instance : Inhabited (Table α) := ⟨empty⟩

def get? (table : Table α) (key : String) : Option α :=
  table.entries.lookup key

def insertEntry (key : String) (value : α) : List (String × α) → List (String × α)
  | [] => [(key, value)]
  | entry :: rest =>
    if key < entry.1 then (key, value) :: entry :: rest
    else if key = entry.1 then (key, value) :: rest
    else entry :: insertEntry key value rest

theorem mem_insertEntry {key : String} {value : α} {entries : List (String × α)}
    {entry : String × α} (member : entry ∈ insertEntry key value entries) :
    entry = (key, value) ∨ entry ∈ entries := by
  induction entries with
  | nil => simpa [insertEntry] using member
  | cons head rest ih =>
      simp only [insertEntry] at member
      split at member
      · simpa using member
      · split at member
        · rcases List.mem_cons.1 member with same | other
          · exact .inl same
          · exact .inr (List.mem_cons_of_mem _ other)
        · rcases List.mem_cons.1 member with same | other
          · exact .inr (same ▸ List.mem_cons_self)
          · rcases ih other with same | other
            · exact .inl same
            · exact .inr (List.mem_cons_of_mem _ other)

theorem sorted_insertEntry (key : String) (value : α) {entries : List (String × α)}
    (sorted : entries.Pairwise (fun left right => left.1 < right.1)) :
    (insertEntry key value entries).Pairwise (fun left right => left.1 < right.1) := by
  induction entries with
  | nil => simp [insertEntry]
  | cons head rest ih =>
      obtain ⟨least, sortedRest⟩ := List.pairwise_cons.1 sorted
      simp only [insertEntry]
      split
      · rename_i before
        refine List.pairwise_cons.2 ⟨fun entry member => ?_, sorted⟩
        rcases List.mem_cons.1 member with rfl | member
        · exact before
        · exact String.lt_trans before (least entry member)
      · split
        · rename_i same
          exact List.pairwise_cons.2
            ⟨fun entry member => same ▸ least entry member, sortedRest⟩
        · rename_i notBefore notSame
          refine List.pairwise_cons.2 ⟨fun entry member => ?_, ih sortedRest⟩
          rcases mem_insertEntry member with rfl | member
          · exact Std.lt_of_le_of_ne (String.not_lt.1 notBefore) (Ne.symm notSame)
          · exact least entry member

/-- The table with `key` bound to `value`, whatever it was bound to before. -/
def insert (table : Table α) (key : String) (value : α) : Table α where
  entries := insertEntry key value table.entries
  sorted := sorted_insertEntry key value table.sorted

/-- The table of the given bindings.  Of two bindings of a name the later one counts. -/
def ofList (bindings : List (String × α)) : Table α :=
  bindings.foldl (fun table (key, value) => table.insert key value) empty

theorem ext {left right : Table α} (same : left.entries = right.entries) : left = right := by
  cases left; cases right; simp_all

end Table

end Bindery
