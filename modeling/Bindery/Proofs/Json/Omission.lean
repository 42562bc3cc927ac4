import Bindery.Proofs.Json.Spelling

/-!
# Leaving out members

A member of a JSON value is told by the path to it, and a choice of members by the paths of all of
them.  A record that is read without some of its members has the defaults in their place; the rest
is read as before.
-/

namespace Bindery

namespace Json

/-- A step into a value: to a member of an object or to an item of an array. -/
inductive PathStep where
  | member (name : String)
  | item (index : Nat)
  deriving DecidableEq

abbrev Path := List PathStep

/-- What stands at a path. -/
def at? : Json → Path → Option Json
  | value, [] => some value
  | .object members, .member name :: path => (members.lookup (some name)).bind (·.at? path)
  | .array items, .item index :: path => items[index]?.bind (·.at? path)
  | _, _ => none

/-- A choice of members, by the paths to them. -/
abbrev Selection := Path → Bool

/-- The choice as it is seen after a step. -/
def Selection.below (selection : Selection) (step : PathStep) : Selection :=
  fun path => selection (step :: path)

mutual

/-- The value without the selected members. -/
def prune (selection : Selection) : Json → Json
  | .array items => .array (pruneItems selection 0 items)
  | .object members => .object (pruneMembers selection members)
  | value => value

/-- Items that stand from the given position on. -/
def pruneItems (selection : Selection) (index : Nat) : List Json → List Json
  | [] => []
  | item :: items =>
    prune (selection.below (.item index)) item :: pruneItems selection (index + 1) items

/-- Members of an object.  A key that spells nothing counts as the empty one. -/
def pruneMembers (selection : Selection) :
    List (Option String × Json) → List (Option String × Json)
  | [] => []
  | (key, value) :: members =>
    if selection [.member (key.getD "")] then pruneMembers selection members
    else
      (key, prune (selection.below (.member (key.getD ""))) value) ::
        pruneMembers selection members

end

variable {α : Type} {selection : Selection} {members : List (String × Json)} {name : String}
  {value : Json}

/-! ## Records -/

/-- What is left of the members of a record. -/
def Selection.kept (selection : Selection) (members : List (String × Json)) :
    List (String × Json) :=
  members.filterMap fun (name, value) =>
    if selection [.member name] then none
    else some (name, value.prune (selection.below (.member name)))

theorem prune_record (members : List (String × Json)) :
    (record members).prune selection = record (selection.kept members) := by
  have each : pruneMembers selection (members.map fun (name, value) => (some name, value)) =
      (selection.kept members).map fun (name, value) => (some name, value) := by
    induction members with
    | nil => rfl
    | cons member members ih =>
        obtain ⟨name, value⟩ := member
        by_cases selected : selection [.member name] = true
        · simp [pruneMembers, Selection.kept, selected] at ih ⊢
          exact ih
        · simp [pruneMembers, Selection.kept, selected] at ih ⊢
          exact ih
  rw [record, prune, each, record]

theorem kept_cons (member : String × Json) :
    selection.kept (member :: members) =
      if selection [.member member.1] then selection.kept members
      else
        (member.1, member.2.prune (selection.below (.member member.1))) ::
          selection.kept members := by
  by_cases selected : selection [.member member.1] = true <;> simp [Selection.kept, selected]

theorem lookup_kept (selection : Selection) (members : List (String × Json)) (name : String) :
    (selection.kept members).lookup name =
      if selection [.member name] then none
      else (members.lookup name).map (·.prune (selection.below (.member name))) := by
  induction members with
  | nil => simp [Selection.kept]
  | cons member members ih =>
      rw [kept_cons, List.lookup_cons]
      by_cases same : name = member.1
      · subst same
        by_cases selected : selection [.member member.1] = true
        · simp [selected, ih]
        · simp [selected]
      · have other : (name == member.1) = false := by simpa using same
        by_cases selected : selection [.member member.1] = true
        · simp [selected, other, ih]
        · simp [selected, other, ih, List.lookup_cons]

theorem names_kept_sublist (selection : Selection) (members : List (String × Json)) :
    ((selection.kept members).map (·.1)).Sublist (members.map (·.1)) := by
  induction members with
  | nil => simp [Selection.kept]
  | cons member members ih =>
      rw [kept_cons]
      split
      · exact ih.cons _
      · exact ih.cons_cons _

theorem entriesOf?_record (members : List (String × Json)) :
    entriesOf? (record members) = some members := by
  rw [record, entriesOf?]
  induction members with
  | nil => rfl
  | cons member members ih => simp_all

/-- The fields of a record that misses some members are the members that are left. -/
theorem fields?_prune {names : List String} (named : members.map (·.1) = names)
    (distinct : names.Nodup) :
    Written.fields? names ((record members).prune selection) =
      some (selection.kept members) := by
  have within := named ▸ names_kept_sublist selection members
  have known : (selection.kept members).filter (fun field => names.contains field.1) =
      selection.kept members := by
    rw [List.filter_eq_self]
    intro field member
    simpa using within.subset (List.mem_map_of_mem member)
  have isRecord : fieldsOf? names (record (selection.kept members)) =
      entriesOf? (record (selection.kept members)) >>= pickFields names := rfl
  rw [prune_record]
  change fieldsOf? names _ = _
  rw [isRecord, entriesOf?_record, Option.bind_eq_bind, Option.bind_some, pickFields]
  simp only [known, distinct.sublist within, if_true]

/-- The default where the member of the name is selected, and otherwise the value. -/
def Selection.pick (selection : Selection) (name : String) (default value : α) : α :=
  if selection [.member name] then default else value

variable {read : Json → Option α} {default result : α}

/-- A record is read from what is left of its members. -/
theorem record_reads {names : List String} {build : List (String × Json) → Option α}
    (named : members.map (·.1) = names) (distinct : names.Nodup)
    (builds : build (selection.kept members) = some result) :
    (Written.fields? names ((record members).prune selection) >>= build) = some result := by
  rw [fields?_prune named distinct]
  exact builds

theorem required_kept (found : members.lookup name = some value)
    (unselected : selection [.member name] = false)
    (reads : read (value.prune (selection.below (.member name))) = some result) :
    Written.required (selection.kept members) name read = some result := by
  rw [Written.required, lookup_kept, unselected, found]
  exact reads

theorem withDefault_kept (found : members.lookup name = some value)
    (reads : read (value.prune (selection.below (.member name))) = some result) :
    Written.withDefault (selection.kept members) name default read =
      some (selection.pick name default result) := by
  rw [Written.withDefault, lookup_kept, found]
  by_cases selected : selection [.member name] = true
  · simp [selected, Selection.pick]
  · simp [selected, Selection.pick, reads]

/-- A field that may be left out is read, and then the other fields are. -/
theorem withDefault_reads {β : Type} {build : α → Option β} {whole : β}
    (found : members.lookup name = some value)
    (reads : read (value.prune (selection.below (.member name))) = some result)
    (builds : build (selection.pick name default result) = some whole) :
    (Written.withDefault (selection.kept members) name default read >>= build) = some whole := by
  rw [withDefault_kept found reads]
  exact builds

/-- A field that must be there is read, and then the other fields are. -/
theorem required_reads {β : Type} {build : α → Option β} {whole : β}
    (found : members.lookup name = some value) (unselected : selection [.member name] = false)
    (reads : read (value.prune (selection.below (.member name))) = some result)
    (builds : build result = some whole) :
    (Written.required (selection.kept members) name read >>= build) = some whole := by
  rw [required_kept found unselected reads]
  exact builds

/-! ## Choices of members that may be left out -/

/-- Whether only members that may be left out are selected. -/
def Selection.Within (selection : Selection) (isOptional : Path → Bool) : Prop :=
  ∀ path, selection path = true → isOptional path = true

theorem Selection.Within.unselected {isOptional : Path → Bool} {path : Path}
    (within : selection.Within isOptional) (isRequired : isOptional path = false) :
    selection path = false := by
  cases selected : selection path with
  | false => rfl
  | true => rw [within path selected] at isRequired; cases isRequired

/-- Whether no part of any member is selected. -/
def Selection.Shallow (selection : Selection) : Prop :=
  ∀ name step path, selection (.member name :: step :: path) = false

/-! ## Values that are read whole -/

theorem text?_prune (content : String) :
    Written.text? ((ofString content).prune selection) = some content :=
  rfl

theorem flag?_prune (flag : Bool) : Written.flag? ((Json.bool flag).prune selection) = some flag :=
  rfl

theorem option?_prune (content : Option String) :
    Written.option? Written.text? ((ofOption ofString content).prune selection) = some content := by
  cases content <;> rfl

theorem integer?_prune (value : Int64) :
    Written.integer? ((ofInt value.toInt).prune selection) = some value := by
  change integerOf? (.number (toString value.toInt)) = some value
  rw [integerOf?, integerOfLiteral?_toString, Option.bind_eq_bind, Option.bind_some, int64?_toInt]

theorem mapM_pruneItems {β : Type} {encode : α → Json} {read : Json → Option β}
    {values : List α} {result : Nat → α → β} (start : Nat)
    (reads : ∀ i item, values[i]? = some item →
      read ((encode item).prune (selection.below (.item (start + i)))) =
        some (result (start + i) item)) :
    (pruneItems selection start (values.map encode)).mapM read =
      some (values.mapIdx fun i item => result (start + i) item) := by
  induction values generalizing start with
  | nil => rfl
  | cons item values ih =>
      have first : read ((encode item).prune (selection.below (.item start))) =
          some (result start item) := reads 0 item rfl
      have others := ih (start + 1) fun i other found => by
        simpa [Nat.add_assoc, Nat.add_comm 1 i] using reads (i + 1) other found
      rw [List.map_cons, pruneItems, List.mapM_cons, first, others, List.mapIdx_cons]
      simp [Nat.add_assoc, Nat.add_comm 1]

/-- A list is read item by item. -/
theorem list?_prune {β : Type} {encode : α → Json} {read : Json → Option β} {values : List α}
    {result : Nat → α → β}
    (reads : ∀ i item, values[i]? = some item →
      read ((encode item).prune (selection.below (.item i))) = some (result i item)) :
    Written.list? read ((ofList encode values).prune selection) =
      some (values.mapIdx result) := by
  change (pruneItems selection 0 (values.map encode)).mapM read = _
  rw [mapM_pruneItems 0 (by simpa using reads)]
  simp only [Nat.zero_add]

/-- A list of which every item is read back is read back itself. -/
theorem list?_prune_self {encode : α → Json} {values : List α}
    (reads : ∀ i item, values[i]? = some item →
      read ((encode item).prune (selection.below (.item i))) = some item) :
    Written.list? read ((ofList encode values).prune selection) = some values := by
  rw [list?_prune reads]
  exact congrArg some (List.ext_getElem? fun i => by simp)

theorem texts?_prune (texts : List String) :
    Written.list? Written.text? ((ofList ofString texts).prune selection) = some texts :=
  list?_prune_self fun _ text _ => text?_prune text

/-! ## Members that hold their default -/

theorem lookup_record (members : List (String × Json)) (name : String) :
    (members.map fun (name, value) => (some name, value)).lookup (some name) =
      members.lookup name := by
  induction members with
  | nil => rfl
  | cons member members ih =>
      obtain ⟨other, value⟩ := member
      rw [List.map_cons, List.lookup_cons, List.lookup_cons, ih]
      rfl

theorem at?_member (found : members.lookup name = some value) (path : Path) :
    (record members).at? (.member name :: path) = value.at? path := by
  rw [record, at?, lookup_record, found, Option.bind_some]

theorem at?_item {items : List Json} {index : Nat} (found : items[index]? = some value)
    (path : Path) : (Json.array items).at? (.item index :: path) = value.at? path := by
  rw [at?, found, Option.bind_some]

/-- Whether all selected members of the value are there and hold the default that members at their
place have. -/
def Selection.OmitsDefaults (selection : Selection) (default? : Path → Option Json)
    (value : Json) : Prop :=
  ∀ path, selection path = true →
    ∃ default, default? path = some default ∧ value.at? path = some default

/-- Defaults in a list that may be left out as a whole if it is empty. -/
def defaultInList (inner? : Path → Option Json) : Path → Option Json
  | [] => some (.array [])
  | .item _ :: path => inner? path
  | .member _ :: _ => none

theorem ofString_inj {left right : String} (same : ofString left = ofString right) :
    left = right :=
  Option.some.inj (text.inj same)

theorem ofList_inj_nil {encode : α → Json} {values : List α}
    (same : .array [] = ofList encode values) : [] = values :=
  (List.map_eq_nil_iff.1 (array.inj same).symm).symm

namespace Selection.OmitsDefaults

variable {default? inner? : Path → Option Json} {standard : Json}

/-- A member that has no default is not selected. -/
theorem unselected (omits : selection.OmitsDefaults default? (record members))
    (isRequired : default? [.member name] = none) : selection [.member name] = false := by
  cases selected : selection [.member name] with
  | false => rfl
  | true =>
      obtain ⟨default, isDefault, -⟩ := omits _ selected
      rw [isRequired] at isDefault
      cases isDefault

/-- A selected member holds its default. -/
theorem eq_of_selected (omits : selection.OmitsDefaults default? (record members))
    (found : members.lookup name = some value) (selected : selection [.member name] = true) :
    default? [.member name] = some value := by
  obtain ⟨default, isDefault, stands⟩ := omits _ selected
  rw [at?_member found, at?] at stands
  rw [isDefault, ← stands]

theorem member (omits : selection.OmitsDefaults default? (record members)) (name : String)
    (found : members.lookup name = some value)
    (inside : ∀ path, default? (.member name :: path) = inner? path) :
    (selection.below (.member name)).OmitsDefaults inner? value := by
  intro path selected
  rw [← inside, ← at?_member found]
  exact omits _ selected

theorem item {encode : α → Json} {values : List α} {index : Nat} {content : α}
    (omits : selection.OmitsDefaults default? (ofList encode values))
    (found : values[index]? = some content)
    (inside : ∀ path, default? (.item index :: path) = inner? path) :
    (selection.below (.item index)).OmitsDefaults inner? (encode content) := by
  intro path selected
  have stands : (values.map encode)[index]? = some (encode content) := by simp [found]
  rw [← inside, ← at?_item stands]
  exact omits _ selected

/-- The key that tells an alternative is always there. -/
theorem choice (omits : selection.OmitsDefaults default? (record [(name, value)]))
    (isRequired : default? [.member name] = none) :
    Written.choice? ((record [(name, value)]).prune selection) =
      some (name, value.prune (selection.below (.member name))) := by
  have kept : selection.kept [(name, value)] =
      [(name, value.prune (selection.below (.member name)))] := by
    simp [Selection.kept, omits.unselected isRequired]
  rw [prune_record, kept]
  rfl

/-- A field that must be there is read as it was. -/
theorem required (omits : selection.OmitsDefaults default? (record members)) (name : String)
    (found : members.lookup name = some value) (isRequired : default? [.member name] = none)
    (reads : read (value.prune (selection.below (.member name))) = some result) :
    Written.required (selection.kept members) name read = some result :=
  required_kept found (omits.unselected isRequired) reads

/-- A field that may be left out is read as it was: if it is, it held its default, and nothing else
is written like the default. -/
theorem withDefault (omits : selection.OmitsDefaults default? (record members)) (name : String)
    (found : members.lookup name = some value) (isDefault : default? [.member name] = some standard)
    (told : standard = value → default = result)
    (reads : read (value.prune (selection.below (.member name))) = some result) :
    Written.withDefault (selection.kept members) name default read = some result := by
  rw [withDefault_kept found reads, Selection.pick]
  split
  · rename_i selected
    have holds := omits.eq_of_selected found selected
    rw [told (Option.some.inj (isDefault.symm.trans holds))]
  · rfl

/-- A list that may be left out if it is empty is read as it was. -/
theorem items {encode : α → Json} {values : List α}
    (omits : selection.OmitsDefaults default? (record members)) (name : String)
    (found : members.lookup name = some (ofList encode values))
    (inside : ∀ path, default? (.member name :: path) = defaultInList inner? path)
    (reads : ∀ {selection : Selection} {content : α},
      selection.OmitsDefaults inner? (encode content) →
        read ((encode content).prune selection) = some content) :
    Written.withDefault (selection.kept members) name [] (Written.list? read) = some values := by
  have omitsInside := omits.member name found inside
  refine omits.withDefault name found (inside []) ofList_inj_nil ?_
  exact list?_prune_self fun _ _ isItem => reads (omitsInside.item isItem fun _ => rfl)

end Selection.OmitsDefaults

/-! ## Values that can be written -/

theorem readable_ofString (content : String) : (ofString content).Readable :=
  .text content

theorem readable_ofInt (value : Int) : (ofInt value).Readable :=
  .number (isNumeric_toString value) (spellsNumber_toString value)

theorem readable_ofList {encode : α → Json} (each : ∀ item, (encode item).Readable)
    (values : List α) : (ofList encode values).Readable :=
  .array (by simpa using fun item _ => each item)

theorem readable_ofOption {encode : α → Json} (each : ∀ item, (encode item).Readable)
    (value : Option α) : (ofOption encode value).Readable := by
  cases value with
  | none => exact .null
  | some value => exact each value

theorem readable_record (each : ∀ member ∈ members, member.2.Readable) :
    (record members).Readable := by
  refine .object (fun field isField => ?_) fun field isField => ?_
  · obtain ⟨member, -, rfl⟩ := List.mem_map.1 isField
    rfl
  · obtain ⟨member, isIn, rfl⟩ := List.mem_map.1 isField
    exact each member isIn

theorem exists_of_mem_pruneItems {items : List Json} {index : Nat} {item : Json}
    (member : item ∈ pruneItems selection index items) :
    ∃ whole ∈ items, ∃ inside, item = whole.prune inside := by
  induction items generalizing index with
  | nil => cases member
  | cons first items ih =>
      rcases List.mem_cons.1 member with isFirst | later
      · exact ⟨first, List.mem_cons_self, _, isFirst⟩
      · obtain ⟨whole, isIn, pruned⟩ := ih later
        exact ⟨whole, List.mem_cons_of_mem _ isIn, pruned⟩

theorem exists_of_mem_pruneMembers {fields : List (Option String × Json)}
    {field : Option String × Json} (member : field ∈ pruneMembers selection fields) :
    ∃ whole ∈ fields, ∃ inside, field = (whole.1, whole.2.prune inside) := by
  induction fields with
  | nil => cases member
  | cons first fields ih =>
      rw [pruneMembers] at member
      split at member
      · obtain ⟨whole, isIn, pruned⟩ := ih member
        exact ⟨whole, List.mem_cons_of_mem _ isIn, pruned⟩
      · rcases List.mem_cons.1 member with isFirst | later
        · exact ⟨first, List.mem_cons_self, _, isFirst⟩
        · obtain ⟨whole, isIn, pruned⟩ := ih later
          exact ⟨whole, List.mem_cons_of_mem _ isIn, pruned⟩

/-- What is left of a value that can be written can be written. -/
theorem Readable.prune (readable : value.Readable) (selection : Selection) :
    (value.prune selection).Readable := by
  induction readable generalizing selection with
  | null => exact .null
  | bool value => exact .bool value
  | number numeric number => exact .number numeric number
  | text content => exact .text content
  | array each ih =>
      refine .array fun item member => ?_
      obtain ⟨whole, isIn, inside, rfl⟩ := exists_of_mem_pruneItems member
      exact ih whole isIn inside
  | object keyed each ih =>
      refine .object (fun field member => ?_) fun field member => ?_
      · obtain ⟨whole, isIn, inside, rfl⟩ := exists_of_mem_pruneMembers member
        exact keyed whole isIn
      · obtain ⟨whole, isIn, inside, rfl⟩ := exists_of_mem_pruneMembers member
        exact ih whole isIn inside

end Json

end Bindery
