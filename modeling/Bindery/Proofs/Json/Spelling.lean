import Bindery.Proofs.Json.Atoms
import Mathlib.Data.List.Forall2

/-!
# Reading back what is written

A written value is read back as it was, in both of the forms that there are, if its numbers are
number literals and all of its texts can be used.
-/

namespace Bindery.Json

variable {text rest after chars inner outer : List Char} {value : Json}

/-! ## One step of the reader -/

/-- Whether all characters are white space. -/
def isBlank (chars : List Char) : Bool :=
  chars.all isSpace

theorem skipSpace_append (blank : isBlank inner = true) :
    skipSpace (inner ++ rest) = skipSpace rest :=
  List.dropWhile_append_of_pos (List.all_eq_true.1 blank)

theorem skipSpace_cons {c : Char} (noSpace : isSpace c = false) :
    skipSpace (c :: rest) = c :: rest :=
  List.dropWhile_cons_of_neg (by simp [noSpace])

theorem not_isNumeric_of_isSpace {c : Char} (space : isSpace c = true) : ¬isNumeric c = true := by
  simp only [isSpace, Bool.or_eq_true, beq_iff_eq] at space
  rcases space with ((rfl | rfl) | rfl) | rfl <;> decide

/-- What the start of a value tells about it.  The bounds on what is left are not part of it. -/
theorem readValue_eq (text : List Char) :
    (readValue text).map Parsed.outcome =
      match text with
      | '"' :: rest =>
        ((readText rest).map Parsed.outcome).map fun read => (.text read.1, read.2)
      | '[' :: rest =>
        match skipSpace rest with
        | ']' :: after => some (.array [], after)
        | _ => ((readItems rest).map Parsed.outcome).map fun read => (.array read.1, read.2)
      | '\x7b' :: rest =>
        match skipSpace rest with
        | '\x7d' :: after => some (.object [], after)
        | _ => ((readMembers rest).map Parsed.outcome).map fun read => (.object read.1, read.2)
      | 't' :: 'r' :: 'u' :: 'e' :: rest => some (.bool true, rest)
      | 'f' :: 'a' :: 'l' :: 's' :: 'e' :: rest => some (.bool false, rest)
      | 'n' :: 'u' :: 'l' :: 'l' :: rest => some (.null, rest)
      | text =>
        ((readNumber text).map Parsed.outcome).map fun read => (.number read.1, read.2) := by
  rw [readValue.eq_def]
  split
  · rename_i rest
    simp only [Option.map_map]
    cases readText rest <;> rfl
  · rename_i rest
    simp only [Option.map_map]
    split
    · rename_i closes
      simp only [closes]
      rfl
    · simp only
      cases readItems rest <;> rfl
  · rename_i rest
    simp only [Option.map_map]
    split
    · rename_i closes
      simp only [closes]
      rfl
    · simp only
      cases readMembers rest <;> rfl
  · rfl
  · rfl
  · rfl
  · simp only [Option.map_map]
    cases readNumber text <;> rfl

theorem readValue_number {c : Char} (numeric : isNumeric c = true) (rest : List Char) :
    (readValue (c :: rest)).map Parsed.outcome =
      ((readNumber (c :: rest)).map Parsed.outcome).map fun read => (.number read.1, read.2) := by
  have differs {other : Char} (noNumber : isNumeric other = false) : c ≠ other := by
    rintro rfl
    simp [numeric] at noNumber
  rw [readValue_eq]
  split
  case h_7 => rfl
  all_goals
    rename_i spelled
    exact absurd (List.cons.inj spelled).1 (differs (by decide))

theorem readValue_array_nil (closes : skipSpace rest = ']' :: after) :
    (readValue ('[' :: rest)).map Parsed.outcome = some (.array [], after) := by
  simp only [readValue_eq, closes]

theorem readValue_array (noEnd : ∀ after, skipSpace rest ≠ ']' :: after) :
    (readValue ('[' :: rest)).map Parsed.outcome =
      ((readItems rest).map Parsed.outcome).map fun read => (.array read.1, read.2) := by
  simp only [readValue_eq]

theorem readValue_object_nil (closes : skipSpace rest = '\x7d' :: after) :
    (readValue ('\x7b' :: rest)).map Parsed.outcome = some (.object [], after) := by
  simp only [readValue_eq, closes]

theorem readValue_object (noEnd : ∀ after, skipSpace rest ≠ '\x7d' :: after) :
    (readValue ('\x7b' :: rest)).map Parsed.outcome =
      ((readMembers rest).map Parsed.outcome).map fun read => (.object read.1, read.2) := by
  simp only [readValue_eq]

theorem readItems_eq (text : List Char) :
    (readItems text).map Parsed.outcome =
      ((readValue (skipSpace text)).map Parsed.outcome).bind fun item =>
        match skipSpace item.2 with
        | ']' :: rest => some ([item.1], rest)
        | ',' :: rest =>
          ((readItems rest).map Parsed.outcome).map fun others => (item.1 :: others.1, others.2)
        | _ => none := by
  rw [readItems]
  cases readValue (skipSpace text) with
  | none => rfl
  | some item =>
      simp only [Option.map_some, Option.bind_some, Parsed.outcome]
      split
      · rename_i closes
        simp [closes, Parsed.outcome]
      · rename_i rest goesOn
        simp only [goesOn]
        cases readItems rest <;> rfl
      · simp only [Option.map_none]

theorem readMembers_eq (text : List Char) :
    (readMembers text).map Parsed.outcome =
      match skipSpace text with
      | '"' :: quoted =>
        ((readText quoted).map Parsed.outcome).bind fun key =>
          match skipSpace key.2 with
          | ':' :: rest =>
            ((readValue (skipSpace rest)).map Parsed.outcome).bind fun value =>
              match skipSpace value.2 with
              | '\x7d' :: rest => some ([(key.1, value.1)], rest)
              | ',' :: rest =>
                ((readMembers rest).map Parsed.outcome).map fun others =>
                  ((key.1, value.1) :: others.1, others.2)
              | _ => none
          | _ => none
      | _ => none := by
  rw [readMembers]
  split
  · rename_i quoted opens
    simp only [opens]
    cases readText quoted with
    | none => rfl
    | some key =>
        simp only [Option.map_some, Option.bind_some, Parsed.outcome]
        split
        · rename_i rest separates
          simp only [separates]
          cases readValue (skipSpace rest) with
          | none => rfl
          | some value =>
              simp only [Option.map_some, Option.bind_some, Parsed.outcome]
              split
              · rename_i closes
                simp [closes, Parsed.outcome]
              · rename_i rest goesOn
                simp only [goesOn]
                cases readMembers rest <;> rfl
              · simp only [Option.map_none]
        · simp only [Option.map_none]
  · simp only [Option.map_none]

/-! ## Spellings -/

/-- Whether the characters spell the value: they start with neither white space nor a closing
bracket, and whatever follows that does not go on with a number, they are read as the value. -/
structure Spells (chars : List Char) (value : Json) : Prop where
  starts : ∃ c others, chars = c :: others ∧ isSpace c = false ∧ c ≠ ']'
  reads : ∀ rest, endsNumber rest = true →
    (readValue (chars ++ rest)).map Parsed.outcome = some (value, rest)

/-- Whether the characters spell a member of an object. -/
inductive SpellsMember : List Char → Option String × Json → Prop where
  | intro (key : String) {space chars : List Char} {value : Json} (blank : isBlank space = true)
    (spells : Spells chars value) :
    SpellsMember ((quote key).toList ++ ':' :: (space ++ chars)) (some key, value)

/-- What follows the first part between brackets: the other parts, each after a comma and a gap, and
the closing bracket after a gap of its own. -/
def following (closing : Char) (inner outer : List Char) : List (List Char) → List Char
  | [] => outer ++ [closing]
  | part :: parts => ',' :: (inner ++ (part ++ following closing inner outer parts))

/-- Parts between brackets, each after a gap. -/
def enclose (opening closing : Char) (inner outer : List Char) : List (List Char) → List Char
  | [] => [opening, closing]
  | part :: parts => opening :: (inner ++ (part ++ following closing inner outer parts))

variable {closing : Char} {part : List Char} {parts : List (List Char)}

theorem Spells.skipSpace_eq (spells : Spells chars value) :
    skipSpace (chars ++ rest) = chars ++ rest := by
  obtain ⟨c, others, rfl, noSpace, -⟩ := spells.starts
  exact skipSpace_cons noSpace

theorem endsNumber_following (blank : isBlank outer = true)
    (noNumber : isNumeric closing = false) :
    endsNumber (following closing inner outer parts ++ rest) = true := by
  cases parts with
  | nil =>
      cases outer with
      | nil => simpa [following, endsNumber] using noNumber
      | cons c others =>
          have isSpace : isSpace c = true := by simp_all [isBlank]
          have noNumber : isNumeric c = false :=
            Bool.eq_false_iff.2 (not_isNumeric_of_isSpace isSpace)
          simpa [following, endsNumber] using noNumber
  | cons => simp [following, endsNumber, isNumeric]

theorem skipSpace_following_nil (blank : isBlank outer = true) (noSpace : isSpace closing = false) :
    skipSpace (following closing inner outer [] ++ rest) = closing :: rest := by
  rw [following, List.append_assoc, skipSpace_append blank]
  exact skipSpace_cons noSpace

theorem skipSpace_following_cons :
    skipSpace (following closing inner outer (part :: parts) ++ rest) =
      ',' :: (inner ++ (part ++ (following closing inner outer parts ++ rest))) := by
  rw [following, List.cons_append, skipSpace_cons (by decide), List.append_assoc,
    List.append_assoc]

/-- The items of an array, from the first one on. -/
theorem readItems_following {item : Json} {items : List Json} (blankInner : isBlank inner = true)
    (blankOuter : isBlank outer = true) (first : Spells part item)
    (others : List.Forall₂ Spells parts items) :
    (readItems (inner ++ (part ++ (following ']' inner outer parts ++ rest)))).map Parsed.outcome =
      some (item :: items, rest) := by
  induction others generalizing part item with
  | nil =>
      rw [readItems_eq, skipSpace_append blankInner, first.skipSpace_eq,
        first.reads _ (endsNumber_following blankOuter (by decide)), Option.bind_some,
        skipSpace_following_nil blankOuter (by decide)]
      rfl
  | cons spells others ih =>
      rw [readItems_eq, skipSpace_append blankInner, first.skipSpace_eq,
        first.reads _ (endsNumber_following blankOuter (by decide)), Option.bind_some,
        skipSpace_following_cons]
      simp only [ih spells, Option.map_some]

theorem SpellsMember.exists_eq {member : Option String × Json}
    (spells : SpellsMember chars member) : ∃ others, chars = '"' :: others := by
  cases spells with
  | intro key => exact ⟨_, by rw [toList_quote]; rfl⟩

/-- One member of an object, and what is done about the text that follows it. -/
theorem readMembers_member {member : Option String × Json} (blankInner : isBlank inner = true)
    (blankOuter : isBlank outer = true) (first : SpellsMember part member) :
    (readMembers (inner ++ (part ++ (following '\x7d' inner outer parts ++ rest)))).map
        Parsed.outcome =
      match skipSpace (following '\x7d' inner outer parts ++ rest) with
      | '\x7d' :: rest => some ([member], rest)
      | ',' :: rest =>
        ((readMembers rest).map Parsed.outcome).map fun others => (member :: others.1, others.2)
      | _ => none := by
  cases first with
  | @intro key space chars value blank spells =>
      have ends : endsNumber (following '\x7d' inner outer parts ++ rest) = true :=
        endsNumber_following blankOuter (by decide)
      have reads : (readValue (skipSpace (space ++ (chars ++
          (following '\x7d' inner outer parts ++ rest))))).map Parsed.outcome =
            some (value, following '\x7d' inner outer parts ++ rest) := by
        rw [skipSpace_append blank, spells.skipSpace_eq, spells.reads _ ends]
      rw [readMembers_eq, skipSpace_append blankInner, toList_quote, List.append_assoc,
        List.cons_append, skipSpace_cons (by decide)]
      simp only [List.append_assoc, List.cons_append, List.nil_append, readText_quoted,
        Option.bind_some]
      rw [skipSpace_cons (by decide)]
      simp only [reads, Option.bind_some]

/-- The members of an object, from the first one on. -/
theorem readMembers_following {member : Option String × Json}
    {members : List (Option String × Json)} (blankInner : isBlank inner = true)
    (blankOuter : isBlank outer = true) (first : SpellsMember part member)
    (others : List.Forall₂ SpellsMember parts members) :
    (readMembers (inner ++ (part ++ (following '\x7d' inner outer parts ++ rest)))).map
        Parsed.outcome = some (member :: members, rest) := by
  induction others generalizing part member with
  | nil =>
      rw [readMembers_member blankInner blankOuter first,
        skipSpace_following_nil blankOuter (by decide)]
      rfl
  | cons spells others ih =>
      rw [readMembers_member blankInner blankOuter first, skipSpace_following_cons]
      simp only [ih spells, Option.map_some]

theorem spells_null : Spells ['n', 'u', 'l', 'l'] .null where
  starts := ⟨'n', _, rfl, by decide, by decide⟩
  reads _ _ := readValue_eq _

theorem spells_true : Spells ['t', 'r', 'u', 'e'] (.bool true) where
  starts := ⟨'t', _, rfl, by decide, by decide⟩
  reads _ _ := readValue_eq _

theorem spells_false : Spells ['f', 'a', 'l', 's', 'e'] (.bool false) where
  starts := ⟨'f', _, rfl, by decide, by decide⟩
  reads _ _ := readValue_eq _

theorem spells_text (content : String) : Spells (quote content).toList (.text (some content)) := by
  rw [toList_quote]
  refine ⟨⟨'"', _, rfl, by decide, by decide⟩, fun rest _ => ?_⟩
  rw [List.cons_append, List.append_assoc, readValue_eq]
  simp only [List.cons_append, List.nil_append, readText_quoted, Option.map_some]

theorem spells_number {literal : String} (numeric : ∀ c ∈ literal.toList, isNumeric c = true)
    (number : spellsNumber literal.toList = true) : Spells literal.toList (.number literal) := by
  have reads (rest : List Char) (ends : endsNumber rest = true) :=
    readNumber_append numeric number ends
  cases spelled : literal.toList with
  | nil =>
      rw [spelled] at number
      cases number
  | cons c others =>
      rw [spelled] at reads numeric
      have isNumeric := numeric c List.mem_cons_self
      have noSpace : isSpace c = false :=
        Bool.eq_false_iff.2 fun isSpace => not_isNumeric_of_isSpace isSpace isNumeric
      have noEnd : c ≠ ']' := by
        rintro rfl
        cases isNumeric
      refine ⟨⟨c, others, rfl, noSpace, noEnd⟩, fun rest ends => ?_⟩
      rw [List.cons_append, readValue_number isNumeric, ← List.cons_append, reads rest ends,
        ← spelled, String.ofList_toList]
      rfl

theorem spells_array {items : List Json} (blankInner : isBlank inner = true)
    (blankOuter : isBlank outer = true) (each : List.Forall₂ Spells parts items) :
    Spells (enclose '[' ']' inner outer parts) (.array items) := by
  cases each with
  | nil =>
      refine ⟨⟨'[', _, rfl, by decide, by decide⟩, fun rest _ => ?_⟩
      exact readValue_array_nil (skipSpace_cons (by decide))
  | cons first others =>
      refine ⟨⟨'[', _, rfl, by decide, by decide⟩, fun rest _ => ?_⟩
      rw [enclose, List.cons_append, List.append_assoc, List.append_assoc, readValue_array]
      · rw [readItems_following blankInner blankOuter first others]
        rfl
      · intro after closes
        rw [skipSpace_append blankInner, first.skipSpace_eq] at closes
        obtain ⟨c, _, rfl, -, noEnd⟩ := first.starts
        exact noEnd (List.cons.inj closes).1

theorem spells_object {members : List (Option String × Json)} (blankInner : isBlank inner = true)
    (blankOuter : isBlank outer = true) (each : List.Forall₂ SpellsMember parts members) :
    Spells (enclose '\x7b' '\x7d' inner outer parts) (.object members) := by
  cases each with
  | nil =>
      refine ⟨⟨'\x7b', _, rfl, by decide, by decide⟩, fun rest _ => ?_⟩
      exact readValue_object_nil (skipSpace_cons (by decide))
  | cons first others =>
      refine ⟨⟨'\x7b', _, rfl, by decide, by decide⟩, fun rest _ => ?_⟩
      rw [enclose, List.cons_append, List.append_assoc, List.append_assoc, readValue_object]
      · rw [readMembers_following blankInner blankOuter first others]
        rfl
      · intro after closes
        obtain ⟨_, rfl⟩ := first.exists_eq
        rw [skipSpace_append blankInner, List.cons_append, skipSpace_cons (by decide)] at closes
        exact absurd (List.cons.inj closes).1 (by decide)

/-! ## The two written forms -/

/-- Whether all numbers in the value are number literals and all of its texts can be used. -/
inductive Readable : Json → Prop where
  | null : Readable .null
  | bool (value : Bool) : Readable (.bool value)
  | number {literal : String} (numeric : ∀ c ∈ literal.toList, isNumeric c = true)
    (number : spellsNumber literal.toList = true) : Readable (.number literal)
  | text (content : String) : Readable (.text (some content))
  | array {items : List Json} (each : ∀ item ∈ items, Readable item) : Readable (.array items)
  | object {members : List (Option String × Json)}
    (keyed : ∀ member ∈ members, member.1.isSome = true)
    (each : ∀ member ∈ members, Readable member.2) : Readable (.object members)

/-- Parts with a comma and a gap between them, as parts that follow one another. -/
theorem intercalate_append (part : List Char) (parts : List (List Char)) :
    (',' :: inner).intercalate (part :: parts) ++ (outer ++ [closing]) =
      part ++ following closing inner outer parts := by
  induction parts generalizing part with
  | nil => simp [following]
  | cons second parts ih =>
      rw [List.intercalate_cons_cons, List.append_assoc, ih]
      simp [following]

theorem enclose_cons (opening : Char) (part : List Char) (parts : List (List Char)) :
    enclose opening closing inner outer (part :: parts) =
      opening ::
        (inner ++ ((',' :: inner).intercalate (part :: parts) ++ (outer ++ [closing]))) := by
  rw [enclose, intercalate_append]

variable {opening closing : String} {first last : Char}

theorem toList_compact_parts (opens : opening.toList = [first]) (closes : closing.toList = [last])
    (parts : List String) :
    (opening ++ ",".intercalate parts ++ closing).toList =
      enclose first last [] [] (parts.map String.toList) := by
  cases parts with
  | nil => simp [opens, closes, enclose]
  | cons part parts =>
      rw [List.map_cons, enclose_cons]
      simp [opens, closes, String.toList_intercalate]

theorem toList_bracket (opens : opening.toList = [first]) (closes : closing.toList = [last])
    (depth : Nat) (parts : List String) :
    (bracket opening closing depth parts).toList =
      enclose first last (newline (depth + 1)).toList (newline depth).toList
        (parts.map String.toList) := by
  cases parts with
  | nil => simp [bracket, opens, closes, enclose]
  | cons part parts =>
      rw [List.map_cons, enclose_cons]
      simp [bracket, opens, closes, String.toList_intercalate]

theorem isBlank_newline (depth : Nat) : isBlank (newline depth).toList = true := by
  simp [newline, isBlank, isSpace]

theorem compactItems_eq (items : List Json) : compactItems items = items.map compact := by
  induction items with
  | nil => rfl
  | cons item items ih => rw [compactItems, ih, List.map_cons]

theorem compactMembers_eq (members : List (Option String × Json)) :
    compactMembers members = members.map fun member =>
      quoteContent member.1 ++ ":" ++ compact member.2 := by
  induction members with
  | nil => rfl
  | cons member members ih => rw [compactMembers, ih, List.map_cons]

theorem prettyItems_eq (depth : Nat) (items : List Json) :
    prettyItems depth items = items.map (prettyAt depth) := by
  induction items with
  | nil => rfl
  | cons item items ih => rw [prettyItems, ih, List.map_cons]

theorem prettyMembers_eq (depth : Nat) (members : List (Option String × Json)) :
    prettyMembers depth members = members.map fun member =>
      quoteContent member.1 ++ ": " ++ prettyAt depth member.2 := by
  induction members with
  | nil => rfl
  | cons member members ih => rw [prettyMembers, ih, List.map_cons]

/-- The parts that items are written as spell the items if each does. -/
theorem forall₂_spells {items : List Json} {write : Json → String}
    (each : ∀ item ∈ items, Spells (write item).toList item) :
    List.Forall₂ Spells ((items.map write).map String.toList) items := by
  rw [List.map_map, List.forall₂_map_left_iff, List.forall₂_same]
  exact each

theorem forall₂_spellsMember {members : List (Option String × Json)} {separator : String}
    {write : Json → String} (separates : separator.toList = ':' :: inner)
    (blank : isBlank inner = true) (keyed : ∀ member ∈ members, member.1.isSome = true)
    (each : ∀ member ∈ members, Spells (write member.2).toList member.2) :
    List.Forall₂ SpellsMember
      ((members.map fun member => quoteContent member.1 ++ separator ++ write member.2).map
        String.toList) members := by
  rw [List.map_map, List.forall₂_map_left_iff, List.forall₂_same]
  rintro ⟨key, value⟩ member
  obtain ⟨key, rfl⟩ := Option.isSome_iff_exists.1 (keyed _ member)
  have spells := SpellsMember.intro key blank (each _ member)
  simpa [quoteContent, separates] using spells

theorem Readable.spells_compact (readable : value.Readable) :
    Spells (compact value).toList value := by
  induction readable with
  | null => exact spells_null
  | bool value =>
      cases value with
      | true => exact spells_true
      | false => exact spells_false
  | number numeric number => exact spells_number numeric number
  | text content => exact spells_text content
  | array each ih =>
      rw [compact, compactItems_eq, toList_compact_parts rfl rfl]
      exact spells_array rfl rfl (forall₂_spells ih)
  | object keyed each ih =>
      rw [compact, compactMembers_eq, toList_compact_parts rfl rfl]
      exact spells_object rfl rfl (forall₂_spellsMember rfl rfl keyed ih)

theorem Readable.spells_prettyAt (readable : value.Readable) (depth : Nat) :
    Spells (prettyAt depth value).toList value := by
  induction readable generalizing depth with
  | null =>
      rw [prettyAt]
      exact spells_null
  | bool value =>
      cases value with
      | true =>
          rw [prettyAt]
          exact spells_true
      | false =>
          rw [prettyAt]
          exact spells_false
  | number numeric number => exact spells_number numeric number
  | text content => exact spells_text content
  | array each ih =>
      rw [prettyAt, prettyItems_eq, toList_bracket rfl rfl]
      exact spells_array (isBlank_newline _) (isBlank_newline _)
        (forall₂_spells fun item member => ih item member (depth + 1))
  | object keyed each ih =>
      rw [prettyAt, prettyMembers_eq, toList_bracket rfl rfl]
      exact spells_object (isBlank_newline _) (isBlank_newline _)
        (forall₂_spellsMember rfl rfl keyed fun member isIn => ih member isIn (depth + 1))

theorem ofText?_of_spells {text : String} (spells : Spells text.toList value) :
    ofText? text = some value := by
  have read := spells.reads [] rfl
  have noSpace : skipSpace (text.toList ++ []) = text.toList ++ [] := spells.skipSpace_eq
  rw [List.append_nil] at read noSpace
  rw [← noSpace] at read
  obtain ⟨parsed, isRead, outcome⟩ := Option.map_eq_some_iff.1 read
  obtain ⟨rfl, left⟩ := Prod.mk.inj outcome
  rw [ofText?, isRead]
  simp [left, skipSpace]

/-- A readable value reads back from both of its written forms. -/
theorem ofText?_of_written {text : String} (readable : value.Readable)
    (written : text = compact value ∨ text = pretty value) : ofText? text = some value := by
  rcases written with rfl | rfl
  · exact ofText?_of_spells readable.spells_compact
  · exact ofText?_of_spells (readable.spells_prettyAt 0)

end Bindery.Json
