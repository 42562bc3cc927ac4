import Bindery.Identifier
import Mathlib.Tactic.MkIffOfInductiveProp

/-!
# From one spelling to the other and back

Which names in ASCII survive a conversion to the other spelling and back.  A name joined by
underscores does if every underscore starts a word with a letter and no capital stands inside a
word; a name joined by capitals does if it has no underscore and does not start in lowercase.
-/

namespace Bindery

namespace Text

/-- Whether all characters of the text are ASCII. -/
def isAsciiText (text : String) : Bool :=
  text.toList.all isAscii

theorem isAsciiText_iff {text : String} :
    isAsciiText text = true ↔ ∀ c ∈ text.toList, isAscii c = true :=
  List.all_eq_true

/-- What the case conversions make of an ASCII character. -/
@[mk_iff]
structure AsciiCase (c : Char) : Prop where
  isAscii_toUpper : isAscii c.toUpper = true
  isAscii_toLower : isAscii c.toLower = true
  toLower_toUpper : c.toUpper.toLower = c.toLower
  toUpper_toLower : c.toLower.toUpper = c.toUpper
  isUpper_toUpper : c.toUpper.isUpper = c.isAlpha
  toUpper_of_isUpper : c.isUpper = true → c.toUpper = c
  toLower_of_not_isUpper : ¬c.isUpper = true → c.toLower = c
  toUpper_eq_self_iff : c.toUpper = c ↔ c.isLower = false
  toUpper_ne_underscore : c ≠ '_' → c.toUpper ≠ '_'
  toLower_ne_underscore : c ≠ '_' → c.toLower ≠ '_'

instance (c : Char) : Decidable (AsciiCase c) :=
  decidable_of_iff' _ (asciiCase_iff c)

theorem asciiCase_ofNat : ∀ code < 0x80, AsciiCase (Char.ofNat code) := by
  decide +kernel

/-- Any ASCII character has one of the first 128 codes. -/
theorem asciiCase {c : Char} (ascii : isAscii c = true) : AsciiCase c := by
  have within : c.toNat < 0x80 := by simpa [isAscii] using ascii
  simpa using asciiCase_ofNat c.toNat within

end Text

namespace Identifier

variable {c d : Char} {text rest : List Char}

/-! ## Names joined by underscores -/

/-- Whether a name is made of words joined by underscores: it does not start with one, each is
followed by a letter, and a capital stands at the start or after an underscore only. -/
structure IsSnake (text : List Char) : Prop where
  start : text[0]? ≠ some '_'
  joined : ∀ i : Nat, text[i]? = some '_' →
    ∃ letter : Char, text[i + 1]? = some letter ∧ letter.isAlpha = true
  capital : ∀ (i : Nat) (c : Char), text[i]? = some c → c.isUpper = true →
    i = 0 ∨ text[i - 1]? = some '_'

/-- Whether a name made of words joined by underscores may go on with the text after the given
character. -/
structure Continues (last : Char) (rest : List Char) : Prop where
  joined : ∀ i : Nat, (last :: rest)[i]? = some '_' →
    ∃ letter : Char, rest[i]? = some letter ∧ letter.isAlpha = true
  capital : ∀ (i : Nat) (c : Char), rest[i]? = some c → c.isUpper = true →
    (last :: rest)[i]? = some '_'

theorem isSnake_nil : IsSnake [] :=
  ⟨by simp, by simp, by simp⟩

theorem isSnake_cons_iff : IsSnake (c :: rest) ↔ c ≠ '_' ∧ Continues c rest := by
  constructor
  · rintro ⟨start, joined, capital⟩
    refine ⟨by simpa using start, joined, fun i d found isUpper => ?_⟩
    simpa using capital (i + 1) d found isUpper
  · rintro ⟨start, joined, capital⟩
    refine ⟨by simpa using start, joined, fun i d found isUpper => ?_⟩
    cases i with
    | zero => exact .inl rfl
    | succ i => exact .inr (capital i d found isUpper)

theorem continues_nil_iff : Continues c [] ↔ c ≠ '_' := by
  constructor
  · rintro ⟨joined, -⟩ rfl
    simpa using joined 0 rfl
  · intro different
    refine ⟨fun i found => ?_, by simp⟩
    cases i <;> simp_all

theorem continues_cons_iff :
    Continues c (d :: rest) ↔
      ((c = '_' → d.isAlpha = true) ∧ (d.isUpper = true → c = '_')) ∧ Continues d rest := by
  constructor
  · rintro ⟨joined, capital⟩
    refine ⟨⟨fun isBreak => ?_, fun isUpper => ?_⟩, fun i => joined (i + 1),
      fun i => capital (i + 1)⟩
    · simpa using joined 0 (congrArg some isBreak)
    · simpa using capital 0 d rfl isUpper
  · rintro ⟨⟨letter, start⟩, joined, capital⟩
    refine ⟨fun i => ?_, fun i => ?_⟩
    · cases i with
      | zero => simpa using letter
      | succ i => exact joined i
    · cases i with
      | zero => simpa using start
      | succ i => exact capital i

instance decidableContinues : (last : Char) → (rest : List Char) → Decidable (Continues last rest)
  | _, [] => decidable_of_iff' _ continues_nil_iff
  | _, next :: rest =>
    have := decidableContinues next rest
    decidable_of_iff' _ continues_cons_iff

instance : (text : List Char) → Decidable (IsSnake text)
  | [] => .isTrue isSnake_nil
  | _ :: _ => decidable_of_iff' _ isSnake_cons_iff

/-! ## Conversion letter by letter -/

/-- The text without its underscores.  A letter after an underscore is capitalized, and so is the
first one if a word starts there. -/
def joinWords : Bool → List Char → List Char
  | _, [] => []
  | atStart, c :: rest =>
    if c = '_' then joinWords true rest
    else (if atStart then Text.upper c else [c]) ++ joinWords false rest

/-- Capitalizing segment by segment is capitalizing after each underscore. -/
theorem exists_segments_eq (text : List Char) :
    ∃ first others, segments text = first :: others ∧
      capitalize first ++ others.flatMap capitalize = joinWords true text ∧
      first ++ others.flatMap capitalize = joinWords false text := by
  induction text with
  | nil => exact ⟨[], [], rfl, rfl, rfl⟩
  | cons c rest ih =>
      obtain ⟨first, others, split, started, inside⟩ := ih
      by_cases isBreak : c = '_'
      · refine ⟨[], first :: others, by rw [segments, if_pos isBreak, split], ?_, ?_⟩
        · rw [joinWords, if_pos isBreak, ← started]
          rfl
        · rw [joinWords, if_pos isBreak, ← started]
          rfl
      · refine ⟨c :: first, others, by rw [segments, if_neg isBreak, split], ?_, ?_⟩
        · rw [joinWords, if_neg isBreak, ← inside]
          exact List.append_assoc _ _ _
        · rw [joinWords, if_neg isBreak, ← inside]
          rfl

theorem toList_snakeToPascal (name : String) :
    (snakeToPascal name).toList = joinWords true name.toList := by
  obtain ⟨first, others, split, started, -⟩ := exists_segments_eq name.toList
  rw [snakeToPascal, String.toList_ofList, split, ← started]
  rfl

theorem mem_joinWords {atStart : Bool} (ascii : ∀ c ∈ text, Text.isAscii c = true)
    (member : c ∈ joinWords atStart text) : Text.isAscii c = true ∧ c ≠ '_' := by
  induction text generalizing atStart with
  | nil => cases member
  | cons d rest ih =>
      obtain ⟨asciiHead, asciiRest⟩ := List.forall_mem_cons.1 ascii
      rw [joinWords] at member
      by_cases isBreak : d = '_'
      · rw [if_pos isBreak] at member
        exact ih asciiRest member
      · rw [if_neg isBreak, Text.upper_of_isAscii asciiHead] at member
        rcases List.mem_append.1 member with isHead | later
        · cases atStart with
          | true =>
              obtain rfl := List.mem_singleton.1 isHead
              exact ⟨(Text.asciiCase asciiHead).isAscii_toUpper,
                (Text.asciiCase asciiHead).toUpper_ne_underscore isBreak⟩
          | false =>
              obtain rfl := List.mem_singleton.1 isHead
              exact ⟨asciiHead, isBreak⟩
        · exact ih asciiRest later

theorem separateCapitals_cons (ascii : Text.isAscii c = true) :
    separateCapitals (c :: rest) =
      (if c.isUpper = true then ['_'] else []) ++ c.toLower :: separateCapitals rest := by
  rw [separateCapitals, List.flatMap_cons, Text.isUpper_of_isAscii ascii,
    Text.lower_of_isAscii ascii]
  split <;> rfl

/-- Two texts that may have an underscore in front of the same other character. -/
theorem append_cons_eq_iff {p q : Prop} [Decidable p] [Decidable q] {left right : List Char}
    (different : c ≠ '_') :
    (if p then ['_'] else []) ++ c :: left = (if q then ['_'] else []) ++ c :: right ↔
      (p ↔ q) ∧ left = right := by
  by_cases hp : p <;> by_cases hq : q <;> simp [hp, hq, different, different.symm]

/-- Separated words never have two underscores in a row. -/
theorem separateCapitals_ne (ascii : ∀ c ∈ text, Text.isAscii c = true)
    (unbroken : '_' ∉ text) (rest : List Char) : separateCapitals text ≠ '_' :: '_' :: rest := by
  cases text with
  | nil => simp [separateCapitals]
  | cons c others =>
      obtain ⟨asciiHead, -⟩ := List.forall_mem_cons.1 ascii
      have isWord : c.toLower ≠ '_' :=
        (Text.asciiCase asciiHead).toLower_ne_underscore (List.ne_of_not_mem_cons unbroken).symm
      rw [separateCapitals_cons asciiHead]
      split <;> simp [isWord]

/-- Joining and separating what follows a character gives it back exactly if the name goes on well
there.  After an underscore, the underscore itself has to come back as well. -/
theorem separateCapitals_joinWords_iff (ascii : ∀ d ∈ rest, Text.isAscii d = true) :
    separateCapitals (joinWords (c == '_') rest) =
        (if c = '_' then ['_'] else []) ++ rest.map Char.toLower ↔ Continues c rest := by
  induction rest generalizing c with
  | nil =>
      rw [continues_nil_iff]
      by_cases isBreak : c = '_' <;> simp [joinWords, separateCapitals, isBreak]
  | cons d rest ih =>
      obtain ⟨asciiHead, asciiRest⟩ := List.forall_mem_cons.1 ascii
      have asciiCase := Text.asciiCase asciiHead
      rw [continues_cons_iff, joinWords, List.map_cons]
      by_cases isBreak : d = '_'
      · subst isBreak
        rw [if_pos rfl]
        by_cases twice : c = '_'
        -- The second of two underscores is lost, and nothing that is separated brings it back.
        · have unbroken : '_' ∉ joinWords true rest :=
            fun member => (mem_joinWords asciiRest member).2 rfl
          have never := separateCapitals_ne
            (fun e member => (mem_joinWords asciiRest member).1) unbroken (rest.map Char.toLower)
          simpa [twice] using never
        · have after := ih (c := '_') asciiRest
          simpa [twice] using after
      · have isWord : d.toLower ≠ '_' := asciiCase.toLower_ne_underscore isBreak
        have inside := ih (c := d) asciiRest
        rw [if_neg isBreak, List.nil_append, beq_eq_false_iff_ne.2 isBreak] at inside
        rw [if_neg isBreak, Text.upper_of_isAscii asciiHead, ← inside]
        by_cases atStart : c = '_'
        · simp only [atStart, beq_self_eq_true, if_true, List.singleton_append]
          rw [separateCapitals_cons asciiCase.isAscii_toUpper, asciiCase.toLower_toUpper,
            asciiCase.isUpper_toUpper]
          simpa using append_cons_eq_iff (p := d.isAlpha = true) (q := True) isWord
        · simp only [beq_eq_false_iff_ne.2 atStart]
          rw [if_neg Bool.false_ne_true, List.singleton_append, separateCapitals_cons asciiHead]
          simpa [atStart] using append_cons_eq_iff (p := d.isUpper = true) (q := False) isWord

theorem pascalToSnake_snakeToPascal_iff {name : String} (ascii : Text.isAsciiText name = true) :
    pascalToSnake (snakeToPascal name) = name.toLower ↔ IsSnake name.toList := by
  rw [Text.isAsciiText_iff] at ascii
  have lowered : name.toLower.toList = name.toList.map Char.toLower := String.toList_map
  rw [← String.toList_inj, lowered, pascalToSnake, String.toList_ofList, toList_snakeToPascal]
  cases spelled : name.toList with
  | nil => simp [joinWords, isSnake_nil]
  | cons c rest =>
      rw [spelled] at ascii
      obtain ⟨asciiHead, asciiRest⟩ := List.forall_mem_cons.1 ascii
      have asciiCase := Text.asciiCase asciiHead
      rw [isSnake_cons_iff, joinWords]
      by_cases isBreak : c = '_'
      · -- nothing that is joined starts with an underscore
        rw [if_pos isBreak]
        cases joined : joinWords true rest with
        | nil => simp [isBreak]
        | cons d others =>
            have member : d ∈ joinWords true rest := joined ▸ List.mem_cons_self
            have fromRest := mem_joinWords asciiRest member
            have isWord := (Text.asciiCase fromRest.1).toLower_ne_underscore fromRest.2
            simp [Text.lower_of_isAscii fromRest.1, isBreak, isWord]
      · have inside := separateCapitals_joinWords_iff (c := c) asciiRest
        rw [if_neg isBreak, List.nil_append, beq_eq_false_iff_ne.2 isBreak] at inside
        rw [if_neg isBreak, Text.upper_of_isAscii asciiHead, ← inside]
        simp [Text.lower_of_isAscii asciiCase.isAscii_toUpper,
          asciiCase.toLower_toUpper, isBreak]

/-! ## Names joined by capitals -/

/-- Whether a name is made of words joined by capitals: it has no underscore and does not start with
a lowercase letter. -/
@[mk_iff]
structure IsPascal (text : List Char) : Prop where
  unbroken : '_' ∉ text
  start : ∀ c ∈ text.head?, c.isLower = false

instance : Decidable (IsPascal text) :=
  decidable_of_iff ('_' ∉ text ∧ text.head?.all (fun c => !c.isLower) = true)
    (by cases text <;> simp [isPascal_iff])

theorem isAscii_of_mem_separateCapitals (ascii : ∀ d ∈ text, Text.isAscii d = true)
    (member : c ∈ separateCapitals text) : Text.isAscii c = true := by
  obtain ⟨d, isIn, member⟩ := List.mem_flatMap.1 member
  have asciiLower := (Text.asciiCase (ascii d isIn)).isAscii_toLower
  rw [Text.lower_of_isAscii (ascii d isIn)] at member
  split at member
  · rcases List.mem_cons.1 member with rfl | member
    · rfl
    · exact List.mem_singleton.1 member ▸ asciiLower
  · exact List.mem_singleton.1 member ▸ asciiLower

/-- Words that are separated and joined again are the same words. -/
theorem joinWords_separateCapitals (ascii : ∀ d ∈ text, Text.isAscii d = true)
    (unbroken : '_' ∉ text) : joinWords false (separateCapitals text) = text := by
  induction text with
  | nil => rfl
  | cons c rest ih =>
      obtain ⟨asciiHead, asciiRest⟩ := List.forall_mem_cons.1 ascii
      have asciiCase := Text.asciiCase asciiHead
      have others := ih asciiRest (List.not_mem_of_not_mem_cons unbroken)
      have isWord : c.toLower ≠ '_' :=
        asciiCase.toLower_ne_underscore (List.ne_of_not_mem_cons unbroken).symm
      rw [separateCapitals_cons asciiHead]
      by_cases isUpper : c.isUpper = true
      · rw [if_pos isUpper, List.singleton_append, joinWords, if_pos rfl, joinWords,
          if_neg isWord, Text.upper_of_isAscii asciiCase.isAscii_toLower,
          asciiCase.toUpper_toLower, asciiCase.toUpper_of_isUpper isUpper, others]
        rfl
      · rw [if_neg isUpper, List.nil_append, joinWords, if_neg isWord,
          asciiCase.toLower_of_not_isUpper isUpper, others]
        rfl

theorem snakeToPascal_pascalToSnake_iff {name : String} (ascii : Text.isAsciiText name = true) :
    snakeToPascal (pascalToSnake name) = name ↔ IsPascal name.toList := by
  rw [Text.isAsciiText_iff] at ascii
  rw [← String.toList_inj, toList_snakeToPascal, pascalToSnake, String.toList_ofList, isPascal_iff]
  cases spelled : name.toList with
  | nil => simp [joinWords]
  | cons c rest =>
      rw [spelled] at ascii
      obtain ⟨asciiHead, asciiRest⟩ := List.forall_mem_cons.1 ascii
      have asciiCase := Text.asciiCase asciiHead
      have asciiLower := asciiCase.isAscii_toLower
      simp only [Text.lower_of_isAscii asciiHead, List.singleton_append]
      by_cases unbroken : '_' ∈ c :: rest
      · -- an underscore is never joined back
        have asciiWords : ∀ d ∈ c.toLower :: separateCapitals rest, Text.isAscii d = true :=
          List.forall_mem_cons.2
            ⟨asciiLower, fun d member => isAscii_of_mem_separateCapitals asciiRest member⟩
        refine iff_of_false (fun same => ?_) (fun pascal => pascal.1 unbroken)
        exact (mem_joinWords asciiWords (same.symm ▸ unbroken)).2 rfl
      · have isWord : c.toLower ≠ '_' :=
          asciiCase.toLower_ne_underscore (List.ne_of_not_mem_cons unbroken).symm
        rw [joinWords, if_neg isWord,
          joinWords_separateCapitals asciiRest (List.not_mem_of_not_mem_cons unbroken),
          Text.upper_of_isAscii asciiLower, asciiCase.toUpper_toLower]
        simpa [unbroken] using asciiCase.toUpper_eq_self_iff

/-- For names in ASCII: joining the words of a name by capitals and separating them again gives the
name in lowercase exactly if underscores joined its words, and separating and joining gives the name
itself exactly if capitals did. -/
theorem restores_iff (name : String) (ascii : Text.isAsciiText name = true) :
    (pascalToSnake (snakeToPascal name) = name.toLower ↔ IsSnake name.toList) ∧
      (snakeToPascal (pascalToSnake name) = name ↔ IsPascal name.toList) :=
  ⟨pascalToSnake_snakeToPascal_iff ascii, snakeToPascal_pascalToSnake_iff ascii⟩

/-- A digit after an underscore and a capital inside a word are lost on the way, an underscore is
kept where a letter follows it. -/
theorem restores_toxVersion :
    Text.isAsciiText "Tox_File_v2" = true ∧ Text.isAsciiText "tox_2" = true ∧
      Text.isAsciiText "ToxErrNew" = true ∧
      pascalToSnake (snakeToPascal "Tox_File_v2") = "tox_file_v2" ∧
      pascalToSnake (snakeToPascal "tox_2") ≠ "tox_2" ∧
      snakeToPascal (pascalToSnake "ToxErrNew") = "ToxErrNew" :=
  ⟨by decide, by decide, by decide,
    ((restores_iff "Tox_File_v2" (by decide)).1.2 (by decide)).trans (by decide +kernel),
    fun same => absurd ((restores_iff "tox_2" (by decide)).1.1 (same.trans (by decide +kernel)))
      (by decide),
    (restores_iff "ToxErrNew" (by decide)).2.2 (by decide)⟩

end Identifier

end Bindery
