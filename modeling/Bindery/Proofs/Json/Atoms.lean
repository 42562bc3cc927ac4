import Bindery.Json.Reader
import Bindery.Json.Writer
import Bindery.Written
import Mathlib.Data.List.TakeWhile

/-!
# Texts and numbers that are read back

What is written between quotes is read as the text that it was, whatever characters are in it, and
what an integer is written as is one number literal.
-/

namespace Bindery.Json

variable {α : Type} {text rest chars : List Char}

/-! ## Texts -/

theorem inRadix?_hexDigits {code : Nat} (small : code < 0x20) :
    Text.inRadix? 16 (Text.hexDigits 4 code) = some code := by
  revert code
  decide

theorem textCodes_hexDigits {code : Nat} (small : code < 0x20) (rest : List Char) :
    textCodes ('\\' :: 'u' :: Text.hexDigits 4 code ++ rest) =
      (textCodes rest).map fun read => (code :: read.1, read.2) := by
  have spelled := inRadix?_hexDigits small
  simp only [Text.hexDigits, List.nil_append, List.cons_append] at spelled ⊢
  rw [textCodes, spelled]
  cases textCodes rest <;> rfl

theorem textCodes_escaped {mark : Char} {code : Nat} (noCode : mark ≠ 'u')
    (named : escaped? mark = some code) (rest : List Char) :
    textCodes ('\\' :: mark :: rest) =
      (textCodes rest).map fun read => (code :: read.1, read.2) := by
  rw [textCodes, named]
  · cases textCodes rest <;> rfl
  · simp [noCode]

theorem textCodes_cons {c : Char} (noQuote : c ≠ '"') (noEscape : c ≠ '\\')
    (printable : ¬c.toNat < 0x20) (rest : List Char) :
    textCodes (c :: rest) = (textCodes rest).map fun read => (c.toNat :: read.1, read.2) := by
  rw [textCodes, if_neg printable]
  · exact noQuote
  · simp [noEscape]
  · simp [noEscape]

/-- Whatever stands for a character in quotes is read as that character. -/
theorem textCodes_escape (c : Char) (rest : List Char) :
    textCodes (escape c ++ rest) =
      (textCodes rest).map fun read => (c.toNat :: read.1, read.2) := by
  rw [escape.eq_def]
  split
  · exact textCodes_escaped (by decide) rfl rest
  · exact textCodes_escaped (by decide) rfl rest
  · exact textCodes_escaped (by decide) rfl rest
  · exact textCodes_escaped (by decide) rfl rest
  · exact textCodes_escaped (by decide) rfl rest
  · rename_i noQuote noEscape _ _ _
    split
    · rename_i isCode
      exact textCodes_escaped (by decide) (isCode ▸ rfl) rest
    · split
      · rename_i isCode
        exact textCodes_escaped (by decide) (isCode ▸ rfl) rest
      · split
        · rename_i small
          exact textCodes_hexDigits small rest
        · rename_i printable
          exact textCodes_cons noQuote noEscape printable rest

theorem textCodes_flatMap_escape (chars rest : List Char) :
    textCodes (chars.flatMap escape ++ '"' :: rest) = some (chars.map Char.toNat, rest) := by
  induction chars with
  | nil => rfl
  | cons c others ih =>
      rw [List.flatMap_cons, List.append_assoc, textCodes_escape, ih]
      rfl

/-- No character is a surrogate. -/
theorem joinSurrogates_map_toNat (chars : List Char) :
    joinSurrogates (chars.map Char.toNat) = some chars := by
  induction chars with
  | nil => rfl
  | cons c others ih =>
      have valid : c.toNat < 0xD800 ∨ 0xDFFF < c.toNat := c.valid.imp_right And.left
      have notHigh : isHighSurrogate c.toNat = false := by
        simp [isHighSurrogate]
        omega
      have notLow : isLowSurrogate c.toNat = false := by
        simp [isLowSurrogate]
        omega
      rw [List.map_cons, joinSurrogates.eq_def]
      simp [notHigh, notLow, ih]

/-- What was read and what is left, without the bound on it. -/
def Parsed.outcome (parsed : Parsed α text) : α × List Char :=
  (parsed.value, parsed.rest)

theorem readText_eq (text : List Char) :
    (readText text).map Parsed.outcome =
      (textCodes text).map fun read => ((joinSurrogates read.1).map String.ofList, read.2) := by
  rw [readText]
  split <;> simp_all [Parsed.outcome]

theorem toList_quote (text : String) :
    (quote text).toList = '"' :: (text.toList.flatMap escape ++ ['"']) := by
  simp [quote]

/-- What stands after the first quote. -/
theorem readText_quoted (text : String) (rest : List Char) :
    (readText (text.toList.flatMap escape ++ '"' :: rest)).map Parsed.outcome =
      some (some text, rest) := by
  rw [readText_eq, textCodes_flatMap_escape]
  simp [joinSurrogates_map_toNat]

/-! ## Numbers -/

/-- Whether what comes next is no part of a number. -/
def endsNumber (rest : List Char) : Bool :=
  rest.head?.all fun c => !isNumeric c

theorem takeWhile_append_of_endsNumber (numeric : ∀ c ∈ chars, isNumeric c = true)
    (ends : endsNumber rest = true) : (chars ++ rest).takeWhile isNumeric = chars := by
  rw [List.takeWhile_append_of_pos numeric]
  cases rest with
  | nil => simp
  | cons c others =>
      have stops : isNumeric c = false := by simpa [endsNumber] using ends
      rw [List.takeWhile_cons_of_neg (by simp [stops]), List.append_nil]

theorem dropWhile_append_of_endsNumber (numeric : ∀ c ∈ chars, isNumeric c = true)
    (ends : endsNumber rest = true) : (chars ++ rest).dropWhile isNumeric = rest := by
  rw [List.dropWhile_append_of_pos numeric]
  cases rest with
  | nil => rfl
  | cons c others =>
      have stops : isNumeric c = false := by simpa [endsNumber] using ends
      exact List.dropWhile_cons_of_neg (by simp [stops])

theorem readNumber_append (numeric : ∀ c ∈ chars, isNumeric c = true)
    (number : spellsNumber chars = true) (ends : endsNumber rest = true) :
    (readNumber (chars ++ rest)).map Parsed.outcome = some (String.ofList chars, rest) := by
  have literal := takeWhile_append_of_endsNumber numeric ends
  have left := dropWhile_append_of_endsNumber numeric ends
  have isNumber : spellsNumber ((chars ++ rest).takeWhile isNumeric) = true := by rwa [literal]
  rw [readNumber, dif_pos isNumber]
  simp [Parsed.outcome, literal, left]

/-- No number but zero is written with a zero in front. -/
theorem exists_toDigits_eq {value : Nat} (positive : 0 < value) :
    ∃ c digits, Nat.toDigits 10 value = c :: digits ∧ c ≠ '0' := by
  induction value using Nat.strongRecOn with
  | ind value ih =>
      rw [Nat.toDigits_eq_if (by decide)]
      split
      · rename_i small
        have noZero : ∀ digit < 10, 0 < digit → digit.digitChar ≠ '0' := by decide
        exact ⟨_, [], rfl, noZero value small positive⟩
      · obtain ⟨c, digits, spelled, noZero⟩ := ih (value / 10) (by omega) (by omega)
        exact ⟨c, digits ++ [(value % 10).digitChar], by rw [spelled]; rfl, noZero⟩

theorem skipWhole?_toDigits (value : Nat) : skipWhole? (Nat.toDigits 10 value) = some [] := by
  rcases Nat.eq_zero_or_pos value with rfl | positive
  · decide
  · obtain ⟨c, digits, spelled, noZero⟩ := exists_toDigits_eq positive
    have allDigits := List.all_eq_true.1 (all_isDigit_toDigits value)
    rw [spelled, List.forall_mem_cons] at allDigits
    rw [spelled, skipWhole?.eq_def]
    split
    · simp_all
    · rw [skipDigits?, if_pos allDigits.1, List.dropWhile_eq_nil_iff.2 allDigits.2]

theorem toList_toString (value : Int) :
    (toString value).toList =
      if 0 ≤ value then Nat.toDigits 10 value.toNat
      else '-' :: Nat.toDigits 10 (-value).toNat := by
  rw [Int.toString_eq_repr, Int.repr_eq_if]
  split <;> simp [Nat.repr]

theorem isNumeric_toDigits (value : Nat) : ∀ c ∈ Nat.toDigits 10 value, isNumeric c = true := by
  intro c member
  have isDigit := List.all_eq_true.1 (all_isDigit_toDigits value) c member
  simp [isNumeric, isDigit]

theorem isNumeric_toString (value : Int) : ∀ c ∈ (toString value).toList, isNumeric c = true := by
  rw [toList_toString]
  split
  · exact isNumeric_toDigits _
  · exact List.forall_mem_cons.2 ⟨by decide, isNumeric_toDigits _⟩

theorem spellsNumber_toString (value : Int) : spellsNumber (toString value).toList = true := by
  rw [toList_toString]
  split
  · unfold spellsNumber
    split
    · rename_i digits signed
      have allDigits := List.all_eq_true.1 (all_isDigit_toDigits value.toNat)
      rw [signed] at allDigits
      exact absurd (allDigits '-' List.mem_cons_self) (by decide)
    · simp only [skipWhole?_toDigits]
      rfl
  · simp only [spellsNumber, skipWhole?_toDigits]
    rfl

end Bindery.Json
