import Bindery.Json.Basic
import Bindery.Text.Digits

/-!
# Reading JSON text

One value with white space around it and nothing after it.  The grammar is the strict one: no
leading zeros, no trailing commas, no raw control characters.  There is no limit on nesting or on
the size of numbers, since a value may be passed over unused.
-/

namespace Bindery.Json

/-- What was read from the start of `text`, and what is left of it. -/
structure Parsed (α : Type) (text : List Char) where
  value : α
  rest : List Char
  shorter : rest.length < text.length

def isSpace (c : Char) : Bool :=
  c == ' ' || c == '\n' || c == '\r' || c == '\t'

def skipSpace (text : List Char) : List Char :=
  text.dropWhile isSpace

theorem length_skipSpace_le (text : List Char) : (skipSpace text).length ≤ text.length :=
  (List.dropWhile_sublist isSpace).length_le

theorem length_lt_of_skipSpace {text rest : List Char} {c : Char}
    (found : skipSpace text = c :: rest) : rest.length < text.length := by
  have := length_skipSpace_le text
  simp only [found, List.length_cons] at this
  omega

/-! ## Texts -/

/-- The character after a backslash, other than `u`. -/
def escaped? (c : Char) : Option Nat :=
  match c with
  | '"' => some 0x22
  | '\\' => some 0x5C
  | '/' => some 0x2F
  | 'b' => some 0x08
  | 'f' => some 0x0C
  | 'n' => some 0x0A
  | 'r' => some 0x0D
  | 't' => some 0x09
  | _ => none

/-- The codes of a text up to its closing quote.  Escapes may name surrogates. -/
def textCodes : List Char → Option (List Nat × List Char)
  | [] => none
  | '"' :: rest => some ([], rest)
  | '\\' :: 'u' :: a :: b :: c :: d :: rest => do
    let code ← Text.inRadix? 16 [a, b, c, d]
    let (codes, rest) ← textCodes rest
    return (code :: codes, rest)
  | '\\' :: c :: rest => do
    let code ← escaped? c
    let (codes, rest) ← textCodes rest
    return (code :: codes, rest)
  | c :: rest =>
    if c.toNat < 0x20 then none
    else (textCodes rest).map fun (codes, rest) => (c.toNat :: codes, rest)

def isHighSurrogate (code : Nat) : Bool :=
  0xD800 ≤ code && code ≤ 0xDBFF

def isLowSurrogate (code : Nat) : Bool :=
  0xDC00 ≤ code && code ≤ 0xDFFF

/-- Joins surrogate pairs.  A surrogate without its partner spells no text. -/
def joinSurrogates : List Nat → Option (List Char)
  | [] => some []
  | code :: rest =>
    if isHighSurrogate code then
      match rest with
      | [] => none
      | low :: rest =>
        if isLowSurrogate low then
          (joinSurrogates rest).map
            (Char.ofNat (0x10000 + (code - 0xD800) * 0x400 + (low - 0xDC00)) :: ·)
        else none
    else if isLowSurrogate code then none
    else (joinSurrogates rest).map (Char.ofNat code :: ·)

theorem length_lt_of_textCodes {text rest : List Char} {codes : List Nat}
    (read : textCodes text = some (codes, rest)) : rest.length < text.length := by
  fun_induction textCodes text generalizing codes with
  | case1 => simp at read
  | case2 => simp_all
  | case3 a b c d others ih =>
    obtain ⟨_, _, _, inner, _⟩ := by simpa [Option.bind_eq_some_iff] using read
    have := ih inner
    simp only [List.length_cons]
    omega
  | case4 c others _ ih =>
    obtain ⟨_, _, _, inner, _⟩ := by simpa [Option.bind_eq_some_iff] using read
    have := ih inner
    simp only [List.length_cons]
    omega
  | case5 => simp at read
  | case6 c others _ _ _ _ ih =>
    obtain ⟨_, inner, _⟩ := by simpa using read
    have := ih inner
    simp only [List.length_cons]
    omega

/-- A text after its opening quote. -/
def readText (text : List Char) : Option (Parsed (Option String) text) :=
  match read : textCodes text with
  | some (codes, rest) =>
    some ⟨(joinSurrogates codes).map String.ofList, rest, length_lt_of_textCodes read⟩
  | none => none

/-! ## Numbers -/

/-- What follows one or more digits. -/
def skipDigits? (text : List Char) : Option (List Char) :=
  match text with
  | c :: rest => if c.isDigit then some (rest.dropWhile Char.isDigit) else none
  | [] => none

/-- What follows the whole part of a number: no digit may follow a leading zero. -/
def skipWhole? (text : List Char) : Option (List Char) :=
  match text with
  | '0' :: rest =>
    match rest with
    | c :: _ => if c.isDigit then none else some rest
    | [] => some rest
  | _ => skipDigits? text

def skipFraction? (text : List Char) : Option (List Char) :=
  match text with
  | '.' :: rest => skipDigits? rest
  | _ => some text

def skipExponent? (text : List Char) : Option (List Char) :=
  match text with
  | 'e' :: rest | 'E' :: rest =>
    match rest with
    | '+' :: rest | '-' :: rest => skipDigits? rest
    | _ => skipDigits? rest
  | _ => some text

/-- Whether the literal as a whole spells a number. -/
def spellsNumber (literal : List Char) : Bool :=
  let unsigned := match literal with
    | '-' :: rest => rest
    | _ => literal
  (skipWhole? unsigned >>= skipFraction? >>= skipExponent?) == some []

/-- The characters of number literals.  None of them can follow a literal. -/
def isNumeric (c : Char) : Bool :=
  c.isDigit || c == '-' || c == '+' || c == '.' || c == 'e' || c == 'E'

theorem length_lt_of_spellsNumber {text : List Char}
    (number : spellsNumber (text.takeWhile isNumeric) = true) :
    (text.dropWhile isNumeric).length < text.length := by
  have whole := congrArg List.length (List.takeWhile_append_dropWhile (p := isNumeric) (l := text))
  rw [List.length_append] at whole
  have nonempty : (text.takeWhile isNumeric).length ≠ 0 := by
    intro empty
    rw [List.eq_nil_of_length_eq_zero empty] at number
    revert number
    decide
  omega

def readNumber (text : List Char) : Option (Parsed String text) :=
  let literal := text.takeWhile isNumeric
  if number : spellsNumber literal then
    some ⟨String.ofList literal, text.dropWhile isNumeric, length_lt_of_spellsNumber number⟩
  else none

/-! ## Values -/

mutual

/-- The value at the very start of the text. -/
def readValue (text : List Char) : Option (Parsed Json text) :=
  match text with
  | '"' :: rest =>
    match readText rest with
    | some content =>
      some ⟨.text content.value, content.rest, Nat.lt_succ_of_lt content.shorter⟩
    | none => none
  | '[' :: rest =>
    match h : skipSpace rest with
    | ']' :: after =>
      some ⟨.array [], after, Nat.lt_succ_of_lt (length_lt_of_skipSpace h)⟩
    | _ =>
      match readItems rest with
      | some items => some ⟨.array items.value, items.rest, Nat.lt_succ_of_lt items.shorter⟩
      | none => none
  | '{' :: rest =>
    match h : skipSpace rest with
    | '\x7d' :: after =>
      some ⟨.object [], after, Nat.lt_succ_of_lt (length_lt_of_skipSpace h)⟩
    | _ =>
      match readMembers rest with
      | some members =>
        some ⟨.object members.value, members.rest, Nat.lt_succ_of_lt members.shorter⟩
      | none => none
  | 't' :: 'r' :: 'u' :: 'e' :: rest =>
    some ⟨.bool true, rest, by simp only [List.length_cons]; omega⟩
  | 'f' :: 'a' :: 'l' :: 's' :: 'e' :: rest =>
    some ⟨.bool false, rest, by simp only [List.length_cons]; omega⟩
  | 'n' :: 'u' :: 'l' :: 'l' :: rest =>
    some ⟨.null, rest, by simp only [List.length_cons]; omega⟩
  | text =>
    match readNumber text with
    | some literal => some ⟨.number literal.value, literal.rest, literal.shorter⟩
    | none => none
termination_by (text.length, 0)

/-- The items of an array that has at least one, up to its closing bracket. -/
def readItems (text : List Char) : Option (Parsed (List Json) text) :=
  match readValue (skipSpace text) with
  | none => none
  | some item =>
    have within : item.rest.length < text.length :=
      Nat.lt_of_lt_of_le item.shorter (length_skipSpace_le text)
    match h : skipSpace item.rest with
    | ']' :: rest => some ⟨[item.value], rest, Nat.lt_trans (length_lt_of_skipSpace h) within⟩
    | ',' :: rest =>
      have shorter : rest.length < text.length := Nat.lt_trans (length_lt_of_skipSpace h) within
      match readItems rest with
      | some others =>
        some ⟨item.value :: others.value, others.rest, Nat.lt_trans others.shorter shorter⟩
      | none => none
    | _ => none
termination_by (text.length, 1)
decreasing_by
  · have := length_skipSpace_le text
    rcases Nat.lt_or_eq_of_le this with less | same
    · exact Prod.Lex.left _ _ less
    · rw [same]; exact Prod.Lex.right _ (by omega)
  · exact Prod.Lex.left _ _ shorter

/-- The members of an object that has at least one, up to its closing brace. -/
def readMembers (text : List Char) : Option (Parsed (List (Option String × Json)) text) :=
  match hq : skipSpace text with
  | '"' :: quoted =>
    have afterQuote : quoted.length < text.length := length_lt_of_skipSpace hq
    match readText quoted with
    | none => none
    | some key =>
      match hc : skipSpace key.rest with
      | ':' :: rest =>
        have atValue : rest.length < text.length :=
          Nat.lt_trans (Nat.lt_trans (length_lt_of_skipSpace hc) key.shorter) afterQuote
        match readValue (skipSpace rest) with
        | none => none
        | some value =>
          have within : value.rest.length < text.length :=
            Nat.lt_trans (Nat.lt_of_lt_of_le value.shorter (length_skipSpace_le rest)) atValue
          match h : skipSpace value.rest with
          | '\x7d' :: rest =>
            some ⟨[(key.value, value.value)], rest, Nat.lt_trans (length_lt_of_skipSpace h) within⟩
          | ',' :: rest =>
            have shorter : rest.length < text.length :=
              Nat.lt_trans (length_lt_of_skipSpace h) within
            match readMembers rest with
            | some others =>
              some ⟨(key.value, value.value) :: others.value, others.rest,
                Nat.lt_trans others.shorter shorter⟩
            | none => none
          | _ => none
      | _ => none
  | _ => none
termination_by (text.length, 1)
decreasing_by
  · exact Prod.Lex.left _ _ (Nat.lt_of_le_of_lt (length_skipSpace_le rest) atValue)
  · exact Prod.Lex.left _ _ shorter

end

/-- The value that the text spells, if it spells one. -/
def ofText? (text : String) : Option Json :=
  match readValue (skipSpace text.toList) with
  | some value => if (skipSpace value.rest).isEmpty then some value.value else none
  | none => none

end Bindery.Json
