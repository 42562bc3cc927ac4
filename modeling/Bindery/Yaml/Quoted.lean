import Bindery.Text.Digits
import Bindery.Yaml.Placed

/-!
# Quoted scalars

A scalar between single or double quotes is a run of words with gaps between them.  Between single
quotes only the quote itself has two spellings; between double quotes there are escapes.
-/

namespace Bindery.Yaml

def escapedCode? (c : Char) : Option Nat :=
  match c with
  | '0' => some 0x00
  | 'a' => some 0x07
  | 'b' => some 0x08
  | 't' | '\t' => some 0x09
  | 'n' => some 0x0A
  | 'v' => some 0x0B
  | 'f' => some 0x0C
  | 'r' => some 0x0D
  | 'e' => some 0x1B
  | ' ' => some 0x20
  | '"' => some 0x22
  | '/' => some 0x2F
  | '\\' => some 0x5C
  | 'N' => some 0x85
  | '_' => some 0xA0
  | 'L' => some 0x2028
  | 'P' => some 0x2029
  | _ => none

/-- How many hexadecimal digits follow the character of an escape. -/
def escapeWidth? (c : Char) : Option Nat :=
  match c with
  | 'x' => some 2
  | 'u' => some 4
  | 'U' => some 8
  | _ => none

/-- The character of a code that is one. -/
def charOfCode? (code : Nat) : Option Char :=
  if code.isValidChar then some (Char.ofNat code) else none

/-- What ended a word between quotes. -/
inductive WordEnd where
  | quote
  | gap
  /-- A line end that is escaped and leaves no trace. -/
  | escapedBreak
  deriving DecidableEq

/-- One word between single quotes, in which two quotes are one. -/
def singleWord? : List Placed → Option (List Char × WordEnd × List Placed)
  | [] => none
  | placed :: rest =>
    if placed.isEnd then none
    else if placed.isGap then some ([], .gap, placed :: rest)
    else if placed.char = '\'' then
      match rest with
      | next :: rest =>
        if next.char = '\'' then
          (singleWord? rest).map fun (word, after) => ('\'' :: word, after)
        else some ([], .quote, next :: rest)
      | [] => none
    else (singleWord? rest).map fun (word, after) => (placed.char :: word, after)

/-- The character that an escape stands for, and the number of characters after the backslash that
belong to it. -/
def escape? : List Placed → Option (Char × Nat)
  | [] => none
  | placed :: rest =>
    match escapeWidth? placed.char with
    | some width =>
      let digits := (rest.take width).map (·.char)
      if digits.length = width then
        (Text.inRadix? 16 digits >>= charOfCode?).map (·, width + 1)
      else none
    | none => (escapedCode? placed.char).map (Char.ofNat ·, 1)

/-- One word between double quotes, after passing over characters that belong to an escape. -/
def doubleWord? : Nat → List Placed → Option (List Char × WordEnd × List Placed)
  | _, [] => none
  | skipped + 1, _ :: rest => doubleWord? skipped rest
  | 0, placed :: rest =>
    if placed.isEnd then none
    else if placed.isGap then some ([], .gap, placed :: rest)
    else if placed.char = '"' then some ([], .quote, rest)
    else if placed.char = '\\' then
      if headIs (·.isBreak) rest then some ([], .escapedBreak, rest.tail)
      else
        match escape? rest with
        | some (char, width) =>
          (doubleWord? width rest).map fun (word, after) => (char :: word, after)
        | none => none
    else (doubleWord? 0 rest).map fun (word, after) => (placed.char :: word, after)

def quotedWord? (isDouble : Bool) (text : List Placed) :
    Option (List Char × WordEnd × List Placed) :=
  if isDouble then doubleWord? 0 text else singleWord? text

/-- What a word between quotes leaves is no longer than the text, and shorter without the gap at
its start. -/
theorem length_le_of_singleWord {text rest : List Placed} {word : List Char} {ending : WordEnd}
    (read : singleWord? text = some (word, ending, rest)) :
    rest.length ≤ text.length ∧ (skipGap rest).length < text.length := by
  fun_induction singleWord? text generalizing word with
  | case1 => simp at read
  | case2 => simp at read
  | case3 _ _ _ isGap =>
    obtain ⟨rfl, rfl, rfl⟩ := by simpa using read
    exact ⟨Nat.le_refl _, length_skipGap_lt isGap⟩
  | case4 _ _ _ _ _ _ _ ih =>
    obtain ⟨_, inner, _⟩ := by simpa using read
    have := ih inner
    simp only [List.length_cons]
    omega
  | case5 _ _ _ _ next others =>
    obtain ⟨rfl, rfl, rfl⟩ := by simpa using read
    exact ⟨Nat.le_succ _, Nat.lt_succ_of_le (length_skipGap_le _)⟩
  | case6 => simp at read
  | case7 _ _ _ _ _ ih =>
    obtain ⟨_, inner, _⟩ := by simpa using read
    have := ih inner
    simp only [List.length_cons]
    omega

theorem length_le_of_doubleWord {skipped : Nat} {text rest : List Placed} {word : List Char}
    {ending : WordEnd} (read : doubleWord? skipped text = some (word, ending, rest)) :
    rest.length ≤ text.length ∧ (skipGap rest).length < text.length := by
  fun_induction doubleWord? skipped text generalizing word with
  | case1 => simp at read
  | case2 _ _ _ ih =>
    have := ih read
    simp only [List.length_cons]
    omega
  | case3 => simp at read
  | case4 _ _ _ isGap =>
    obtain ⟨rfl, rfl, rfl⟩ := by simpa using read
    exact ⟨Nat.le_refl _, length_skipGap_lt isGap⟩
  | case5 =>
    obtain ⟨rfl, rfl, rfl⟩ := by simpa using read
    exact ⟨Nat.le_succ _, Nat.lt_succ_of_le (length_skipGap_le _)⟩
  | case6 _ others =>
    obtain ⟨rfl, rfl, rfl⟩ := by simpa using read
    have shorter := others.tail_sublist.length_le
    exact ⟨Nat.le_succ_of_le shorter,
      Nat.lt_succ_of_le (Nat.le_trans (length_skipGap_le _) shorter)⟩
  | case7 _ _ _ _ _ _ _ _ _ _ ih =>
    obtain ⟨_, inner, _⟩ := by simpa using read
    have := ih inner
    simp only [List.length_cons]
    omega
  | case8 => simp at read
  | case9 _ _ _ _ _ _ ih =>
    obtain ⟨_, inner, _⟩ := by simpa using read
    have := ih inner
    simp only [List.length_cons]
    omega

theorem length_le_of_quotedWord {isDouble : Bool} {text rest : List Placed} {word : List Char}
    {ending : WordEnd} (read : quotedWord? isDouble text = some (word, ending, rest)) :
    rest.length ≤ text.length ∧ (skipGap rest).length < text.length := by
  cases isDouble with
  | true => exact length_le_of_doubleWord read
  | false => exact length_le_of_singleWord read

/-- The words of a quoted scalar after its opening quote, up to the closing one. -/
def quoted? (isDouble : Bool) (text : List Placed) : Option (List Char × List Placed) :=
  if startsMarker text then none
  else
    match read : quotedWord? isDouble text with
    | none => none
    | some (word, ending, after) =>
      have := (length_le_of_quotedWord read).2
      if ending = .quote then some (word, after)
      else
        let gap := gapOf after
        let between := if ending = .escapedBreak then breaksOf gap else gapText gap
        (quoted? isDouble (skipGap after)).map fun (words, rest) =>
          (word ++ between ++ words, rest)
termination_by text.length

theorem length_le_of_quoted {isDouble : Bool} {text rest : List Placed} {content : List Char}
    (read : quoted? isDouble text = some (content, rest)) : rest.length ≤ text.length := by
  fun_induction quoted? isDouble text generalizing content with
  | case1 => simp at read
  | case2 => simp at read
  | case3 _ _ _ _ found =>
    obtain ⟨rfl, rfl⟩ := by simpa using read
    exact (length_le_of_quotedWord found).1
  | case4 =>
    rename_i shorter _ _ _ ih
    obtain ⟨_, inner, _⟩ := by simpa using read
    exact Nat.le_trans (ih inner) (Nat.le_of_lt shorter)

end Bindery.Yaml
