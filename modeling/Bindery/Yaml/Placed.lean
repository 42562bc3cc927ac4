import Bindery.Yaml.Style

/-!
# Characters in their places

In YAML it matters where a character stands, so a text is read as a list of characters with their
lines and columns.  All spellings of a line end are one character here, and the end of the text is
a character of its own, which no text contains.
-/

namespace Bindery.Yaml

structure Placed where
  char : Char
  line : Nat
  column : Nat
  /-- The number of bytes before this one. -/
  offset : Nat
  deriving DecidableEq

/-- The character that stands for the end of the text. -/
def endMark : Char :=
  Char.ofNat 0

/-- The characters of a text that starts at the given place. -/
def placeFrom (line column offset : Nat) : List Char → List Placed
  | [] => [{ char := endMark, line, column, offset }]
  | '\r' :: '\n' :: rest =>
    { char := '\n', line, column, offset } :: placeFrom (line + 1) 0 (offset + 2) rest
  | c :: rest =>
    if isBreak c then
      let char := if c = '\r' ∨ c.toNat = 0x85 then '\n' else c
      { char, line, column, offset } :: placeFrom (line + 1) 0 (offset + c.utf8Size) rest
    else
      { char := c, line, column, offset }
        :: placeFrom line (column + 1) (offset + c.utf8Size) rest

/-- Characters that a text may contain at all. -/
def isAllowed (c : Char) : Bool :=
  let code := c.toNat
  code == 0x09 || code == 0x0A || code == 0x0D || (0x20 ≤ code && code ≤ 0x7E) || code == 0x85
    || (0xA0 ≤ code && code ≤ 0xD7FF) || (0xE000 ≤ code && code ≤ 0xFFFD) || 0x10000 ≤ code

/-- The characters of a whole text, unless one of them may not occur. -/
def place? (text : String) : Option (List Placed) :=
  if text.toList.all isAllowed then some (placeFrom 0 0 0 text.toList) else none

def byteOrderMark : Char :=
  Char.ofNat 0xFEFF

namespace Placed

def isBlank (placed : Placed) : Bool :=
  placed.char == ' ' || placed.char == '\t'

def isEnd (placed : Placed) : Bool :=
  placed.char == endMark

def isBreak (placed : Placed) : Bool :=
  Yaml.isBreak placed.char

def isBreakOrEnd (placed : Placed) : Bool :=
  placed.isBreak || placed.isEnd

/-- Whether the character separates words: a blank, a break, or the end. -/
def isSeparator (placed : Placed) : Bool :=
  placed.isBlank || placed.isBreakOrEnd

/-- A byte order mark at the start of a line is passed over, though it keeps its column. -/
def isLineMark (placed : Placed) : Bool :=
  placed.char == byteOrderMark && placed.column == 0

/-- Whether the character can stand between two words of one scalar. -/
def isGap (placed : Placed) : Bool :=
  placed.isBlank || placed.isBreak

end Placed

/-- Whether the text goes on with the given character and a separator. -/
def startsMarked (mark : Char) (text : List Placed) : Bool :=
  match text with
  | first :: second :: _ => first.char == mark && second.isSeparator
  | _ => false

/-- Whether a document marker stands at the start of the line. -/
def startsDocumentMark (mark : Char) (text : List Placed) : Bool :=
  match text with
  | first :: second :: third :: next :: _ =>
    first.column == 0 && first.char == mark && second.char == mark && third.char == mark
      && next.isSeparator
  | _ => false

def startsMarker (text : List Placed) : Bool :=
  startsDocumentMark '-' text || startsDocumentMark '.' text

def headColumn (text : List Placed) : Nat :=
  (text.head?.map (·.column)).getD 0

def headIs (test : Placed → Bool) (text : List Placed) : Bool :=
  text.head?.any test

theorem exists_cons_of_headIs {test : Placed → Bool} {text : List Placed}
    (isHead : headIs test text = true) :
    ∃ first rest, text = first :: rest ∧ test first = true := by
  cases text with
  | nil => simp [headIs] at isHead
  | cons first rest => exact ⟨first, rest, rfl, isHead⟩

/-! ## Gaps between words -/

/-- The blanks and breaks at the start of the text. -/
def gapOf (text : List Placed) : List Placed :=
  text.takeWhile (·.isGap)

/-- What follows the gap at the start of the text. -/
def skipGap (text : List Placed) : List Placed :=
  text.dropWhile (·.isGap)

def breaksOf (gap : List Placed) : List Char :=
  (gap.filter (·.isBreak)).map (·.char)

/-- How a gap between two words is read.  With a line end in it, its blanks do not count: one line
end is a space, and of several the first is dropped. -/
def gapText (gap : List Placed) : List Char :=
  match breaksOf gap with
  | [] => gap.map (·.char)
  | ['\n'] => [' ']
  | '\n' :: later => later
  | breaks => breaks

theorem length_skipGap_le (text : List Placed) : (skipGap text).length ≤ text.length :=
  (List.dropWhile_sublist _).length_le

theorem length_skipGap_lt {text : List Placed} (starts : headIs (·.isGap) text = true) :
    (skipGap text).length < text.length := by
  obtain ⟨first, rest, rfl, isGap⟩ := exists_cons_of_headIs starts
  simpa [skipGap, List.dropWhile_cons, isGap, Nat.lt_succ_iff] using length_skipGap_le rest

end Bindery.Yaml
