import Bindery.Yaml.Scalar

/-!
# The style of a written scalar

A text is written as plainly as it can be: unquoted where that reads back as the same text, in
single quotes where not, as literal lines where it has several, and in double quotes, with
escapes, where nothing else will do.
-/

namespace Bindery.Yaml

/-- Characters that end a line. -/
def isBreak (c : Char) : Bool :=
  c == '\n' || c == '\r' || c.toNat == 0x85 || c.toNat == 0x2028 || c.toNat == 0x2029

/-- Characters that may be written as they are. -/
def isPrintable (c : Char) : Bool :=
  let code := c.toNat
  code == 0x0A || (0x20 ≤ code && code ≤ 0x7E) || (0xA0 ≤ code && code ≤ 0xD7FF)
    || (0xE000 ≤ code && code ≤ 0xFFFD && code != 0xFEFF) || 0x10000 ≤ code

def isBlankOrBreak (c : Char) : Bool :=
  c == ' ' || c == '\t' || isBreak c

/-- Whether what follows in a text separates words: a blank, a break, or the end. -/
def isSeparated (rest : List Char) : Bool :=
  match rest with
  | [] => true
  | c :: _ => isBlankOrBreak c

/-- Whether a text can not stand unquoted because of how it starts. -/
def startsLikeMarkup (text : List Char) : Bool :=
  match text with
  | '-' :: '-' :: '-' :: _ => true
  | '.' :: '.' :: '.' :: _ => true
  | '-' :: rest | '?' :: rest | ':' :: rest => isSeparated rest
  | c :: _ => "#,[]\x7b\x7d&*!|>'\"%@`".toList.contains c
  | [] => false

/-- Whether a colon before a blank or a number sign after one occurs after the start. -/
def hasInnerMarkup : List Char → Bool
  | [] => false
  | [_] => false
  | before :: c :: rest =>
    (c == ':' && isSeparated rest) || (c == '#' && isBlankOrBreak before)
      || hasInnerMarkup (c :: rest)

/-- Whether two neighbours are of the given kinds. -/
def hasNeighbours (first second : Char → Bool) : List Char → Bool
  | a :: b :: rest => (first a && second b) || hasNeighbours first second (b :: rest)
  | _ => false

def isSpaceOrBreak (c : Char) : Bool :=
  c == ' ' || isBreak c

inductive Style where
  | plain
  | singleQuoted
  | literal
  | doubleQuoted
  deriving DecidableEq

namespace Style

/-- Texts that only double quotes can hold. -/
def needsEscapes (text : List Char) : Bool :=
  !text.all isPrintable || hasNeighbours (· == ' ') isBreak text

def fitsLiteral (text : List Char) : Bool :=
  !needsEscapes text && text.getLast? != some ' '

def fitsSingleQuotes (text : List Char) : Bool :=
  !needsEscapes text && !hasNeighbours isBreak (· == ' ') text

def fitsPlain (text : List Char) : Bool :=
  !needsEscapes text && !text.any isBreak && !text.head?.any isSpaceOrBreak
    && !text.getLast?.any isSpaceOrBreak && !startsLikeMarkup text && !hasInnerMarkup text

/-- The style in which a text is written. -/
def ofText (text : String) : Style :=
  let chars := text.toList
  if chars.contains '\n' then
    if fitsLiteral chars then literal else doubleQuoted
  else if !looksLikeValue text && fitsPlain chars then plain
  else if fitsSingleQuotes chars then singleQuoted
  else doubleQuoted

end Style

/-! ## Writing in a style -/

def spaces (count : Nat) : List Char :=
  List.replicate count ' '

/-- The text with every line after the first, unless it is empty, indented. -/
def indentLines (indent : Nat) (atStart : Bool) : List Char → List Char
  | [] => []
  | c :: rest =>
    if isBreak c then c :: indentLines indent true rest
    else if atStart then spaces indent ++ c :: indentLines indent false rest
    else c :: indentLines indent false rest

/-- The text between single quotes, in which a quote is doubled.  A break at its very end is
followed by the indentation of the closing quote. -/
def singleQuote (indent : Nat) (text : List Char) : List Char :=
  let doubled := text.flatMap fun c => if c = '\'' then ['\'', '\''] else [c]
  let closing := if text.getLast?.any isBreak then spaces indent else []
  '\'' :: indentLines indent false doubled ++ closing ++ ['\'']

/-- The last digits of a code in hexadecimal capitals. -/
def hexCapitals (count code : Nat) : List Char :=
  (Text.hexDigits count code).map Char.toUpper

/-- A character between double quotes. -/
def escapeDouble (c : Char) : List Char :=
  match c.toNat with
  | 0x00 => ['\\', '0']
  | 0x07 => ['\\', 'a']
  | 0x08 => ['\\', 'b']
  | 0x09 => ['\\', 't']
  | 0x0A => ['\\', 'n']
  | 0x0B => ['\\', 'v']
  | 0x0C => ['\\', 'f']
  | 0x0D => ['\\', 'r']
  | 0x1B => ['\\', 'e']
  | 0x22 => ['\\', '"']
  | 0x5C => ['\\', '\\']
  | 0x85 => ['\\', 'N']
  | 0x2028 => ['\\', 'L']
  | 0x2029 => ['\\', 'P']
  | code =>
    if isPrintable c then [c]
    else if code ≤ 0xFF then '\\' :: 'x' :: hexCapitals 2 code
    else if code ≤ 0xFFFF then '\\' :: 'u' :: hexCapitals 4 code
    else '\\' :: 'U' :: hexCapitals 8 code

def doubleQuote (text : List Char) : List Char :=
  '"' :: text.flatMap escapeDouble ++ ['"']

/-- What a literal's header says about its indentation and its final breaks. -/
def literalHints (text : List Char) : List Char :=
  let indentation := if text.head?.any isSpaceOrBreak then ['2'] else []
  let chomping :=
    match text.reverse with
    | last :: before =>
      if !isBreak last then ['-']
      else
        match before with
        | [] => ['+']
        | c :: _ => if isBreak c then ['+'] else []
    | [] => ['-']
  indentation ++ chomping

/-- The lines of a literal below its header. -/
def literalBlock (indent : Nat) (text : List Char) : List Char :=
  '|' :: literalHints text ++ '\n' :: indentLines indent true text

/-- A text as it is written up to the end of its last line, where further lines of it are indented
by `indent`.  A literal may end in a break of its own. -/
def writeText (indent : Nat) (text : String) : String :=
  let chars := text.toList
  match Style.ofText text with
  | .plain => text ++ "\n"
  | .singleQuoted => String.ofList (singleQuote indent chars ++ ['\n'])
  | .literal =>
    String.ofList (literalBlock indent chars ++ if chars.getLast?.any isBreak then [] else ['\n'])
  | .doubleQuoted => String.ofList (doubleQuote chars ++ ['\n'])

/-- A key, which is always written on one line. -/
def writeKey (key : String) : String :=
  let chars := key.toList
  match Style.ofText key with
  | .plain => key
  | .singleQuoted => String.ofList (singleQuote 0 chars)
  | .literal | .doubleQuoted => String.ofList (doubleQuote chars)

end Bindery.Yaml
