import Bindery.Json.Basic
import Bindery.Text.Digits

/-!
# Writing JSON text

Two forms of the same value: on one line without any space, and indented by two spaces with one
item or member a line.  Only quotes, backslashes and control characters are escaped.
-/

namespace Bindery.Json

def escape (c : Char) : List Char :=
  match c with
  | '"' => ['\\', '"']
  | '\\' => ['\\', '\\']
  | '\n' => ['\\', 'n']
  | '\r' => ['\\', 'r']
  | '\t' => ['\\', 't']
  | c =>
    if c.toNat = 0x08 then ['\\', 'b']
    else if c.toNat = 0x0C then ['\\', 'f']
    else if c.toNat < 0x20 then
      '\\' :: 'u' :: Text.hexDigits 4 c.toNat
    else [c]

def quote (text : String) : String :=
  String.ofList ('"' :: text.toList.flatMap escape ++ ['"'])

/-- A text in quotes.  One that spells nothing is written as the empty text. -/
def quoteContent (content : Option String) : String :=
  quote (content.getD "")

mutual

/-- The value on one line. -/
def compact : Json → String
  | .null => "null"
  | .bool true => "true"
  | .bool false => "false"
  | .number literal => literal
  | .text content => quoteContent content
  | .array items => "[" ++ ",".intercalate (compactItems items) ++ "]"
  | .object members => "\x7b" ++ ",".intercalate (compactMembers members) ++ "\x7d"

def compactItems : List Json → List String
  | [] => []
  | item :: items => compact item :: compactItems items

def compactMembers : List (Option String × Json) → List String
  | [] => []
  | (key, value) :: members =>
    (quoteContent key ++ ":" ++ compact value) :: compactMembers members

end

def newline (depth : Nat) : String :=
  "\n" ++ String.ofList (List.replicate (2 * depth) ' ')

/-- Parts between brackets, each on a line of its own, for a value at the given depth. -/
def bracket (opening closing : String) (depth : Nat) (parts : List String) : String :=
  if parts.isEmpty then opening ++ closing
  else
    opening ++ newline (depth + 1) ++ ("," ++ newline (depth + 1)).intercalate parts
      ++ newline depth ++ closing

mutual

/-- The value over several lines, its first line standing at the given depth. -/
def prettyAt (depth : Nat) : Json → String
  | .null => "null"
  | .bool true => "true"
  | .bool false => "false"
  | .number literal => literal
  | .text content => quoteContent content
  | .array items => bracket "[" "]" depth (prettyItems (depth + 1) items)
  | .object members => bracket "\x7b" "\x7d" depth (prettyMembers (depth + 1) members)

def prettyItems (depth : Nat) : List Json → List String
  | [] => []
  | item :: items => prettyAt depth item :: prettyItems depth items

def prettyMembers (depth : Nat) : List (Option String × Json) → List String
  | [] => []
  | (key, value) :: members =>
    (quoteContent key ++ ": " ++ prettyAt depth value) :: prettyMembers depth members

end

/-- The value over several lines. -/
def pretty (value : Json) : String :=
  prettyAt 0 value

end Bindery.Json
