import Bindery.Json.Basic
import Bindery.Yaml.Style

/-!
# Writing YAML

Block style throughout: two spaces for each level, except that the items of a list stand right
below their key.  Only empty lists and records are written in brackets.
-/

namespace Bindery.Yaml

def indentation (indent : Nat) : String :=
  String.ofList (spaces indent)

mutual

/-- What follows a key that stands at the given indentation. -/
def afterKey (indent : Nat) : Json → String
  | .null => " null\n"
  | .bool true => " true\n"
  | .bool false => " false\n"
  | .number literal => " " ++ literal ++ "\n"
  | .text content => " " ++ writeText (indent + 2) (content.getD "")
  | .array [] => " []\n"
  | .array (item :: items) => "\n" ++ listItems indent true (item :: items)
  | .object [] => " \x7b\x7d\n"
  | .object (member :: members) => "\n" ++ recordMembers (indent + 2) true (member :: members)

/-- A value whose first line has already been indented. -/
def inPlace (indent : Nat) : Json → String
  | .null => "null\n"
  | .bool true => "true\n"
  | .bool false => "false\n"
  | .number literal => literal ++ "\n"
  | .text content => writeText indent (content.getD "")
  | .array [] => "[]\n"
  | .array (item :: items) => listItems indent false (item :: items)
  | .object [] => "\x7b\x7d\n"
  | .object (member :: members) => recordMembers indent false (member :: members)

/-- The items of a list.  The first line is indented only if `isNewLine` says so. -/
def listItems (indent : Nat) (isNewLine : Bool) : List Json → String
  | [] => ""
  | item :: items =>
    (if isNewLine then indentation indent else "") ++ "- " ++ inPlace (indent + 2) item
      ++ listItems indent true items

def recordMembers (indent : Nat) (isNewLine : Bool) : List (Option String × Json) → String
  | [] => ""
  | (key, value) :: members =>
    (if isNewLine then indentation indent else "") ++ writeKey (key.getD "") ++ ":"
      ++ afterKey indent value ++ recordMembers indent true members

end

/-- The whole value as a document. -/
def write (value : Json) : String :=
  inPlace 0 value

end Bindery.Yaml
