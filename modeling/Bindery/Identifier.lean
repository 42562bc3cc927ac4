import Bindery.Text.Blank
import Bindery.Text.Case

/-!
# Identifiers

The two spellings that C names come in, `tox_options` and `ToxOptions`, and the conversions
between them.  Class names, method prefixes and enumerator prefixes are all found by converting a
name and comparing, so which names survive the way there and back decides what is recognised.
-/

namespace Bindery.Identifier

/-- The parts between underscores, empty ones included. -/
def segments : List Char → List (List Char)
  | [] => [[]]
  | c :: rest =>
    if c = '_' then [] :: segments rest
    else
      match segments rest with
      | [] => [[c]]
      | segment :: others => (c :: segment) :: others

def capitalize : List Char → List Char
  | [] => []
  | c :: rest => Text.upper c ++ rest

/-- Puts an underscore before every uppercase letter and then lowercases all. -/
def separateCapitals (text : List Char) : List Char :=
  text.flatMap fun c => if Text.isUpper c then '_' :: Text.lower c else Text.lower c

/-- Joins the capitalized segments: `tox_options` becomes `ToxOptions`.  Empty segments leave no
trace. -/
def snakeToPascal (name : String) : String :=
  String.ofList ((segments name.toList).flatMap capitalize)

/-- Separates the words by underscores: `ToxOptions` becomes `tox_options`.  The first character
never gets an underscore before it. -/
def pascalToSnake (name : String) : String :=
  String.ofList <|
    match name.toList with
    | [] => []
    | first :: rest => Text.lower first ++ separateCapitals rest

/-- The name of a type without the `struct ` in front of it and without blanks around it. -/
def withoutStruct (name : String) : String :=
  Text.trim (String.ofList (match name.toList with
    | 's' :: 't' :: 'r' :: 'u' :: 'c' :: 't' :: ' ' :: rest => rest
    | whole => whole))

end Bindery.Identifier
