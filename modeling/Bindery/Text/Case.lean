import Bindery.Text.CaseTable

/-!
# Letter case

The case mapping of single characters, where one character may become several (`ß` in capitals
is `SS`).  ASCII characters keep the plain mapping of the core library; everything else is looked
up in the tables.
-/

namespace Bindery.Text

def isAscii (c : Char) : Bool :=
  c.toNat < 0x80

/-- The mapping of one character by a table of expansions and a table of runs. -/
def mapCase (expansions : List (Nat × List Nat)) (runs : List CaseRun) (c : Char) : List Char :=
  match expansions.lookup c.toNat with
  | some codes => codes.map Char.ofNat
  | none =>
    match runs.findSome? (·.image? c.toNat) with
    | some code => [Char.ofNat code]
    | none => [c]

def upper (c : Char) : List Char :=
  if isAscii c then [c.toUpper] else mapCase uppercaseExpansions uppercaseRuns c

def lower (c : Char) : List Char :=
  if isAscii c then [c.toLower] else mapCase lowercaseExpansions lowercaseRuns c

/-- Whether the character has the `Uppercase` property. -/
def isUpper (c : Char) : Bool :=
  if isAscii c then c.isUpper else uppercaseProperty.any (·.covers c.toNat)

/-- The whole text in capitals, character by character. -/
def toUppercase (text : String) : String :=
  String.ofList (text.toList.flatMap upper)

theorem upper_of_isAscii {c : Char} (ascii : isAscii c = true) : upper c = [c.toUpper] := by
  simp [upper, ascii]

theorem lower_of_isAscii {c : Char} (ascii : isAscii c = true) : lower c = [c.toLower] := by
  simp [lower, ascii]

theorem isUpper_of_isAscii {c : Char} (ascii : isAscii c = true) :
    isUpper c = c.isUpper := by
  simp [isUpper, ascii]

end Bindery.Text
