import Bindery.Yaml.Block
import Bindery.Yaml.Plain
import Bindery.Yaml.Quoted

/-!
# Lexemes

The marks and scalars that the characters of a document spell, before indentation gives them their
meaning.  Every lexeme has at least one character, so taking them off one by one comes to an end.
-/

namespace Bindery.Yaml

inductive Lexeme where
  | documentStart
  | documentEnd
  | openBracket
  | closeBracket
  | openBrace
  | closeBrace
  | comma
  | dash
  | questionMark
  | colon
  | quoted (content : String)
  | block (content : String)
  /-- An unquoted scalar, with whether a line ended between it and what comes next. -/
  | plain (content : String) (crossesLine : Bool)
  deriving DecidableEq

namespace Lexeme

/-- The marks of flow collections, which stand for themselves anywhere. -/
def ofFlowMark? (c : Char) : Option Lexeme :=
  match c with
  | '[' => some .openBracket
  | ']' => some .closeBracket
  | '\x7b' => some .openBrace
  | '\x7d' => some .closeBrace
  | ',' => some .comma
  | _ => none

/-- The marks that are told from unquoted scalars by what follows them. -/
def ofBlockMark? (inFlow : Bool) (text : List Placed) : Option Lexeme :=
  if startsMarked '-' text then some .dash
  else if startsMarked '?' text || (inFlow && headIs (·.char == '?') text) then some .questionMark
  else if startsMarked ':' text || (inFlow && headIs (·.char == ':') text) then some .colon
  else none

/-- Characters that no unquoted scalar begins with. -/
def startIndicators : List Char :=
  ['-', '?', ':', ',', '[', ']', '\x7b', '\x7d', '#', '&', '*', '!', '|', '>', '\'', '"', '%', '@',
    Char.ofNat 0x60]

/-- Whether an unquoted scalar begins with the first of two characters.  A dash, question mark or
colon can begin one if no blank follows, the latter two only outside flow collections. -/
def startsPlain (inFlow : Bool) (first second : Placed) : Bool :=
  (!first.isSeparator && !startIndicators.contains first.char)
    || (first.char == '-' && !second.isBlank)
    || (!inFlow && (first.char == '?' || first.char == ':') && !second.isSeparator)

/-- The scalar that the first character begins, in collections that are indented by `indent`. -/
def readScalar? (inFlow : Bool) (indent : Option Nat) (first : Placed) (rest : List Placed) :
    Option (Lexeme × List Placed) :=
  if first.char = '\'' ∨ first.char = '"' then
    (quoted? (first.char == '"') rest).map fun (content, after) =>
      (.quoted (String.ofList content), after)
  else if (first.char = '|' ∨ first.char = '>') ∧ !inFlow then
    (block? (first.char == '|') indent rest).map fun (content, after) =>
      (.block (String.ofList content), after)
  else if headIs (startsPlain inFlow first) rest then
    (plain? inFlow (indent.elim 0 (· + 1)) rest).map fun (content, crossesLine, after) =>
      (.plain (String.ofList (first.char :: content)) crossesLine, after)
  else none

/-- The lexeme at the start of the text and what follows it. -/
def read? (inFlow : Bool) (indent : Option Nat) (text : List Placed) :
    Option (Lexeme × List Placed) :=
  match text with
  | [] => none
  | first :: rest =>
    if startsDocumentMark '-' text then some (.documentStart, rest.drop 2)
    else if startsDocumentMark '.' text then some (.documentEnd, rest.drop 2)
    else if first.column = 0 ∧ first.char = '%' then none
    else
      match ofFlowMark? first.char <|> ofBlockMark? inFlow text with
      | some mark => some (mark, rest)
      | none => readScalar? inFlow indent first rest

theorem length_le_of_readScalar {inFlow : Bool} {indent : Option Nat} {first : Placed}
    {rest after : List Placed} {lexeme : Lexeme}
    (read : readScalar? inFlow indent first rest = some (lexeme, after)) :
    after.length ≤ rest.length := by
  unfold readScalar? at read
  split at read
  · obtain ⟨_, inner, same⟩ := Option.map_eq_some_iff.1 read
    cases same
    exact length_le_of_quoted inner
  · split at read
    · obtain ⟨_, inner, same⟩ := Option.map_eq_some_iff.1 read
      cases same
      exact length_le_of_block inner
    · split at read
      · obtain ⟨_, inner, same⟩ := Option.map_eq_some_iff.1 read
        cases same
        exact length_le_of_plain inner
      · simp at read

theorem length_lt_of_read {inFlow : Bool} {indent : Option Nat} {text after : List Placed}
    {lexeme : Lexeme} (read : read? inFlow indent text = some (lexeme, after)) :
    after.length < text.length := by
  cases text with
  | nil => simp [read?] at read
  | cons first rest =>
    refine Nat.lt_succ_of_le ?_
    simp only [read?] at read
    split at read
    · cases read
      exact (List.drop_sublist 2 rest).length_le
    · split at read
      · cases read
        exact (List.drop_sublist 2 rest).length_le
      · split at read
        · simp at read
        · split at read
          · cases read
            exact Nat.le_refl _
          · exact length_le_of_readScalar read

end Lexeme

end Bindery.Yaml
