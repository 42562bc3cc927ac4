import Bindery.Yaml.Lexeme

/-!
# Tokens

A document as a list of marks and scalars.  Indentation becomes tokens that open and close block
collections.  A key is only known as one when the colon after it is reached, and its token is put
in at the place where it began.
-/

namespace Bindery.Yaml

inductive Token where
  | documentStart
  | documentEnd
  | blockSequenceStart
  | blockMappingStart
  | blockEnd
  | flowSequenceStart
  | flowSequenceEnd
  | flowMappingStart
  | flowMappingEnd
  | blockEntry
  | flowEntry
  | key
  | value
  | scalar (text : String) (isPlain : Bool)
  deriving DecidableEq

namespace Token

/-- Where something began that may turn out to be a key. -/
structure KeyStart where
  place : Placed
  /-- The number of tokens before it. -/
  position : Nat
  /-- Whether it can only be a key, since it stands where a block mapping has its keys. -/
  isRequired : Bool

/-- What is known of a text up to some place in it. -/
structure Progress where
  /-- The tokens with the latest first. -/
  latestFirst : List Token := []
  count : Nat := 0
  /-- The columns of the open block collections, innermost first. -/
  indents : List Nat := []
  /-- The possible key at the present level. -/
  possibleKey : Option KeyStart := none
  /-- The possible keys around each open flow collection, innermost first. -/
  outerKeys : List (Option KeyStart) := []
  /-- Whether a key may begin here. -/
  isKeyAllowed : Bool := true

namespace Progress

def inFlow (progress : Progress) : Bool :=
  !progress.outerKeys.isEmpty

def push (progress : Progress) (token : Token) : Progress :=
  { progress with latestFirst := token :: progress.latestFirst, count := progress.count + 1 }

/-- Adds a token after which a key may begin or not. -/
def put (progress : Progress) (token : Token) (isKeyAllowed : Bool) : Progress :=
  { progress.push token with isKeyAllowed }

/-- Puts tokens before the token at a position. -/
def insertAt (progress : Progress) (position : Nat) (tokens : List Token) : Progress :=
  let later := progress.count - position
  { progress with
    latestFirst :=
      progress.latestFirst.take later ++ tokens.reverse ++ progress.latestFirst.drop later
    count := progress.count + tokens.length }

/-! ## Possible keys -/

/-- Whether a key that began there is too far away for its colon to come: a key stands on one line
and has at most 1024 bytes. -/
def isStale (here : Placed) (start : KeyStart) : Bool :=
  start.place.line < here.line || start.place.offset + 1024 < here.offset

/-- Gives up the possible key, unless it can only be one. -/
def forgetKey? (progress : Progress) : Option Progress :=
  if progress.possibleKey.any (·.isRequired) then none
  else some { progress with possibleKey := none }

/-- Gives up the possible key if its colon can not come any more.  Those around an open flow
collection are looked at when it is closed. -/
def dropStaleKey? (progress : Progress) (here : Placed) : Option Progress :=
  if progress.possibleKey.any (isStale here) then progress.forgetKey? else some progress

/-- What comes next may be a key, if one is allowed here. -/
def noteKey? (progress : Progress) (here : Placed) : Option Progress :=
  if progress.isKeyAllowed then do
    let progress ← progress.forgetKey?
    let isRequired := !progress.inFlow && progress.indents.head? = some here.column
    let start : KeyStart := { place := here, position := progress.count, isRequired }
    return { progress with possibleKey := some start }
  else some progress

/-! ## Indentation -/

/-- Closes the block collections that are indented by more than `column`. -/
def closeTo (progress : Progress) (column : Nat) : Progress :=
  if progress.inFlow then progress
  else
    let closed := progress.indents.takeWhile (column < ·)
    { closed.foldl (fun progress _ => progress.push .blockEnd) progress with
      indents := progress.indents.drop closed.length }

def closeAll (progress : Progress) : Progress :=
  if progress.inFlow then progress
  else { progress.indents.foldl (fun progress _ => progress.push .blockEnd) progress with
    indents := [] }

/-- Whether something at this column opens a block collection. -/
def opensAt (progress : Progress) (column : Nat) : Bool :=
  !progress.inFlow && progress.indents.head?.all (· < column)

/-- Opens a block collection at this column, if nothing as far to the right is open. -/
def openBlock (progress : Progress) (column : Nat) (token : Token) : Progress :=
  if progress.opensAt column then
    { progress.push token with indents := column :: progress.indents }
  else progress

/-! ## Marks -/

def addDocumentMark? (progress : Progress) (token : Token) : Option Progress :=
  progress.closeAll.forgetKey?.map (·.put token false)

def openFlow? (progress : Progress) (here : Placed) (token : Token) : Option Progress :=
  (progress.noteKey? here).map fun progress =>
    { progress.put token true with
      possibleKey := none
      outerKeys := progress.possibleKey :: progress.outerKeys }

def closeFlow? (progress : Progress) (token : Token) : Option Progress :=
  progress.forgetKey?.map fun progress =>
    match progress.outerKeys with
    | outer :: others =>
      { progress.put token false with possibleKey := outer, outerKeys := others }
    | [] => progress.put token false

def addComma? (progress : Progress) : Option Progress :=
  progress.forgetKey?.map (·.put .flowEntry true)

/-- A mark in block context may only stand where a key may. -/
def isMarkAllowed (progress : Progress) : Bool :=
  progress.inFlow || progress.isKeyAllowed

def addDash? (progress : Progress) (here : Placed) : Option Progress :=
  if progress.isMarkAllowed then
    (progress.openBlock here.column .blockSequenceStart).forgetKey?.map (·.put .blockEntry true)
  else none

def addQuestionMark? (progress : Progress) (here : Placed) : Option Progress :=
  if progress.isMarkAllowed then
    (progress.openBlock here.column .blockMappingStart).forgetKey?.map
      (·.put .key !progress.inFlow)
  else none

/-- A colon makes a key of what may be one, and otherwise gives a value without a key. -/
def addColon? (progress : Progress) (here : Placed) : Option Progress :=
  match progress.possibleKey with
  | some start =>
    let column := start.place.column
    let opened :=
      if progress.opensAt column then
        { progress.insertAt start.position [.blockMappingStart, .key] with
          indents := column :: progress.indents }
      else progress.insertAt start.position [.key]
    some { opened.put .value false with possibleKey := none }
  | none =>
    if progress.isMarkAllowed then
      some ((progress.openBlock here.column .blockMappingStart).put .value !progress.inFlow)
    else none

/-- Takes in the lexeme that begins here. -/
def add? (progress : Progress) (here : Placed) : Lexeme → Option Progress
  | .documentStart => progress.addDocumentMark? .documentStart
  | .documentEnd => progress.addDocumentMark? .documentEnd
  | .openBracket => progress.openFlow? here .flowSequenceStart
  | .closeBracket => progress.closeFlow? .flowSequenceEnd
  | .openBrace => progress.openFlow? here .flowMappingStart
  | .closeBrace => progress.closeFlow? .flowMappingEnd
  | .comma => progress.addComma?
  | .dash => progress.addDash? here
  | .questionMark => progress.addQuestionMark? here
  | .colon => progress.addColon? here
  | .quoted content => (progress.noteKey? here).map (·.put (.scalar content false) false)
  | .block content => progress.forgetKey?.map (·.put (.scalar content false) true)
  | .plain content crossesLine =>
    (progress.noteKey? here).map (·.put (.scalar content true) crossesLine)

/-! ## White space -/

/-- What follows blanks, comments and line ends, and whether a key may begin there.  Tabs count as
blanks only where no key may begin. -/
def skipSpace (inFlow : Bool) : Bool → Bool → List Placed → Bool × List Placed
  | isKeyAllowed, _, [] => (isKeyAllowed, [])
  | isKeyAllowed, inComment, placed :: rest =>
    if placed.isBreak then skipSpace inFlow (isKeyAllowed || !inFlow) false rest
    else if placed.isEnd then (isKeyAllowed, placed :: rest)
    else if inComment || placed.char == '#' then skipSpace inFlow isKeyAllowed true rest
    else if placed.char == ' ' || (placed.char == '\t' && (inFlow || !isKeyAllowed))
        || placed.isLineMark then
      skipSpace inFlow isKeyAllowed false rest
    else (isKeyAllowed, placed :: rest)

theorem length_skipSpace_le (inFlow isKeyAllowed inComment : Bool) (text : List Placed) :
    (skipSpace inFlow isKeyAllowed inComment text).2.length ≤ text.length := by
  fun_induction skipSpace inFlow isKeyAllowed inComment text with
  | case1 => exact Nat.le_refl _
  | case2 _ _ _ _ _ ih => exact Nat.le_succ_of_le ih
  | case3 => exact Nat.le_refl _
  | case4 _ _ _ _ _ _ _ ih => exact Nat.le_succ_of_le ih
  | case5 _ _ _ _ _ _ _ _ ih => exact Nat.le_succ_of_le ih
  | case6 => exact Nat.le_refl _

/-! ## Whole texts -/

/-- Finds the tokens up to the end of the text. -/
def finish? (progress : Progress) (text : List Placed) : Option (List Token) :=
  match skipped : skipSpace progress.inFlow progress.isKeyAllowed false text with
  | (_, []) => none
  | (isKeyAllowed, here :: rest) =>
    match { progress with isKeyAllowed }.dropStaleKey? here with
    | none => none
    | some fresh =>
      let ready := fresh.closeTo here.column
      if here.isEnd then ready.closeAll.forgetKey?.map (·.latestFirst.reverse)
      else
        match read : Lexeme.read? ready.inFlow ready.indents.head? (here :: rest) with
        | none => none
        | some (lexeme, after) =>
          have within : (here :: rest).length ≤ text.length := by
            simpa only [skipped] using
              length_skipSpace_le progress.inFlow progress.isKeyAllowed false text
          have := Nat.lt_of_lt_of_le (Lexeme.length_lt_of_read read) within
          match ready.add? here lexeme with
          | none => none
          | some next => next.finish? after
termination_by text.length

end Progress

/-- The tokens of a text, if it can be taken apart at all. -/
def scan? (text : String) : Option (List Token) := do
  let placed ← place? text
  Progress.finish? {} placed

end Token

end Bindery.Yaml
