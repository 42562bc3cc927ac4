import Bindery.Written
import Bindery.Yaml.Token

/-!
# Documents

A YAML document as a tree of scalars, sequences and mappings, built from its tokens, and the
answers that such a tree gives to readers of declarations and settings.  A value that is left out
is an empty unquoted scalar.
-/

namespace Bindery.Yaml

inductive Node where
  | scalar (text : String) (isPlain : Bool)
  | sequence (items : List Node)
  | mapping (members : List (Node × Node))
  deriving Inhabited

namespace Node

def nothing : Node :=
  .scalar "" true

/-- Whether the next token is one of the given, so that a value is left out before it. -/
def isAt (stops : List Token) (tokens : List Token) : Bool :=
  tokens.head?.any (stops.contains ·)

/-- What was read, and the tokens that are left, which are fewer than `limit`. -/
structure Parsed (α : Type) (limit : Nat) where
  value : α
  rest : List Token
  within : rest.length < limit

/-- Makes something of what was read, under a limit that is no lower. -/
def Parsed.into {α β : Type} {low high : Nat} (parsed : Parsed α low) (make : α → β)
    (le : low ≤ high) : Parsed β high :=
  ⟨make parsed.value, parsed.rest, Nat.lt_of_lt_of_le parsed.within le⟩

theorem Parsed.tail_within {α : Type} {limit : Nat} {parsed : Parsed α limit} {token : Token}
    {tokens : List Token} (next : parsed.rest = token :: tokens) : tokens.length < limit := by
  have := parsed.within
  rw [next] at this
  exact Nat.lt_of_succ_lt this

mutual

/-- The node that the tokens begin with.  Block collections are accepted only in block context, and
a sequence that is not indented only as the value or key of a mapping. -/
def ofTokens? (inBlock inMapping : Bool) (tokens : List Token) :
    Option (Parsed Node tokens.length) :=
  match tokens with
  | .scalar text isPlain :: rest => some ⟨.scalar text isPlain, rest, Nat.lt_succ_self _⟩
  | .flowSequenceStart :: rest => (flowItems? rest).map (·.into .sequence (Nat.le_succ _))
  | .flowMappingStart :: rest => (flowMembers? rest).map (·.into .mapping (Nat.le_succ _))
  | .blockSequenceStart :: rest =>
    if inBlock then (blockItems? rest).map (·.into .sequence (Nat.le_succ _)) else none
  | .blockMappingStart :: rest =>
    if inBlock then (blockMembers? rest).map (·.into .mapping (Nat.le_succ _)) else none
  | .blockEntry :: rest =>
    if inMapping then (dashedItems? rest).map (·.into .sequence (Nat.le_refl _)) else none
  | _ => none
termination_by (tokens.length, 0)

/-- A node, or nothing where one of the given tokens comes next. -/
def orNothing? (stops : List Token) (inBlock inMapping : Bool) (tokens : List Token) :
    Option (Parsed Node (tokens.length + 1)) :=
  if isAt stops tokens then some ⟨nothing, tokens, Nat.lt_succ_self _⟩
  else (ofTokens? inBlock inMapping tokens).map (·.into id (Nat.le_succ _))
termination_by (tokens.length, 1)

/-- The value after its mark.  Both may be left out. -/
def valueAfter? (stops : List Token) (inBlock : Bool) (tokens : List Token) :
    Option (Parsed Node (tokens.length + 1)) :=
  match tokens with
  | .value :: rest => (orNothing? stops inBlock inBlock rest).map (·.into id (Nat.le_succ _))
  | tokens => some ⟨nothing, tokens, Nat.lt_succ_self _⟩
termination_by (tokens.length, 2)

/-- A member of a mapping, from behind the mark of its key. -/
def member? (keyStops valueStops : List Token) (inBlock : Bool) (tokens : List Token) :
    Option (Parsed (Node × Node) (tokens.length + 1)) :=
  match orNothing? keyStops inBlock inBlock tokens with
  | none => none
  | some key =>
    have within := key.within
    (valueAfter? valueStops inBlock key.rest).map (·.into (key.value, ·) within)
termination_by (tokens.length + 1, 0)

/-- The items of an indented sequence, up to its end. -/
def blockItems? (tokens : List Token) : Option (Parsed (List Node) tokens.length) :=
  match tokens with
  | .blockEnd :: rest => some ⟨[], rest, Nat.lt_succ_self _⟩
  | .blockEntry :: rest =>
    match orNothing? [.blockEntry, .blockEnd] true false rest with
    | none => none
    | some item =>
      have within := item.within
      (blockItems? item.rest).map (·.into (item.value :: ·) (Nat.le_of_lt within))
  | _ => none
termination_by (tokens.length, 2)

/-- The items of a sequence that is not indented, from behind its first dash up to the first token
that is no dash. -/
def dashedItems? (tokens : List Token) : Option (Parsed (List Node) (tokens.length + 1)) :=
  match orNothing? [.blockEntry, .key, .value, .blockEnd] true false tokens with
  | none => none
  | some item =>
    match next : item.rest with
    | .blockEntry :: rest =>
      have within : rest.length < tokens.length := by simpa [next] using item.within
      (dashedItems? rest).map (·.into (item.value :: ·) (Nat.le_succ_of_le within))
    | _ => some ⟨[item.value], item.rest, item.within⟩
termination_by (tokens.length, 2)

/-- The members of a block mapping, up to its end. -/
def blockMembers? (tokens : List Token) : Option (Parsed (List (Node × Node)) tokens.length) :=
  match tokens with
  | .blockEnd :: rest => some ⟨[], rest, Nat.lt_succ_self _⟩
  | .key :: rest =>
    match member? [.key, .value, .blockEnd] [.key, .value, .blockEnd] true rest with
    | none => none
    | some member =>
      have within := member.within
      (blockMembers? member.rest).map (·.into (member.value :: ·) (Nat.le_of_lt within))
  | _ => none
termination_by (tokens.length, 2)

/-- The key of a pair in a flow sequence.  A key that is left out takes the token with it that ends
it. -/
def flowKey? (tokens : List Token) : Option (Parsed Node tokens.length) :=
  match tokens with
  | .value :: rest | .flowEntry :: rest | .flowSequenceEnd :: rest =>
    some ⟨nothing, rest, Nat.lt_succ_self _⟩
  | tokens => ofTokens? false false tokens
termination_by (tokens.length, 1)

/-- An item of a flow sequence, which may be a single pair. -/
def flowItem? (tokens : List Token) : Option (Parsed Node tokens.length) :=
  match tokens with
  | .key :: rest =>
    match flowKey? rest with
    | none => none
    | some key =>
      have within := key.within
      (valueAfter? [.flowEntry, .flowSequenceEnd] false key.rest).map
        (·.into (fun value => .mapping [(key.value, value)]) (Nat.le_succ_of_le within))
  | tokens => ofTokens? false false tokens
termination_by (tokens.length, 1)

/-- The items of a flow sequence, up to its end. -/
def flowItems? (tokens : List Token) : Option (Parsed (List Node) tokens.length) :=
  match tokens with
  | .flowSequenceEnd :: rest => some ⟨[], rest, Nat.lt_succ_self _⟩
  | tokens =>
    match flowItem? tokens with
    | none => none
    | some item =>
      match next : item.rest with
      | .flowSequenceEnd :: rest => some ⟨[item.value], rest, Parsed.tail_within next⟩
      | .flowEntry :: rest =>
        have within := Parsed.tail_within next
        (flowItems? rest).map (·.into (item.value :: ·) (Nat.le_of_lt within))
      | _ => none
termination_by (tokens.length, 2)

/-- A member of a flow mapping.  A value may be left out with its colon. -/
def flowMember? (tokens : List Token) : Option (Parsed (Node × Node) tokens.length) :=
  match tokens with
  | .key :: rest =>
    member? [.value, .flowEntry, .flowMappingEnd] [.flowEntry, .flowMappingEnd] false rest
  | tokens => (ofTokens? false false tokens).map (·.into (·, nothing) (Nat.le_refl _))
termination_by (tokens.length, 1)

/-- The members of a flow mapping, up to its end. -/
def flowMembers? (tokens : List Token) : Option (Parsed (List (Node × Node)) tokens.length) :=
  match tokens with
  | .flowMappingEnd :: rest => some ⟨[], rest, Nat.lt_succ_self _⟩
  | tokens =>
    match flowMember? tokens with
    | none => none
    | some member =>
      match next : member.rest with
      | .flowMappingEnd :: rest => some ⟨[member.value], rest, Parsed.tail_within next⟩
      | .flowEntry :: rest =>
        have within := Parsed.tail_within next
        (flowMembers? rest).map (·.into (member.value :: ·) (Nat.le_of_lt within))
      | _ => none
termination_by (tokens.length, 2)

end

/-- The node that a document begins with, and what follows it.  A document may be empty. -/
def documentNode? (tokens : List Token) : Option (Node × List Token) :=
  match tokens with
  | [] | [.documentStart] => some (nothing, [])
  | .documentStart :: rest =>
    (orNothing? [.documentStart, .documentEnd] true false rest).map fun parsed =>
      (parsed.value, parsed.rest)
  | tokens => (ofTokens? true false tokens).map fun parsed => (parsed.value, parsed.rest)

/-- The node of a document without its markers.  Nothing but end markers may follow it. -/
def ofDocument? (tokens : List Token) : Option Node :=
  match documentNode? tokens with
  | some (node, rest) => if rest.all (· == .documentEnd) then some node else none
  | none => none

def ofText? (text : String) : Option Node :=
  Token.scan? text >>= ofDocument?

/-! ## Answers to readers -/

def textOf? : Node → Option String
  | .scalar text _ => some text
  | _ => none

def flagOf? : Node → Option Bool
  | .scalar text true => flag? text
  | _ => none

def integerOf? : Node → Option Int64
  | .scalar text true => integer? text.toList >>= Json.int64?
  | _ => none

def isAbsent : Node → Bool
  | .scalar text isPlain => isPlain && isNull text
  | _ => false

def itemsOf? : Node → Option (List Node)
  | .sequence items => some items
  | .scalar "" true => some []
  | _ => none

def entriesOf? : Node → Option (List (String × Node))
  | .mapping members => members.mapM fun (key, value) => (textOf? key).map (·, value)
  | .scalar "" true => some []
  | _ => none

/-- The notation has no way to name an alternative. -/
instance : Written Node where
  text? := textOf?
  flag? := flagOf?
  integer? := integerOf?
  isAbsent := isAbsent
  items? := itemsOf?
  entries? := entriesOf?
  fields? names source := entriesOf? source >>= pickFields names
  choice? _ := none

end Node

end Bindery.Yaml
