import Bindery.Yaml.Placed

/-!
# Unquoted scalars

An unquoted scalar is a run of words with gaps between them.  It ends where something else could
begin: at a comment, a colon with a blank after it, a line that is indented too little, or, inside
flow collections, at their marks.
-/

namespace Bindery.Yaml

def flowIndicators : List Char :=
  [',', '[', ']', '\x7b', '\x7d']

/-- Whether an unquoted scalar ends here, which in flow collections it does at their marks too. -/
def endsPlain (inFlow : Bool) (text : List Placed) : Bool :=
  startsMarked ':' text || (inFlow && headIs (flowIndicators.contains ·.char) text)

/-- A colon right before a mark of a flow collection can not be told from a value without a
key. -/
def isDoubtfulColon (inFlow : Bool) (text : List Placed) : Bool :=
  match text with
  | first :: second :: _ =>
    inFlow && first.char == ':' && ('?' :: flowIndicators).contains second.char
  | _ => false

/-- One word of an unquoted scalar, and what follows it. -/
def plainWord? (inFlow : Bool) : List Placed → Option (List Char × List Placed)
  | [] => some ([], [])
  | placed :: rest =>
    if placed.isSeparator then some ([], placed :: rest)
    else if isDoubtfulColon inFlow (placed :: rest) then none
    else if endsPlain inFlow (placed :: rest) then some ([], placed :: rest)
    else (plainWord? inFlow rest).map fun (word, after) => (placed.char :: word, after)

theorem length_le_of_plainWord {inFlow : Bool} {text rest : List Placed} {word : List Char}
    (read : plainWord? inFlow text = some (word, rest)) : rest.length ≤ text.length := by
  fun_induction plainWord? inFlow text generalizing word with
  | case1 => simp_all
  | case2 => simp_all
  | case3 => simp at read
  | case4 => simp_all
  | case5 placed others _ _ _ ih =>
    obtain ⟨_, inner, _⟩ := by simpa using read
    exact Nat.le_succ_of_le (ih inner)

/-- Whether a line of the gap is indented by a tab. -/
def hasTabIndent (indent : Nat) (gap : List Placed) : Bool :=
  (gap.dropWhile (!·.isBreak)).any fun placed => placed.char == '\t' && placed.column < indent

/-- Whether an unquoted scalar ends before the text that follows a gap. -/
def endsAfterGap (inFlow : Bool) (indent : Nat) (text : List Placed) : Bool :=
  (!inFlow && headColumn text < indent) || startsMarker text || headIs (·.char == '#') text
    || headIs (·.isEnd) text || endsPlain inFlow text

/-- The words of an unquoted scalar whose further lines are indented by at least `indent`.  Tells
also whether a line ended after the last word. -/
def plain? (inFlow : Bool) (indent : Nat) (text : List Placed) :
    Option (List Char × Bool × List Placed) :=
  match read : plainWord? inFlow text with
  | none => none
  | some (word, after) =>
    if starts : headIs (·.isGap) after then
      have := Nat.lt_of_lt_of_le (length_skipGap_lt starts) (length_le_of_plainWord read)
      if hasTabIndent indent (gapOf after) then none
      else if endsAfterGap inFlow indent (skipGap after) then
        some (word, (gapOf after).any (·.isBreak), skipGap after)
      else
        (plain? inFlow indent (skipGap after)).map fun (words, crossesLine, rest) =>
          (word ++ gapText (gapOf after) ++ words, crossesLine, rest)
    else some (word, false, after)
termination_by text.length

theorem length_le_of_plain {inFlow crossesLine : Bool} {indent : Nat} {text rest : List Placed}
    {words : List Char} (read : plain? inFlow indent text = some (words, crossesLine, rest)) :
    rest.length ≤ text.length := by
  fun_induction plain? inFlow indent text generalizing words with
  | case1 => simp at read
  | case2 => simp at read
  | case3 =>
    rename_i shorter _ _
    obtain ⟨_, _, rfl⟩ := by simpa using read
    exact Nat.le_of_lt shorter
  | case4 =>
    rename_i shorter _ _ ih
    obtain ⟨⟨_, _, _⟩, inner, same⟩ := Option.map_eq_some_iff.1 read
    cases same
    exact Nat.le_trans (ih inner) (Nat.le_of_lt shorter)
  | case5 =>
    rename_i found _
    obtain ⟨rfl, rfl, rfl⟩ := by simpa using read
    exact length_le_of_plainWord found

end Bindery.Yaml
