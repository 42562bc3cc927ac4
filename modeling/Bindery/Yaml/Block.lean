import Bindery.Yaml.Placed

/-!
# Literal and folded scalars

A block scalar is a header and the lines below it that are indented at least as far as the first of
them.  In a literal scalar all breaks are kept, and in a folded one those between two lines of text
are spaces.
-/

namespace Bindery.Yaml

inductive Chomping where
  | strip
  | clip
  | keep
  deriving DecidableEq

/-- The break that ends the first line of the text, unless the text ends there. -/
def breakOfLine (text : List Placed) : List Char :=
  ((text.dropWhile (!·.isBreakOrEnd)).head?.filter (·.isBreak)).toList.map (·.char)

/-- What follows the first line of the text and its break. -/
def skipLine : List Placed → List Placed
  | [] => []
  | placed :: rest =>
    if placed.isBreak then rest
    else if placed.isEnd then placed :: rest
    else skipLine rest

theorem length_skipLine_le (text : List Placed) : (skipLine text).length ≤ text.length := by
  fun_induction skipLine text with
  | case1 => exact Nat.le_refl _
  | case2 => exact Nat.le_succ _
  | case3 => exact Nat.le_refl _
  | case4 _ _ _ _ ih => exact Nat.le_succ_of_le ih

theorem length_skipLine_lt {text : List Placed} (goesOn : headIs (!·.isEnd) text = true) :
    (skipLine text).length < text.length := by
  obtain ⟨first, rest, rfl, notEnd⟩ := exists_cons_of_headIs goesOn
  rw [Bool.not_eq_true'] at notEnd
  by_cases isBreak : first.isBreak
  · simp [skipLine, isBreak]
  · simpa [skipLine, isBreak, notEnd, Nat.lt_succ_iff] using length_skipLine_le rest

/-- What the text begins with, where that is an indicator of chomping. -/
def readChomping (text : List Placed) : Option Chomping × List Placed :=
  if headIs (·.char == '+') text then (some .keep, text.tail)
  else if headIs (·.char == '-') text then (some .strip, text.tail)
  else (none, text)

/-- The digit that the text begins with, if it does. -/
def readIncrement : List Placed → Option Nat × List Placed
  | [] => (none, [])
  | placed :: rest =>
    if placed.char.isDigit then (some (placed.char.toNat - '0'.toNat), rest)
    else (none, placed :: rest)

theorem length_readChomping_le (text : List Placed) :
    (readChomping text).2.length ≤ text.length := by
  have shorter := text.tail_sublist.length_le
  fun_cases readChomping text with
  | case1 => exact shorter
  | case2 => exact shorter
  | case3 => exact Nat.le_refl _

theorem length_readIncrement_le (text : List Placed) :
    (readIncrement text).2.length ≤ text.length := by
  fun_cases readIncrement text with
  | case1 => exact Nat.le_refl _
  | case2 => exact Nat.le_succ _
  | case3 => exact Nat.le_refl _

/-- The header of a block scalar: what happens to its final breaks, and its indentation if that is
given.  The two come in either order. -/
def blockHeader? (text : List Placed) : Option (Chomping × Option Nat × List Placed) :=
  let early := readChomping text
  let increment := readIncrement early.2
  let late := if early.1.isNone then readChomping increment.2 else (none, increment.2)
  let rest := late.2.dropWhile (·.isBlank)
  if increment.1 = some 0 || !headIs (fun placed => placed.isBreakOrEnd || placed.char == '#') rest
    then none
  else some ((early.1.or late.1).getD .clip, increment.1, skipLine rest)

/-- The empty lines before the next line of a block scalar: their breaks, the widest column
reached, and what follows.  Without a known indentation every space belongs to it, and a tab in it
is refused. -/
def emptyLines? (indent : Option Nat) (widest : Nat) :
    List Placed → Option (List Char × Nat × List Placed)
  | [] => some ([], widest, [])
  | placed :: rest =>
    let inIndent := indent.all (placed.column < ·)
    let reached := max widest placed.column
    if inIndent && placed.char == ' ' then emptyLines? indent widest rest
    else if inIndent && placed.char == '\t' then none
    else if placed.isBreak then
      (emptyLines? indent reached rest).map fun (breaks, after) => (placed.char :: breaks, after)
    else some ([], reached, placed :: rest)

theorem length_le_of_emptyLines {indent : Option Nat} {widest reached : Nat}
    {text rest : List Placed} {breaks : List Char}
    (read : emptyLines? indent widest text = some (breaks, reached, rest)) :
    rest.length ≤ text.length := by
  fun_induction emptyLines? indent widest text generalizing breaks with
  | case1 => simp_all
  | case2 =>
    rename_i ih
    exact Nat.le_succ_of_le (ih read)
  | case3 => simp at read
  | case4 =>
    rename_i ih
    obtain ⟨_, inner, _⟩ := by simpa using read
    exact Nat.le_succ_of_le (ih inner)
  | case5 => simp_all

/-- How the break after a line is read: in a folded scalar it is a space between two lines that
start with no blank, unless empty lines follow. -/
def joinLines (isLiteral wasBlank isBlank : Bool) (lineBreak emptyBreaks : List Char) :
    List Char :=
  if !isLiteral && lineBreak = ['\n'] && !wasBlank && !isBlank then
    if emptyBreaks.isEmpty then [' '] else emptyBreaks
  else lineBreak ++ emptyBreaks

/-- The lines of a block scalar.  `wasBlank` tells whether the line before starts with a blank,
`lineBreak` is the break after that line, and `emptyBreaks` are those of the empty lines after
it. -/
def blockLines? (isLiteral : Bool) (chomping : Chomping) (indent : Nat) (wasBlank : Bool)
    (lineBreak emptyBreaks : List Char) (text : List Placed) : Option (List Char × List Placed) :=
  if starts : headColumn text = indent ∧ headIs (!·.isEnd) text then
    let isBlank := headIs (·.isBlank) text
    let line := (text.takeWhile (!·.isBreakOrEnd)).map (·.char)
    match found : emptyLines? (some indent) 0 (skipLine text) with
    | none => none
    | some (breaks, _, next) =>
      have := Nat.lt_of_le_of_lt (length_le_of_emptyLines found) (length_skipLine_lt starts.2)
      (blockLines? isLiteral chomping indent isBlank (breakOfLine text) breaks next).map
        fun (lines, rest) =>
          (joinLines isLiteral wasBlank isBlank lineBreak emptyBreaks ++ line ++ lines, rest)
  else
    match chomping with
    | .strip => some ([], text)
    | .clip => some (lineBreak, text)
    | .keep => some (lineBreak ++ emptyBreaks, text)
termination_by text.length

/-- A literal or folded scalar after its indicator, inside a collection that is indented by
`parent`. -/
def block? (isLiteral : Bool) (parent : Option Nat) (text : List Placed) :
    Option (List Char × List Placed) := do
  let (chomping, increment, rest) ← blockHeader? text
  let given := increment.map (parent.getD 0 + ·)
  let (breaks, widest, next) ← emptyLines? given 0 rest
  let least := max 1 (parent.elim 0 (· + 1))
  blockLines? isLiteral chomping (given.getD (max widest least)) false [] breaks next

theorem length_le_of_blockHeader {text rest : List Placed} {chomping : Chomping}
    {increment : Option Nat} (read : blockHeader? text = some (chomping, increment, rest)) :
    rest.length ≤ text.length := by
  simp only [blockHeader?, Option.ite_none_left_eq_some, Option.some.injEq, Prod.mk.injEq] at read
  obtain ⟨-, -, -, rfl⟩ := read
  have twoParts := Nat.le_trans (length_readIncrement_le (readChomping text).2)
    (length_readChomping_le text)
  refine Nat.le_trans (length_skipLine_le _) (Nat.le_trans (List.dropWhile_sublist _).length_le ?_)
  split
  · exact Nat.le_trans (length_readChomping_le _) twoParts
  · exact twoParts

theorem length_le_of_blockLines {isLiteral wasBlank : Bool} {chomping : Chomping} {indent : Nat}
    {lineBreak emptyBreaks lines : List Char} {text rest : List Placed}
    (read : blockLines? isLiteral chomping indent wasBlank lineBreak emptyBreaks text
      = some (lines, rest)) : rest.length ≤ text.length := by
  fun_induction blockLines? isLiteral chomping indent wasBlank lineBreak emptyBreaks text
    generalizing lines with
  | case1 => simp at read
  | case2 =>
    rename_i shorter ih
    obtain ⟨_, inner, _⟩ := by simpa using read
    exact Nat.le_trans (ih inner) (Nat.le_of_lt shorter)
  | case3 => simp_all
  | case4 => simp_all
  | case5 => simp_all

theorem length_le_of_block {isLiteral : Bool} {parent : Option Nat} {text rest : List Placed}
    {content : List Char} (read : block? isLiteral parent text = some (content, rest)) :
    rest.length ≤ text.length := by
  obtain ⟨_, _, afterHeader, header, _, _, next, empty, lines⟩ := by
    simpa [block?, Option.bind_eq_some_iff] using read
  exact Nat.le_trans (length_le_of_blockLines lines)
    (Nat.le_trans (length_le_of_emptyLines empty) (length_le_of_blockHeader header))

end Bindery.Yaml
