/-!
# Searching in texts

Prefixes, suffixes, first occurrences and replacement, on lists of characters and on the strings
they spell.  The empty pattern is a pattern like any other: it is a prefix and a suffix of every
text, it occurs first at the very start, and replacing it touches every gap between characters.
-/

namespace Bindery.Text

namespace Chars

/-- What is left after a leading `pattern`. -/
def dropPrefix? (pattern text : List Char) : Option (List Char) :=
  if pattern.isPrefixOf text then some (text.drop pattern.length) else none

/-- What is left before a trailing `pattern`. -/
def dropSuffix? (pattern text : List Char) : Option (List Char) :=
  if pattern.isSuffixOf text then some (text.take (text.length - pattern.length)) else none

/-- The text before and after the first occurrence of `pattern`. -/
def splitAtFirst? (pattern : List Char) : List Char → Option (List Char × List Char)
  | [] => if pattern.isEmpty then some ([], []) else none
  | c :: rest =>
    match dropPrefix? pattern (c :: rest) with
    | some after => some ([], after)
    | none => (splitAtFirst? pattern rest).map fun (before, after) => (c :: before, after)

/-- Replaces every occurrence of `pattern` from left to right, after passing over the first
`skipped` characters, which belong to an occurrence that is already replaced. -/
def replaceFrom (pattern replacement : List Char) : Nat → List Char → List Char
  | _, [] => if pattern.isEmpty then replacement else []
  | skipped + 1, _ :: rest => replaceFrom pattern replacement skipped rest
  | 0, c :: rest =>
    if pattern.isEmpty then
      replacement ++ c :: replaceFrom pattern replacement 0 rest
    else if pattern.isPrefixOf (c :: rest) then
      replacement ++ replaceFrom pattern replacement (pattern.length - 1) rest
    else
      c :: replaceFrom pattern replacement 0 rest

theorem dropPrefix?_eq_some {pattern text rest : List Char}
    (found : dropPrefix? pattern text = some rest) : text = pattern ++ rest := by
  unfold dropPrefix? at found
  split at found
  · rename_i isPrefix
    obtain ⟨tail, rfl⟩ := List.isPrefixOf_iff_prefix.1 isPrefix
    simp_all
  · simp at found

theorem dropSuffix?_eq_some {pattern text rest : List Char}
    (found : dropSuffix? pattern text = some rest) : text = rest ++ pattern := by
  unfold dropSuffix? at found
  split at found
  · rename_i isSuffix
    obtain ⟨head, rfl⟩ := List.isSuffixOf_iff_suffix.1 isSuffix
    simp_all
  · simp at found

/-- Splitting loses nothing: the two parts and the pattern between them make up the text. -/
theorem splitAtFirst?_eq_some {pattern text before after : List Char}
    (found : splitAtFirst? pattern text = some (before, after)) :
    text = before ++ pattern ++ after := by
  induction text generalizing before with
  | nil =>
      simp only [splitAtFirst?] at found
      split at found <;> simp_all
  | cons c rest ih =>
      simp only [splitAtFirst?] at found
      split at found
      · rename_i isPrefix
        simp only [Option.some.injEq, Prod.mk.injEq] at found
        obtain ⟨rfl, rfl⟩ := found
        simpa using dropPrefix?_eq_some isPrefix
      · simp only [Option.map_eq_some_iff, Prod.mk.injEq, Prod.exists] at found
        obtain ⟨head, tail, split, rfl, rfl⟩ := found
        simp [ih split]

theorem splitAtFirst?_isSome_iff {pattern text : List Char} :
    (splitAtFirst? pattern text).isSome = true ↔ pattern <:+: text := by
  constructor
  · intro found
    obtain ⟨⟨before, after⟩, split⟩ := Option.isSome_iff_exists.1 found
    exact ⟨before, after, (splitAtFirst?_eq_some split).symm⟩
  · intro ⟨before, after, spelled⟩
    induction before generalizing text with
    | nil =>
        subst spelled
        cases pattern with
        | nil => cases after <;> simp [splitAtFirst?, dropPrefix?]
        | cons first rest => simp [splitAtFirst?, dropPrefix?]
    | cons c before ih =>
        subst spelled
        simp only [List.cons_append, splitAtFirst?]
        split
        · rfl
        · simpa using ih rfl

end Chars

def startsWith (text pattern : String) : Bool :=
  pattern.toList.isPrefixOf text.toList

def endsWith (text pattern : String) : Bool :=
  pattern.toList.isSuffixOf text.toList

def contains (text pattern : String) : Bool :=
  (Chars.splitAtFirst? pattern.toList text.toList).isSome

def dropPrefix? (text pattern : String) : Option String :=
  (Chars.dropPrefix? pattern.toList text.toList).map String.ofList

def dropSuffix? (text pattern : String) : Option String :=
  (Chars.dropSuffix? pattern.toList text.toList).map String.ofList

/-- Everything after the first occurrence of `marker`, or the whole text where it does not occur.
`friend_get_status_message` with `get_` gives `status_message`. -/
def afterFirst (text marker : String) : String :=
  match Chars.splitAtFirst? marker.toList text.toList with
  | some (_, after) => String.ofList after
  | none => text

/-- Replaces the first occurrence of `pattern` only. -/
def replaceFirst (text pattern replacement : String) : String :=
  match Chars.splitAtFirst? pattern.toList text.toList with
  | some (before, after) => String.ofList (before ++ replacement.toList ++ after)
  | none => text

/-- Replaces every occurrence of `pattern`; an empty one stands before every character and at the
end. -/
def replaceAll (text pattern replacement : String) : String :=
  String.ofList (Chars.replaceFrom pattern.toList replacement.toList 0 text.toList)

theorem startsWith_iff {text pattern : String} :
    startsWith text pattern = true ↔ pattern.toList <+: text.toList :=
  List.isPrefixOf_iff_prefix

theorem endsWith_iff {text pattern : String} :
    endsWith text pattern = true ↔ pattern.toList <:+ text.toList :=
  List.isSuffixOf_iff_suffix

theorem contains_iff {text pattern : String} :
    contains text pattern = true ↔ pattern.toList <:+: text.toList :=
  Chars.splitAtFirst?_isSome_iff

end Bindery.Text
