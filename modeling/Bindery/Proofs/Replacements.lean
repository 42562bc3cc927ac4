import Bindery.Proofs.Formation

/-!
# Replacing a marker in a name

An occurrence of a pattern that has no border overlaps with no other occurrence.  So replacing the
pattern everywhere in a text replaces a given occurrence, and what there is to replace before and
after it.  Taking the pattern out therefore takes out just the given occurrence only if there is no
other one.
-/

namespace Bindery.Text

namespace Chars

/-- Whether no proper suffix of a pattern is also a prefix of it. -/
def Unbordered (pattern : List Char) : Prop :=
  pattern ≠ [] ∧ ∀ length, length < pattern.length → 0 < length →
    ¬pattern.drop length <+: pattern

instance (pattern : List Char) : Decidable (Unbordered pattern) :=
  inferInstanceAs (Decidable (_ ∧ _))

variable {pattern replacement front back text : List Char}

namespace Unbordered

theorem isEmpty_eq_false (unbordered : Unbordered pattern) : pattern.isEmpty = false :=
  List.isEmpty_eq_false_iff.2 unbordered.1

/-- An occurrence at the start is the given one, or lies before it. -/
theorem isPrefixOf_append (unbordered : Unbordered pattern) (notEmpty : front ≠ [])
    (back : List Char) :
    pattern.isPrefixOf (front ++ (pattern ++ back)) = pattern.isPrefixOf front := by
  rw [Bool.eq_iff_iff, List.isPrefixOf_iff_prefix, List.isPrefixOf_iff_prefix]
  refine ⟨fun isHere => ?_, fun isHere => isHere.trans (List.prefix_append _ _)⟩
  rcases Nat.lt_or_ge front.length pattern.length with short | long
  · have isPrefix : front <+: pattern :=
      List.prefix_of_prefix_length_le (List.prefix_append _ _) isHere (Nat.le_of_lt short)
    obtain ⟨rest, rfl⟩ := isPrefix
    have bordered : rest <+: front ++ rest := by
      have overlap : rest <+: front ++ rest ++ back := (List.prefix_append_right_inj front).1 isHere
      exact List.prefix_of_prefix_length_le overlap (List.prefix_append _ _)
        (List.length_append ▸ Nat.le_add_left _ _)
    refine absurd ?_ (unbordered.2 front.length short (List.length_pos_iff.2 notEmpty))
    rwa [List.drop_left]
  · exact List.prefix_of_prefix_length_le isHere (List.prefix_append _ _) long

end Unbordered

theorem replaceFrom_nil (notEmpty : pattern.isEmpty = false) (skipped : Nat) :
    replaceFrom pattern replacement skipped [] = [] := by
  cases skipped <;> simp [replaceFrom, notEmpty]

theorem replaceFrom_append_of_skipped (front back : List Char) :
    replaceFrom pattern replacement front.length (front ++ back) =
      replaceFrom pattern replacement 0 back := by
  induction front with
  | nil => rfl
  | cons first rest ih => exact ih

/-- Replacing around an occurrence, from some place before it on. -/
theorem replaceFrom_append (unbordered : Unbordered pattern) {skipped : Nat}
    (within : skipped ≤ front.length) :
    replaceFrom pattern replacement skipped (front ++ (pattern ++ back)) =
      replaceFrom pattern replacement skipped front ++
        (replacement ++ replaceFrom pattern replacement 0 back) := by
  have notEmpty := unbordered.isEmpty_eq_false
  induction front generalizing skipped with
  | nil =>
      obtain rfl : skipped = 0 := Nat.le_zero.1 within
      rw [replaceFrom_nil notEmpty]
      obtain ⟨first, rest, rfl⟩ := List.exists_cons_of_ne_nil unbordered.1
      have isHere : (first :: rest).isPrefixOf (first :: (rest ++ back)) = true :=
        List.isPrefixOf_iff_prefix.2 (List.prefix_append (first :: rest) back)
      rw [List.nil_append, List.cons_append, replaceFrom, if_neg (by simp), if_pos isHere]
      exact congrArg (replacement ++ ·) (replaceFrom_append_of_skipped rest back)
  | cons first rest ih =>
      cases skipped with
      | succ skipped => exact ih (Nat.le_of_succ_le_succ within)
      | zero =>
          have sameHere := unbordered.isPrefixOf_append (List.cons_ne_nil first rest) back
          rw [List.cons_append] at sameHere ⊢
          rw [replaceFrom, replaceFrom, notEmpty, sameHere]
          split
          · contradiction
          · split
            · rename_i isHere
              have fits : pattern.length ≤ rest.length + 1 :=
                (List.isPrefixOf_iff_prefix.1 isHere).length_le
              rw [ih (by omega), List.append_assoc]
            · rw [ih (Nat.zero_le _)]
              rfl

theorem length_replaceFrom_le (notEmpty : pattern.isEmpty = false) (skipped : Nat)
    (text : List Char) : (replaceFrom pattern [] skipped text).length ≤ text.length - skipped := by
  induction text generalizing skipped with
  | nil => simp [replaceFrom_nil notEmpty]
  | cons first rest ih =>
      cases skipped with
      | succ skipped =>
          have shorter := ih skipped
          simpa [replaceFrom] using shorter
      | zero =>
          rw [replaceFrom, notEmpty]
          split
          · contradiction
          · split
            · have shorter := ih (pattern.length - 1)
              rw [List.nil_append, List.length_cons]
              omega
            · have shorter := ih 0
              rw [List.length_cons, List.length_cons]
              omega

/-- Taking a pattern out of a text that has it makes the text shorter. -/
theorem length_replaceFrom_lt (notEmpty : pattern.isEmpty = false) (occurs : pattern <:+: text) :
    (replaceFrom pattern [] 0 text).length < text.length := by
  induction text with
  | nil =>
      rw [List.infix_nil.1 occurs] at notEmpty
      cases notEmpty
  | cons first rest ih =>
      rw [replaceFrom, notEmpty]
      split
      · contradiction
      · split
        · have shorter := length_replaceFrom_le notEmpty (pattern.length - 1) rest
          rw [List.nil_append, List.length_cons]
          omega
        · rename_i notHere
          have later : pattern <:+: rest := by
            rcases List.infix_cons_iff.1 occurs with isHere | later
            · exact absurd (List.isPrefixOf_iff_prefix.2 isHere) notHere
            · exact later
          have shorter := ih later
          rw [List.length_cons, List.length_cons]
          omega

end Chars

/-- Whether a marker can not overlap with itself. -/
def Unbordered (pattern : String) : Prop :=
  Chars.Unbordered pattern.toList

instance (pattern : String) : Decidable (Unbordered pattern) :=
  inferInstanceAs (Decidable (Chars.Unbordered _))

variable {pattern front back : String}

theorem contains_append (front pattern back : String) :
    contains (front ++ pattern ++ back) pattern = true := by
  rw [contains_iff, String.toList_append, String.toList_append]
  exact List.infix_append _ _ _

/-- Replacing a marker everywhere replaces it around each of its occurrences. -/
theorem replaceAll_append (unbordered : Unbordered pattern) (replacement : String) :
    replaceAll (front ++ pattern ++ back) pattern replacement =
      replaceAll front pattern replacement ++ replacement ++
        replaceAll back pattern replacement := by
  have around := @Chars.replaceFrom_append _ replacement.toList front.toList back.toList unbordered
    0 (Nat.zero_le _)
  simp only [replaceAll, String.toList_append, around, String.ofList_append,
    String.ofList_toList, String.append_assoc]

/-- A marker without other occurrences is replaced by itself. -/
theorem replaceAll_append_of_absent (unbordered : Unbordered pattern) (replacement : String)
    (before : contains front pattern = false) (after : contains back pattern = false) :
    replaceAll (front ++ pattern ++ back) pattern replacement = front ++ replacement ++ back := by
  rw [replaceAll_append unbordered, replaceAll_eq_self _ before, replaceAll_eq_self _ after]

theorem length_replaceAll_le (unbordered : Unbordered pattern) (text : String) :
    (replaceAll text pattern "").length ≤ text.length := by
  rw [replaceAll, String.length_ofList, ← String.length_toList]
  exact Chars.length_replaceFrom_le unbordered.isEmpty_eq_false 0 text.toList

theorem length_replaceAll_lt {text : String} (unbordered : Unbordered pattern)
    (occurs : contains text pattern = true) :
    (replaceAll text pattern "").length < text.length := by
  rw [replaceAll, String.length_ofList, ← String.length_toList]
  exact Chars.length_replaceFrom_lt unbordered.isEmpty_eq_false (contains_iff.1 occurs)

/-- Taking a marker out takes out one occurrence only if there is no other one. -/
theorem replaceAll_append_eq_iff (unbordered : Unbordered pattern) :
    replaceAll (front ++ pattern ++ back) pattern "" = front ++ back ↔
      contains front pattern = false ∧ contains back pattern = false := by
  refine ⟨fun same => ?_, fun ⟨before, after⟩ => ?_⟩
  · rw [replaceAll_append unbordered] at same
    have lengths := congrArg String.length same
    simp only [String.length_append, String.length_empty] at lengths
    have frontLength := length_replaceAll_le unbordered front
    have backLength := length_replaceAll_le unbordered back
    refine ⟨Bool.eq_false_of_not_eq_true fun occurs => ?_,
      Bool.eq_false_of_not_eq_true fun occurs => ?_⟩
    · have shorter := length_replaceAll_lt unbordered occurs
      omega
    · have shorter := length_replaceAll_lt unbordered occurs
      omega
  · rw [replaceAll_append_of_absent unbordered "" before after, String.append_empty]

end Bindery.Text
