import Bindery.Proofs.Types
import Mathlib.Data.List.Chain

/-!
# Arrays that stand apart from lengths

Once the arrays of a parameter list are joined with the lengths beside them, nothing is left to
join.  Most of what happens to the list later on keeps it so: an array that learns its size asks
for no length any more, and a number handle that becomes a reference loses the end of its name but
gains nothing that reads like a length.
-/

namespace Bindery

namespace Text

theorem contains_of_dropSuffix? {text suffix base pattern : String}
    (found : dropSuffix? text suffix = some base) (inBase : contains base pattern = true) :
    contains text pattern = true := by
  rw [contains_iff] at inBase ⊢
  rw [dropSuffix?_eq_some found, String.toList_append]
  exact inBase.trans (List.prefix_append _ _).isInfix

end Text

namespace Sizing

variable {settings : Settings} {marker : String} {params changed : List Argument}

/-- Whether two arguments that follow each other would be joined. -/
def joins (marker : String) : Argument → Argument → Bool
  | .plain data, .plain length => arePair marker data length
  | _, _ => false

/-- Whether there is nothing to join in a parameter list. -/
def Apart (marker : String) (params : List Argument) : Prop :=
  params.IsChain fun left right => joins marker left right = false

instance : Decidable (Apart marker params) :=
  inferInstanceAs (Decidable (List.IsChain _ _))

theorem joins_head_pairLengths {left : Argument} {rest : List Argument}
    (apart : ∀ right ∈ rest.head?, joins marker left right = false) :
    ∀ right ∈ (pairLengths marker rest).head?, joins marker left right = false := by
  intro right isHead
  induction rest using pairLengths.induct marker with
  | case1 => cases isHead
  | case2 data length others paired ih =>
      rw [pairLengths, if_pos paired] at isHead
      obtain rfl := Option.some.inj isHead
      cases left <;> rfl
  | case3 data length others unpaired ih =>
      rw [pairLengths, if_neg unpaired] at isHead
      obtain rfl := Option.some.inj isHead
      exact apart _ rfl
  | case4 argument others noPair ih =>
      rw [pairLengths] at isHead
      · obtain rfl := Option.some.inj isHead
        exact apart _ rfl
      · exact noPair

/-- Joining leaves nothing to join. -/
theorem apart_pairLengths (marker : String) (params : List Argument) :
    Apart marker (pairLengths marker params) := by
  induction params using pairLengths.induct marker with
  | case1 => exact .nil
  | case2 data length rest paired ih =>
      rw [pairLengths, if_pos paired]
      exact List.isChain_cons.2 ⟨fun _ _ => rfl, ih⟩
  | case3 data length rest unpaired ih =>
      rw [pairLengths, if_neg unpaired]
      refine List.isChain_cons.2 ⟨joins_head_pairLengths fun right isHead => ?_, ih⟩
      obtain rfl := Option.some.inj isHead
      simpa [joins] using unpaired
  | case4 argument rest noPair ih =>
      rw [pairLengths]
      · refine List.isChain_cons.2 ⟨joins_head_pairLengths fun right isHead => ?_, ih⟩
        obtain ⟨others, rfl⟩ := List.head?_eq_some_iff.1 isHead
        cases argument with
        | buffer data length => rfl
        | plain data =>
            cases right with
            | buffer _ _ => rfl
            | plain length => exact absurd rfl (noPair data length others rfl)
      · exact noPair

/-- Where there is nothing to join, nothing is joined. -/
theorem pairLengths_eq_of_apart (apart : Apart marker params) :
    pairLengths marker params = params := by
  induction params using pairLengths.induct marker with
  | case1 => rfl
  | case2 data length rest paired ih =>
      have unpaired : arePair marker data length = false := (List.isChain_cons.1 apart).1 _ rfl
      simp [unpaired] at paired
  | case3 data length rest unpaired ih =>
      rw [pairLengths, if_neg unpaired, ih (List.isChain_cons.1 apart).2]
  | case4 argument rest noPair ih =>
      rw [pairLengths]
      · rw [ih (List.isChain_cons.1 apart).2]
      · exact noPair

/-! ## What keeps them apart -/

/-- Whether an argument is still the first or second of a pair only where it was so before. -/
def Parts (marker : String) (before after : Argument) : Prop :=
  ∀ parameter, after = .plain parameter → ∃ declared, before = .plain declared ∧
    (Text.contains parameter.name marker = true → Text.contains declared.name marker = true) ∧
    (parameter.type.isArray && parameter.type.sizeGetter?.isNone) ≤
      (declared.type.isArray && declared.type.sizeGetter?.isNone)

theorem Parts.refl (argument : Argument) : Parts marker argument argument :=
  fun parameter same => ⟨parameter, same, fun named => named, le_refl _⟩

theorem joins_of_parts {left right before after : Argument} (first : Parts marker left before)
    (second : Parts marker right after) (joined : joins marker before after = true) :
    joins marker left right = true := by
  cases before with
  | buffer _ _ => cases joined
  | plain data =>
      cases after with
      | buffer _ _ => cases joined
      | plain length =>
          obtain ⟨declaredData, rfl, -, unsized⟩ := first data rfl
          obtain ⟨declaredLength, rfl, named, -⟩ := second length rfl
          rw [joins, arePair, Bool.and_eq_true_iff] at joined ⊢
          exact ⟨Bool.eq_true_of_true_le (joined.1 ▸ unsized), named joined.2⟩

theorem Apart.forall₂ (apart : Apart marker params)
    (pointwise : List.Forall₂ (Parts marker) params changed) : Apart marker changed := by
  induction pointwise with
  | nil => exact .nil
  | @cons left before rest others parts pointwise ih =>
      obtain ⟨head, tail⟩ := List.isChain_cons.1 apart
      refine List.isChain_cons.2 ⟨fun after isHead => ?_, ih tail⟩
      cases pointwise with
      | nil => cases isHead
      | @cons right _ _ _ following _ =>
          obtain rfl := Option.some.inj isHead
          have unjoined := head right rfl
          by_contra joined
          simp [joins_of_parts parts following (Bool.eq_true_of_not_eq_false joined)] at unjoined

theorem Apart.mapParameter {position : Nat} {accessor : SizeAccessor} (apart : Apart marker params)
    (unsized : params[position]?.any (·.isUnsizedBuffer) = true) :
    Apart marker (params.modify position (·.mapPlain fun parameter =>
      { parameter with type := { parameter.type with sizeAccessor := some accessor } })) := by
  refine apart.forall₂ (forall₂_modify Parts.refl fun argument found => ?_)
  rw [found, Option.any_some] at unsized
  cases argument with
  | buffer data length => exact .refl _
  | plain declared =>
      intro parameter same
      obtain rfl := Argument.plain.inj same
      refine ⟨declared, rfl, fun named => named, ?_⟩
      have none : declared.type.sizeAccessor = none := by
        simpa [Argument.isUnsizedBuffer, Argument.plain?] using (Bool.and_eq_true_iff.1 unsized).2
      have open_ : declared.type.sizeGetter? = Option.none := by
        rw [ValueType.sizeGetter?, none]
      rw [open_]
      simpa using Bool.and_le_left _ _

theorem Apart.refer (apart : Apart marker params)
    (pointwise : List.Forall₂ (Refers settings) params changed) : Apart marker changed := by
  refine apart.forall₂ (pointwise.imp fun before after refers => ?_)
  rcases refers with rfl | ⟨declared, base, rfl, isBase, rfl⟩
  · exact .refl _
  · intro parameter same
    obtain rfl := Argument.plain.inj same
    exact ⟨declared, rfl, Text.contains_of_dropSuffix? isBase, le_refl _⟩

end Sizing

end Bindery
