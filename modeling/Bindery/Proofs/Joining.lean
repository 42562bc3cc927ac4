import Bindery.Proofs.Pairing
import Bindery.Proofs.Parameters

/-!
# How arrays are joined with lengths

An array may be followed by a length that is an array itself and followed by another length, so
there can be several ways to join a parameter list.  Going from left to right takes one of those
that join the most, leaves nothing that could be joined, and changes nothing the second time.
-/

namespace Bindery.Sizing

/-- Whether the second list is the first one with some arrays joined with the lengths right after
them.  What is not joined is kept in its place, buffers included. -/
inductive Joined (marker : String) : List Argument → List Argument → Prop
  | nil : Joined marker [] []
  | keep (argument : Argument) {before after : List Argument} (rest : Joined marker before after) :
      Joined marker (argument :: before) (argument :: after)
  | join {data length : Parameter} {before after : List Argument}
      (paired : arePair marker data length = true) (rest : Joined marker before after) :
      Joined marker (.plain data :: .plain length :: before) (.buffer data length :: after)

variable {marker : String} {before after : List Argument}

theorem joined_pairLengths (marker : String) (params : List Argument) :
    Joined marker params (pairLengths marker params) := by
  induction params using pairLengths.induct marker with
  | case1 => exact .nil
  | case2 data length rest paired ih =>
      rw [pairLengths, if_pos paired]
      exact .join paired ih
  | case3 data length rest apart ih =>
      rw [pairLengths, if_neg apart]
      exact .keep _ ih
  | case4 argument rest noPair ih =>
      rw [pairLengths]
      · exact .keep _ ih
      · exact noPair

/-- Either an argument is kept and the rest is joined on its own, or it is joined with the one
after it. -/
theorem pairLengths_cons_cases (marker : String) (argument : Argument) (rest : List Argument) :
    pairLengths marker (argument :: rest) = argument :: pairLengths marker rest ∨
      ∃ data length others, argument = .plain data ∧ rest = .plain length :: others ∧
        pairLengths marker (argument :: rest) =
          .buffer data length :: pairLengths marker others := by
  match argument, rest with
  | .buffer data length, rest => exact .inl (by rw [pairLengths]; simp)
  | .plain data, [] => exact .inl (by simp [pairLengths])
  | .plain data, .buffer other length :: rest => exact .inl (by simp [pairLengths])
  | .plain data, .plain length :: others =>
      by_cases paired : arePair marker data length = true
      · exact .inr ⟨data, length, others, rfl, rfl, by rw [pairLengths, if_pos paired]⟩
      · exact .inl (by rw [pairLengths, if_neg paired])

/-- One argument more in front makes the result longer by one or leaves its length.  The first
argument of the rest may then be joined with it and free the one it was joined with before, which
is why both bounds are needed for each other. -/
theorem length_pairLengths_cons (marker : String) (argument : Argument) (rest : List Argument) :
    (pairLengths marker rest).length ≤ (pairLengths marker (argument :: rest)).length ∧
      (pairLengths marker (argument :: rest)).length ≤ (pairLengths marker rest).length + 1 := by
  induction rest generalizing argument with
  | nil =>
      rcases pairLengths_cons_cases marker argument [] with kept | ⟨_, _, _, -, impossible, -⟩
      · rw [kept, List.length_cons]
        omega
      · cases impossible
  | cons next others ih =>
      rcases pairLengths_cons_cases marker argument (next :: others) with
        kept | ⟨data, length, others, rfl, isNext, joined⟩
      · rw [kept, List.length_cons]
        omega
      · obtain ⟨rfl, rfl⟩ := List.cons.inj isNext
        have bounds := ih (.plain length)
        rw [joined, List.length_cons]
        omega

/-- No way of joining leads to a shorter list than going from left to right. -/
theorem Joined.length_pairLengths_le (joined : Joined marker before after) :
    (pairLengths marker before).length ≤ after.length := by
  induction joined with
  | nil => rfl
  | @keep argument rest after joined ih =>
      have bound := (length_pairLengths_cons marker argument rest).2
      rw [List.length_cons]
      omega
  | join paired rest ih =>
      rw [pairLengths, if_pos paired, List.length_cons, List.length_cons]
      omega

/-- Joining arrays with their lengths loses and reorders no parameter, keeps what is a buffer
already, and joins only what stands side by side.  It joins as much as any other way of joining, so
that nothing is left to join and doing it again changes nothing. -/
theorem joins_most_pairLengths (marker : String) (params : List Argument) :
    Joined marker params (pairLengths marker params) ∧
      (pairLengths marker params).flatMap Argument.flatten = params.flatMap Argument.flatten ∧
      (∀ other, Joined marker params other →
        (pairLengths marker params).length ≤ other.length) ∧
      Apart marker (pairLengths marker params) ∧
      pairLengths marker (pairLengths marker params) = pairLengths marker params := by
  have joined := joined_pairLengths marker params
  have apart := apart_pairLengths marker params
  exact ⟨joined, flatten_pairLengths marker params,
    fun _ other => other.length_pairLengths_le, apart, pairLengths_eq_of_apart apart⟩

end Bindery.Sizing
