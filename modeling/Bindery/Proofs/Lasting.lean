import Bindery.Proofs.Converted
import Bindery.Proofs.Finished
import Bindery.Proofs.Parameters
import Bindery.Proofs.Reach

/-!
# Buffers that stay sized

Later headers go through all methods of earlier ones again.  What a buffer has learned of its size
it keeps, be it returned, passed, or joined with its length, unless the method loses a parameter.
That happens to few: a method whose first parameter still reads like a number handle, and one that
returns the scalar void or bool and still takes an array.  The latter may be a getter that returns
an array of truth values of known size, which then gives way to another buffer.
-/

namespace Bindery

variable {settings : Settings} {kind : MoveKind} {kinds : Set MoveKind} {draft final : Draft}
  {function changed original current : Function} {c : ClassId} {id : FunctionId}

/-! ## What lasts -/

/-- Whether an argument is the same buffer with a length, or a plain parameter that still has the
accessor that it had. -/
inductive Argument.Lasts (settings : Settings) : Argument → Argument → Prop
  | buffer (data length : Parameter) : Lasts settings (.buffer data length) (.buffer data length)
  | plain {declared current : Parameter} (stems : declared.Stems settings current)
      (sized : declared.type.sizeAccessor.isSome = true →
        current.type.sizeAccessor = declared.type.sizeAccessor) :
      Lasts settings (.plain declared) (.plain current)

namespace Argument.Lasts

theorem refl (settings : Settings) (argument : Argument) : argument.Lasts settings argument := by
  cases argument with
  | plain parameter => exact .plain (.refl parameter) fun _ => rfl
  | buffer data length => exact .buffer data length

end Argument.Lasts

theorem Argument.lasts_trans (settings : Settings) (first second third : Argument)
    (left : first.Lasts settings second) (right : second.Lasts settings third) :
    first.Lasts settings third := by
  cases left with
  | buffer data length => exact right
  | plain stems sized =>
      cases right with
      | plain stems' sized' =>
          refine .plain (stems.trans stems') fun isSized => ?_
          have same := sized isSized
          rw [← same]
          exact sized' (same ▸ isSized)

/-- Whether a return still has the accessor that it had, and stands in for the same type. -/
structure Return.Lasts (before after : Return) : Prop where
  type : before.type.Stems after.type
  sized : before.type.sizeAccessor.isSome = true →
    after.type.sizeAccessor = before.type.sizeAccessor
  replaced : after.replaced = before.replaced
  promotedFrom : after.promotedFrom = before.promotedFrom

namespace Return.Lasts

theorem refl (ret : Return) : ret.Lasts ret :=
  ⟨.refl _, fun _ => rfl, rfl, rfl⟩

theorem trans {first second third : Return} (left : first.Lasts second)
    (right : second.Lasts third) : first.Lasts third where
  type := left.type.trans right.type
  sized := by
    intro isSized
    have same := left.sized isSized
    rw [← same]
    exact right.sized (same ▸ isSized)
  replaced := right.replaced.trans left.replaced
  promotedFrom := right.promotedFrom.trans left.promotedFrom

end Return.Lasts

namespace Function

/-- Whether all buffers of known size are in their places and have the same accessors. -/
structure Lasts (settings : Settings) (before after : Function) : Prop where
  ret : before.ret.Lasts after.ret
  params : List.Forall₂ (Argument.Lasts settings) before.params after.params

/-- The methods that may lose a parameter to a later header. -/
inductive AtRisk (settings : Settings) (function : Function) : Prop
  /-- A method returns the scalar void or bool and takes an array, and it goes by the name of a
  getter or comes to do so.  If it does already, then its name is configured, or it returns an
  array, or it did so before a sign of success was dropped. -/
  | fills {argument : Argument} {name : String}
      (success : Sizing.returnsSuccess function = true)
      (member : argument ∈ function.params) (isArray : argument.isPlainArray = true)
      (named : Relation.ReflTransGen (Renames settings) function.name name)
      (getter : Sizing.actsAsGetter settings (function.rename name) = true)
      (overlooked : Sizing.actsAsGetter settings function = true →
        settings.givesName function.name = true ∨ function.ret.type.isArray = true ∨
          function.ret.replaced.any (·.isArray) = true) : AtRisk settings function
  /-- A method takes what reads like a number handle. -/
  | descends {parameter : Parameter} (member : .plain parameter ∈ function.params)
      (marked : Text.endsWith parameter.name settings.markers.numberHandle = true) :
      AtRisk settings function

/-- Whether a method at risk lost a parameter. -/
def Loses (settings : Settings) (before after : Function) : Prop :=
  after.params.length < before.params.length ∧ before.AtRisk settings

namespace Lasts

theorem ofParams {params : List Argument}
    (pointwise : List.Forall₂ (Argument.Lasts settings) function.params params) :
    function.Lasts settings { function with params } :=
  ⟨.refl _, pointwise⟩

theorem ofReturn {ret : Return} (lasts : function.ret.Lasts ret) :
    function.Lasts settings { function with ret } :=
  ⟨lasts, List.forall₂_same.2 fun argument _ => .refl settings argument⟩

theorem refl (settings : Settings) (function : Function) : function.Lasts settings function :=
  ofReturn (.refl _)

theorem trans {first second third : Function} (left : first.Lasts settings second)
    (right : second.Lasts settings third) : first.Lasts settings third where
  ret := left.ret.trans right.ret
  params := forall₂_trans (Argument.lasts_trans settings) left.params right.params

theorem returnsSuccess (lasts : original.Lasts settings current)
    (success : Sizing.returnsSuccess current = true) : Sizing.returnsSuccess original = true := by
  rw [Sizing.returnsSuccess, Bool.or_eq_true] at success ⊢
  exact success.imp lasts.ret.type.isScalar lasts.ret.type.isScalar

/-- Every plain parameter was one before. -/
theorem exists_plain (lasts : original.Lasts settings current) {parameter : Parameter}
    (member : .plain parameter ∈ current.params) :
    ∃ declared, .plain declared ∈ original.params ∧ declared.Stems settings parameter := by
  obtain ⟨argument, isArgument, stays⟩ := exists_of_mem_forall₂ lasts.params member
  cases stays with
  | plain stems _ => exact ⟨_, isArgument, stems⟩

end Lasts

end Function

/-! ## One step -/

theorem Accessors.dropSuccess_eq_self_iff : dropSuccess function = function ↔
    (function.throws.isSome && function.ret.type.isScalar .bool) = false := by
  constructor
  · intro same
    cases drops : function.throws.isSome && function.ret.type.isScalar .bool with
    | false => rfl
    | true =>
        have isVoid : function.ret.type = .void := by
          rw [dropSuccess, if_pos drops] at same
          exact (congrArg (·.ret.type) same).symm
        rw [isVoid] at drops
        simp [ValueType.isScalar, ValueType.void] at drops
  · intro keeps
    rw [dropSuccess, keeps]
    rfl

/-- What lasts of a method, together with what keeps it from being joined or dropped. -/
structure Function.Holds (settings : Settings) (before after : Function) : Prop where
  lasts : before.Lasts settings after
  named : Relation.ReflTransGen (Renames settings) before.name after.name
  apart : Sizing.Apart settings.markers.length after.params
  dropped : Accessors.dropSuccess after = after

theorem Function.Lasts.dropped (lasts : original.Lasts settings current)
    (throws : current.throws = original.throws)
    (dropped : Accessors.dropSuccess original = original) :
    Accessors.dropSuccess current = current := by
  rw [Accessors.dropSuccess_eq_self_iff] at dropped ⊢
  rw [throws]
  cases isBool : current.ret.type.isScalar .bool with
  | false => exact Bool.and_false _
  | true => rwa [lasts.ret.type.isScalar isBool] at dropped

theorem lasts_refers {before after : Argument} (refers : Refers settings before after) :
    before.Lasts settings after := by
  rcases refers with rfl | ⟨parameter, base, rfl, isBase, rfl⟩
  · exact .refl settings _
  · exact .plain (.asReference isBase) fun _ => rfl

theorem lasts_mapParameter {position : Nat} (accessor : SizeAccessor)
    (unsized : function.params[position]?.any (·.isUnsizedBuffer) = true) :
    function.Lasts settings (function.mapParameter position fun parameter =>
      { parameter with type := { parameter.type with sizeAccessor := some accessor } }) := by
  refine .ofParams (forall₂_modify (.refl settings) fun argument found => ?_)
  rw [found, Option.any_some] at unsized
  cases argument with
  | buffer data length => exact .buffer data length
  | plain parameter =>
      refine .plain (.sized parameter _) fun isSized => ?_
      have none : parameter.type.sizeAccessor.isNone = true :=
        (Bool.and_eq_true_iff.1 unsized).2
      rw [Option.isNone_iff_eq_none.1 none] at isSized
      cases isSized

theorem length_eraseIdx_lt {params : List Argument} {position : Nat}
    (bound : position < params.length) : (params.eraseIdx position).length < params.length := by
  rw [List.length_eraseIdx_of_lt bound]
  exact Nat.sub_one_lt_of_lt bound

theorem Sizing.length_pairLengths_le (marker : String) (params : List Argument) :
    (pairLengths marker params).length ≤ params.length := by
  induction params using pairLengths.induct marker with
  | case1 => exact Nat.le_refl _
  | case2 data length rest paired ih =>
      rw [pairLengths, if_pos paired]
      exact Nat.le_succ_of_le (Nat.succ_le_succ ih)
  | case3 data length rest unpaired ih =>
      rw [pairLengths, if_neg unpaired]
      exact Nat.succ_le_succ ih
  | case4 argument rest noPair ih =>
      rw [pairLengths]
      · exact Nat.succ_le_succ ih
      · exact noPair

/-- No step adds a parameter. -/
theorem Step.length_le (step : Step settings kind function changed) :
    changed.params.length ≤ function.params.length := by
  cases step with
  | descend => exact List.length_eraseIdx_le _ _
  | edit edited =>
      cases edited with
      | convertError | makeDeallocator | makeMethod => exact List.length_eraseIdx_le _ _
      | refer pointwise => exact pointwise.length_eq.ge
      | promote accessor found =>
          obtain ⟨⟨buffer, isBuffer, -⟩, -⟩ := Sizing.filledBuffer?_eq_some found
          rw [Sizing.promote_eq accessor isBuffer]
          exact List.length_eraseIdx_le _ _
      | sizeParameter => exact (List.length_modify _ _ _).le
      | pair => exact Sizing.length_pairLengths_le _ _
      | dropSuccess =>
          rcases Accessors.dropSuccess_cases function with same | ⟨-, dropped⟩
          · rw [same]
          · rw [dropped]
      | _ => exact Nat.le_refl _

theorem Step.renames (step : Step settings kind function changed) (settled : kind ∈ settledKinds) :
    Renames settings function.name changed.name := by
  cases step with
  | descend => exact .keep
  | edit edited =>
      cases edited with
      | convertError | makeAllocator | makeDeallocator | makeMethod | makeStatic =>
          simp [settledKinds] at settled
      | rename renames => exact renames
      | promote accessor found =>
          obtain ⟨⟨buffer, isBuffer, -⟩, -⟩ := Sizing.filledBuffer?_eq_some found
          rw [Sizing.promote_eq accessor isBuffer]
          exact .keep
      | dropSuccess =>
          rcases Accessors.dropSuccess_cases function with same | ⟨-, dropped⟩
          · rw [same]
            exact .keep
          · rw [dropped]
            exact .keep
      | _ => exact .keep

/-- A method that a later header could still fill was at risk when it was finished. -/
theorem Function.Holds.atRisk_of_filled {position : Nat} (holds : original.Holds settings current)
    (finished : Finished settings original)
    (filled : Sizing.filledBuffer? settings current = some position) :
    original.AtRisk settings := by
  obtain ⟨⟨buffer, isBuffer, isArray⟩, success⟩ := Sizing.filledBuffer?_eq_some filled
  obtain ⟨bound, isThere⟩ := List.getElem?_eq_some_iff.1 isBuffer
  obtain ⟨declared, isDeclared, stems⟩ :=
    holds.lasts.exists_plain (isThere ▸ List.getElem_mem bound)
  have wasArray : (Argument.plain declared).isPlainArray = true := by
    simpa [Argument.isPlainArray, Argument.plain?, stems.type.isArray] using isArray
  have wasSuccess : Sizing.returnsSuccess original = true :=
    holds.lasts.returnsSuccess (by rwa [Sizing.returnsSuccess, Bool.or_eq_true])
  have getter : Sizing.actsAsGetter settings current = true := by
    rw [Sizing.filledBuffer?_eq] at filled
    split at filled
    · rename_i both
      exact (Bool.and_eq_true_iff.1 both).1
    · cases filled
  refine .fills wasSuccess isDeclared wasArray holds.named getter fun wasGetter => ?_
  by_contra fine
  simp only [not_or, Bool.not_eq_true] at fine
  have unfilled := (finished.applied fine.1).unfilled fine.2.1 fine.2.2
  rw [Sizing.filledBuffer?_eq, wasGetter, wasSuccess] at unfilled
  simp [List.findIdx?_eq_none_iff.1 unfilled _ isDeclared] at wasArray

/-- A step of a later header lets the buffers of a finished method be, or the method is at risk
and loses a parameter. -/
theorem Step.holds (step : Step settings kind current changed) (settled : kind ∈ settledKinds)
    (finished : Finished settings original) (holds : original.Holds settings current) :
    original.Loses settings changed ∨ original.Holds settings changed := by
  have sameLength := holds.lasts.params.length_eq
  have named := holds.named.tail (step.renames settled)
  have throws := (step.throws_eq settled).1
  have keeps (lasts : current.Lasts settings changed)
      (apart : Sizing.Apart settings.markers.length changed.params) :
      original.Loses settings changed ∨ original.Holds settings changed :=
    .inr ⟨holds.lasts.trans lasts, named, apart, lasts.dropped throws holds.dropped⟩
  -- Only a descent and a promotion cost a parameter, and what makes them possible was there when
  -- the header of the function was finished.
  cases step with
  | @descend _ first rest leading marked =>
      have isFirst : .plain first ∈ current.params := by simp [leading]
      obtain ⟨declared, isDeclared, stems⟩ := holds.lasts.exists_plain isFirst
      refine .inl ⟨?_, .descends isDeclared (stems.endsWith marked)⟩
      rw [sameLength]
      exact length_eraseIdx_lt (by simp [leading])
  | edit edited =>
      cases edited with
      | convertError | makeAllocator | makeDeallocator | makeMethod | makeStatic =>
          simp [settledKinds] at settled
      | rename renames =>
          exact keeps ⟨.refl _, (Function.Lasts.refl settings current).params⟩ holds.apart
      | refer pointwise =>
          exact keeps (.ofParams (pointwise.imp fun _ _ => lasts_refers))
            (holds.apart.refer pointwise)
      | sizeReturn accessor needed =>
          refine keeps (.ofReturn ⟨.sized _ _, fun isSized => ?_, rfl, rfl⟩) holds.apart
          have none := (Bool.and_eq_true_iff.1 needed).2
          rw [Option.isNone_iff_eq_none.1 none] at isSized
          cases isSized
      | @promote _ position accessor found =>
          obtain ⟨⟨buffer, isBuffer, -⟩, -⟩ := Sizing.filledBuffer?_eq_some found
          obtain ⟨bound, -⟩ := List.getElem?_eq_some_iff.1 isBuffer
          refine .inl ⟨?_, holds.atRisk_of_filled finished found⟩
          rw [sameLength, Sizing.promote_eq accessor isBuffer]
          exact length_eraseIdx_lt bound
      | sizeParameter accessor unsized =>
          exact keeps (lasts_mapParameter accessor unsized) (holds.apart.mapParameter unsized)
      | pair =>
          rw [Sizing.pairLengths_eq_of_apart holds.apart]
          exact .inr holds
      | retype className =>
          exact keeps (.ofReturn ⟨.asNumberHandle _ _, fun _ => rfl, rfl, rfl⟩) holds.apart
      | dropSuccess =>
          rw [holds.dropped]
          exact .inr holds

/-- What becomes of a finished method: its buffers are as they were, unless it lost a parameter. -/
theorem Step.loses_or_holds (finished : Finished settings original)
    (step : Step settings kind current changed) (settled : kind ∈ settledKinds)
    (before : original.Loses settings current ∨ original.Holds settings current) :
    original.Loses settings changed ∨ original.Holds settings changed := by
  rcases before with ⟨fewer, risk⟩ | holds
  · exact .inl ⟨Nat.lt_of_le_of_lt step.length_le fewer, risk⟩
  · exact step.holds settled finished holds

end Bindery
