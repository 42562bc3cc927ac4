import Bindery.Proofs.Types
import Bindery.Settings.Defaults

/-!
# What becomes of a return

A generator reads the C return off the replaced type where there is one.  Two rules replace a
return: a getter returns the buffer that it fills, and a truth value beside an exception goes away.
Both look at the scalar only.  A return is accounted for as long as no pointer is replaced and
nothing is replaced twice, and the theorem at the end says that these are the only ways to lose it.
-/

namespace Bindery

namespace Return

/-- Whether nothing was put in the place of the declared return type. -/
def Kept (original : Function) (ret : Return) : Prop :=
  ret.replaced = none ∧ ret.promotedFrom = none ∧ original.ret.type.Stems ret.type

/-- Whether the type is that of a buffer among the declared parameters. -/
def ReturnsBuffer (original : Function) (ret : Return) : Prop :=
  ∃ buffer, .plain buffer ∈ original.params ∧ buffer.type.isArray = true ∧
    buffer.type.Stems ret.type

/-- Whether what was replaced is the declared return type, one of the given scalars by value. -/
def ReplacesValue (original : Function) (scalars : List Scalar) (ret : Return) : Prop :=
  ∃ replaced, ret.replaced = some replaced ∧ original.ret.type.Stems replaced ∧
    replaced.ctype.isPointer = false ∧ ∃ scalar ∈ scalars, replaced.isScalar scalar = true

/-- Whether the declared return type can be told from the return: it is there still, or it was
replaced by a buffer that the function fills, or it was a truth value and nothing took its
place. -/
def Accounts (original : Function) (ret : Return) : Prop :=
  ret.Kept original ∨
    ret.promotedFrom.isSome = true ∧ ret.ReplacesValue original [.void, .bool] ∧
      ret.ReturnsBuffer original ∨
    ret.promotedFrom = none ∧ ret.ReplacesValue original [.bool] ∧
      ValueType.void.Stems ret.type

/-- Whether whatever was replaced is the declared return type, and that is no pointer. -/
def ReplacedByValue (original : Function) (ret : Return) : Prop :=
  ∀ replaced ∈ ret.replaced,
    original.ret.type.Stems replaced ∧ original.ret.type.ctype.isPointer = false

/-- The ways that a return can have come about, where the last replacement counts. -/
inductive Traced (original : Function) (ret : Return) : Prop
  | kept (kept : ret.Kept original)
  | promoted {replaced : ValueType} {scalar : Scalar} (isReplaced : ret.replaced = some replaced)
      (status : scalar ∈ [Scalar.void, .bool]) (wasStatus : replaced.isScalar scalar = true)
      (isPromoted : ret.promotedFrom.isSome = true) (returns : ret.ReturnsBuffer original)
  | dropped {replaced : ValueType} (isReplaced : ret.replaced = some replaced)
      (wasTruth : replaced.isScalar .bool = true)
      (wasBuffer : ret.promotedFrom.isSome = true → replaced.isArray = true)
      (returnsNothing : ValueType.void.Stems ret.type)

end Return

variable {settings : Settings} {kind : MoveKind} {original function changed : Function}

/-- What a step can do to a return. -/
theorem Step.ret_cases (step : Step settings kind function changed) :
    (changed.ret.replaced = function.ret.replaced ∧
        changed.ret.promotedFrom = function.ret.promotedFrom ∧
        function.ret.type.Stems changed.ret.type) ∨
      (∃ buffer accessor position scalar, scalar ∈ [Scalar.void, .bool] ∧
        function.ret.type.isScalar scalar = true ∧ .plain buffer ∈ function.params ∧
        buffer.type.isArray = true ∧
        changed.ret = { function.ret.replaceBy (buffer.type.withGetter accessor) with
          promotedFrom := some position }) ∨
      (function.ret.type.isScalar .bool = true ∧ changed.ret = function.ret.replaceBy .void) := by
  have kept (same : changed.ret = function.ret) :
      changed.ret.replaced = function.ret.replaced ∧
        changed.ret.promotedFrom = function.ret.promotedFrom ∧
        function.ret.type.Stems changed.ret.type := by
    rw [same]
    exact ⟨rfl, rfl, .refl _⟩
  -- Only promoting a buffer and dropping a sign of success replace a return.
  cases step with
  | descend leading marked => exact .inl (kept rfl)
  | edit edited =>
      cases edited with
      | sizeReturn accessor needed => exact .inl ⟨rfl, rfl, .sized _ _⟩
      | retype className => exact .inl ⟨rfl, rfl, .asNumberHandle _ _⟩
      | @promote _ position accessor found =>
          obtain ⟨⟨buffer, isBuffer, isArray⟩, status⟩ := Sizing.filledBuffer?_eq_some found
          have member : .plain buffer ∈ function.params := List.mem_of_getElem? isBuffer
          right
          left
          rw [Sizing.promote_eq accessor isBuffer]
          rcases status with wasVoid | wasBool
          · exact ⟨buffer, accessor, position, .void, by simp, wasVoid, member, isArray, rfl⟩
          · exact ⟨buffer, accessor, position, .bool, by simp, wasBool, member, isArray, rfl⟩
      | dropSuccess =>
          by_cases drops : function.throws.isSome && function.ret.type.isScalar .bool
          · right
            right
            refine ⟨(Bool.and_eq_true_iff.1 drops).2, ?_⟩
            rw [Accessors.dropSuccess, if_pos drops]
          · left
            apply kept
            rw [Accessors.dropSuccess, if_neg drops]
      | _ => exact .inl (kept rfl)

namespace Return.Traced

theorem stems {ret : Return} (traced : ret.Traced original)
    (replaced : changed.ret.replaced = ret.replaced)
    (promotedFrom : changed.ret.promotedFrom = ret.promotedFrom)
    (stems : ret.type.Stems changed.ret.type) : changed.ret.Traced original := by
  cases traced with
  | kept kept =>
      obtain ⟨nothing, nowhere, same⟩ := kept
      exact .kept ⟨replaced.trans nothing, promotedFrom.trans nowhere, same.trans stems⟩
  | promoted isReplaced status wasStatus isPromoted returns =>
      obtain ⟨buffer, member, isArray, same⟩ := returns
      exact .promoted (replaced.trans isReplaced) status wasStatus (promotedFrom ▸ isPromoted)
        ⟨buffer, member, isArray, same.trans stems⟩
  | dropped isReplaced wasTruth wasBuffer returnsNothing =>
      exact .dropped (replaced.trans isReplaced) wasTruth (promotedFrom ▸ wasBuffer)
        (returnsNothing.trans stems)

/-- A truth value that is dropped after a promotion was a buffer. -/
theorem dropSuccess {ret : Return} (traced : ret.Traced original)
    (isTruth : ret.type.isScalar .bool = true) : (ret.replaceBy .void).Traced original := by
  refine .dropped rfl isTruth (fun isPromoted => ?_) (.refl _)
  cases traced with
  | kept kept =>
      obtain ⟨-, nowhere, -⟩ := kept
      rw [replaceBy, nowhere] at isPromoted
      cases isPromoted
  | promoted isReplaced status wasStatus isPromoted returns =>
      obtain ⟨buffer, -, isArray, stems⟩ := returns
      exact stems.isArray.trans isArray
  | dropped isReplaced wasTruth wasBuffer returnsNothing =>
      have wasVoid := returnsNothing.isScalar isTruth
      cases wasVoid

theorem step (step : Step settings kind function changed) (params : original.ParamsStem function)
    (traced : function.ret.Traced original) : changed.ret.Traced original := by
  rcases step.ret_cases with ⟨replaced, promotedFrom, stems⟩ | promotes | ⟨isTruth, isDropped⟩
  · exact traced.stems replaced promotedFrom stems
  · obtain ⟨buffer, accessor, position, scalar, status, wasStatus, member, isArray, isPromoted⟩ :=
      promotes
    obtain ⟨declared, isDeclared, stems⟩ := params buffer member
    rw [isPromoted]
    exact .promoted rfl status wasStatus rfl
      ⟨declared, isDeclared, stems.isArray ▸ isArray, stems.trans (.sized _ _)⟩
  · rw [isDropped]
    exact traced.dropSuccess isTruth

end Return.Traced

namespace Conversion

theorem isPointer_of_isArray {spelling : TypeSpelling}
    (isArray : spelling.intake.isArray = true) : spelling.intake.ctype.isPointer = true := by
  unfold TypeSpelling.intake at isArray ⊢
  dsimp only at isArray ⊢
  split at isArray
  · cases isArray
  · exact isArray
  · cases isArray

theorem ret_intake (declaration : FunctionDeclaration) :
    (declaration.intake settings).ret = { type := declaration.returnType.intake } :=
  rfl

/-- Nothing is replaced in what is taken in, and its arrays are pointers. -/
theorem ret_of_mem_arrivals {header : HeaderDeclarations}
    (arrived : original ∈ arrivals settings header) :
    original.ret.replaced = none ∧ original.ret.promotedFrom = none ∧
      (original.ret.type.isArray = true → original.ret.type.ctype.isPointer = true) := by
  have declared : ∃ declaration : FunctionDeclaration,
      original.ret = (declaration.intake settings).ret := by
    rcases List.mem_append.1 arrived with declared | listens
    · obtain ⟨declaration, -, rfl⟩ := List.mem_map.1 declared
      exact ⟨declaration, rfl⟩
    · obtain ⟨signature, -, rfl⟩ := List.mem_map.1 listens
      exact ⟨signature, rfl⟩
  obtain ⟨declaration, isDeclared⟩ := declared
  rw [isDeclared, ret_intake]
  refine ⟨rfl, rfl, ?_⟩
  dsimp only
  exact isPointer_of_isArray

end Conversion

namespace Return

theorem Accounts.replacedByValue {ret : Return} (accounts : ret.Accounts original) :
    ret.ReplacedByValue original := by
  intro replaced isReplaced
  have byValue {scalars : List Scalar} (replaces : ret.ReplacesValue original scalars) :
      original.ret.type.Stems replaced ∧ original.ret.type.ctype.isPointer = false := by
    obtain ⟨type, isType, stems, noPointer, -⟩ := replaces
    obtain rfl : type = replaced := Option.some.inj (isType.symm.trans isReplaced)
    exact ⟨stems, stems.ctype ▸ noPointer⟩
  rcases accounts with kept | ⟨-, replaces, -⟩ | ⟨-, replaces, -⟩
  · rw [kept.1] at isReplaced
    cases isReplaced
  · exact byValue replaces
  · exact byValue replaces

/-- Once it is known how a return came about, it is accounted for if what was replaced was no
pointer and was what the function had declared. -/
theorem Traced.accounts_iff {ret : Return} (traced : ret.Traced original)
    (arrays : original.ret.type.isArray = true → original.ret.type.ctype.isPointer = true) :
    ret.Accounts original ↔ ret.ReplacedByValue original := by
  refine ⟨Accounts.replacedByValue, fun byValue => ?_⟩
  cases traced with
  | kept kept => exact .inl kept
  | @promoted replaced scalar isReplaced status wasStatus isPromoted returns =>
      obtain ⟨stems, noPointer⟩ := byValue replaced isReplaced
      have replaces : ret.ReplacesValue original [.void, .bool] :=
        ⟨replaced, isReplaced, stems, stems.ctype ▸ noPointer, scalar, status, wasStatus⟩
      exact .inr (.inl ⟨isPromoted, replaces, returns⟩)
  | @dropped replaced isReplaced wasTruth wasBuffer returnsNothing =>
      obtain ⟨stems, noPointer⟩ := byValue replaced isReplaced
      have replaces : ret.ReplacesValue original [.bool] :=
        ⟨replaced, isReplaced, stems, stems.ctype ▸ noPointer, .bool, by simp, wasTruth⟩
      have nowhere : ret.promotedFrom = none := by
        cases isPromoted : ret.promotedFrom with
        | none => rfl
        | some position =>
            have isArray := wasBuffer (by rw [isPromoted]; rfl)
            rw [stems.isArray] at isArray
            rw [arrays isArray] at noPointer
            cases noPointer
      exact .inr (.inr ⟨nowhere, replaces, returnsNothing⟩)

end Return

/-- Whether a function can have come about from one whose return was as declared. -/
def Function.Traced (original current : Function) : Prop :=
  original.ret.replaced = none → original.ret.promotedFrom = none →
    original.ParamsStem current ∧ current.ret.Traced original

namespace Function.Traced

theorem refl (function : Function) : function.Traced function := by
  intro nothing nowhere
  exact ⟨.refl function, .kept ⟨nothing, nowhere, .refl _⟩⟩

theorem step (step : Step settings kind function changed) (traced : original.Traced function) :
    original.Traced changed := by
  intro nothing nowhere
  obtain ⟨params, ret⟩ := traced nothing nowhere
  exact ⟨params.trans step.paramsStem, ret.step step params⟩

end Function.Traced

namespace Conversion

variable {declarations : DeclarationSet} {result : Result}

theorem traced_convert (converted : convert settings declarations = .ok result) {id : FunctionId}
    (isOriginal : (declarations.headers.flatMap (arrivals settings))[id]? = some original) :
    (result.draft.forest.functionAt id).ret.Traced original := by
  have came := (arrived_convert Function.Traced.refl Function.Traced.step converted).2 id original
    isOriginal
  obtain ⟨header, -, arrived⟩ := List.mem_flatMap.1 (List.mem_of_getElem? isOriginal)
  obtain ⟨nothing, nowhere, -⟩ := ret_of_mem_arrivals arrived
  exact (came nothing nowhere).2

/-- Every function comes from a declaration, and its return accounts for the declared return type
exactly if nothing but that type was replaced, and only where it is no pointer. -/
theorem accounts_iff_replacedByValue (converted : convert settings declarations = .ok result) :
    result.draft.forest.functionCount =
        (declarations.headers.flatMap (arrivals settings)).length ∧
      ∀ id original, (declarations.headers.flatMap (arrivals settings))[id]? = some original →
        ((result.draft.forest.functionAt id).ret.Accounts original ↔
          (result.draft.forest.functionAt id).ret.ReplacedByValue original) := by
  constructor
  · exact functionCount_convert converted
  · intro id original isOriginal
    obtain ⟨header, -, arrived⟩ := List.mem_flatMap.1 (List.mem_of_getElem? isOriginal)
    obtain ⟨-, -, arrays⟩ := ret_of_mem_arrivals arrived
    exact (traced_convert converted isOriginal).accounts_iff arrays

def getName : FunctionDeclaration where
  name := "tox_self_get_name"
  returnType := { name := "void" }
  parameters := [
    { name := "tox", type := { name := "Tox", isPointer := true, isConst := true } },
    { name := "name", type := { name := "uint8_t", isPointer := true } }]

/-- A getter that fills a name, with the companion that tells its length. -/
def filledName : DeclarationSet where
  headers := [{
    file := "tox.h"
    functions := [
      getName,
      { name := "tox_self_get_name_size"
        returnType := { name := "size_t" }
        parameters := [
          { name := "tox", type := { name := "Tox", isPointer := true, isConst := true } }] }]
    structs := ["Tox"] }]

theorem accounts_filledName :
    ∃ result, convert Settings.default filledName = .ok result ∧
      (result.draft.forest.functionAt 0).ret.Accounts (getName.intake Settings.default) := by
  obtain ⟨result, converted, replaced⟩ := exists_converted
    (fun result => (result.draft.forest.functionAt 0).ret.replaced)
    (show (convert Settings.default filledName).toOption.map _ = some (some .void) by
      decide +kernel)
  have isOriginal : (filledName.headers.flatMap (arrivals Settings.default))[0]? =
      some (getName.intake Settings.default) := by
    decide +kernel
  have isVoid : (getName.intake Settings.default).ret.type = .void := by decide +kernel
  refine ⟨result, converted, ?_⟩
  apply ((accounts_iff_replacedByValue converted).2 0 _ isOriginal).2
  intro type isType
  obtain rfl : ValueType.void = type := Option.some.inj (replaced.symm.trans isType)
  rw [isVoid]
  exact ⟨.refl _, rfl⟩

/-- A function that throws and returns a pointer to a truth value. -/
def throwingPointer : DeclarationSet where
  headers := [{
    file := "tox.h"
    functions := [
      { name := "tox_ready"
        returnType := { name := "bool", isPointer := true }
        parameters := [
          { name := "tox", type := { name := "Tox", isPointer := true } },
          { name := "error", type := { name := "Tox_Err_Ready", isPointer := true } }] },
      { name := "tox_ready_size"
        returnType := { name := "size_t" }
        parameters := [{ name := "tox", type := { name := "Tox", isPointer := true } }] }]
    enums := [{ name := "Tox_Err_Ready" }]
    structs := ["Tox"] }]

/-- The pointer is dropped as if it were the truth value that it points at. -/
theorem not_accounts_throwingPointer :
    ∃ result original, convert Settings.default throwingPointer = .ok result ∧
      (throwingPointer.headers.flatMap (arrivals Settings.default))[0]? = some original ∧
      ¬ (result.draft.forest.functionAt 0).ret.Accounts original := by
  obtain ⟨result, converted, replaces⟩ := exists_converted
    (fun result => (result.draft.forest.functionAt 0).ret.replaced.isSome)
    (show (convert Settings.default throwingPointer).toOption.map _ = some true by
      decide +kernel)
  have pointer : ((throwingPointer.headers.flatMap (arrivals Settings.default))[0]?.map
      (·.ret.type.ctype.isPointer)) = some true := by
    decide +kernel
  obtain ⟨original, isOriginal, isPointer⟩ := Option.map_eq_some_iff.1 pointer
  refine ⟨result, original, converted, isOriginal, fun accounts => ?_⟩
  obtain ⟨replaced, isReplaced⟩ := Option.isSome_iff_exists.1 replaces
  have noPointer := (accounts.replacedByValue replaced isReplaced).2
  rw [isPointer] at noPointer
  cases noPointer

end Conversion

end Bindery
