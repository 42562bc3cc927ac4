import Bindery.Proofs.Types

/-!
# What becomes of a parameter list

However the parameters of a function are promoted, renamed and joined with their lengths, the C
parameters can be read off what is left: a promoted one is put back where it stood, and every buffer
is taken apart again.
-/

namespace Bindery

variable {settings : Settings}

/-- Whether a parameter is a C parameter but for handle markers at the end of its name, for the
class of the handle in its type, and for a size accessor. -/
structure Parameter.Stems (settings : Settings) (declared current : Parameter) : Prop where
  name : ∃ count, declared.name.toList = current.name.toList ++
    (List.replicate count settings.markers.numberHandle.toList).flatten
  kind : current.type.kind = declared.type.kind ∨
    Text.endsWith declared.name settings.markers.numberHandle = true
  type : declared.type.Stems current.type

namespace Parameter.Stems

variable {declared middle current parameter : Parameter}

theorem refl (parameter : Parameter) : parameter.Stems settings parameter :=
  ⟨⟨0, by simp⟩, .inl rfl, .refl _⟩

/-- What is left of a number handle's name was part of a number handle's name. -/
theorem endsWith (stems : declared.Stems settings current)
    (marked : Text.endsWith current.name settings.markers.numberHandle = true) :
    Text.endsWith declared.name settings.markers.numberHandle = true := by
  obtain ⟨count, isName⟩ := stems.name
  rw [Text.endsWith_iff] at marked ⊢
  cases count with
  | zero => simpa [isName] using marked
  | succ count =>
      rw [isName, List.replicate_succ', List.flatten_append]
      simp [← List.append_assoc]

theorem trans (first : declared.Stems settings middle) (second : middle.Stems settings current) :
    declared.Stems settings current where
  name := by
    obtain ⟨outer, isDeclared⟩ := first.name
    obtain ⟨inner, isMiddle⟩ := second.name
    refine ⟨inner + outer, ?_⟩
    rw [isDeclared, isMiddle, List.replicate_add, List.flatten_append, List.append_assoc]
  kind := by
    rcases second.kind with same | marked
    · rw [same]
      exact first.kind
    · exact .inr (first.endsWith marked)
  type := first.type.trans second.type

theorem asReference {base : String}
    (isBase : Text.dropSuffix? parameter.name settings.markers.numberHandle = some base) :
    parameter.Stems settings (NumberHandles.asReference base parameter) where
  name := by
    refine ⟨1, ?_⟩
    rw [Text.dropSuffix?_eq_some isBase, String.toList_append]
    simp [NumberHandles.asReference]
  kind := .inr (Text.endsWith_of_dropSuffix? isBase)
  type := .asNumberHandle _ _

theorem sized (parameter : Parameter) (sizeAccessor : Option SizeAccessor) :
    parameter.Stems settings { parameter with type := { parameter.type with sizeAccessor } } :=
  ⟨⟨0, by simp⟩, .inl rfl, .sized _ _⟩

end Parameter.Stems

/-- Whether the second parameters stem from the first ones, in order. -/
def ParametersStem (settings : Settings) : List Parameter → List Parameter → Prop :=
  List.Forall₂ (Parameter.Stems settings)

namespace ParametersStem

variable {declared middle current : List Parameter} {before after : List Argument}

theorem refl (params : List Parameter) : ParametersStem settings params params :=
  List.forall₂_same.2 fun parameter _ => .refl parameter

theorem trans (first : ParametersStem settings declared middle)
    (second : ParametersStem settings middle current) :
    ParametersStem settings declared current :=
  forall₂_trans
    (fun declared middle current => @Parameter.Stems.trans settings declared middle current)
    first second

/-- Arguments that are changed place by place. -/
theorem flatten (Changes : Argument → Argument → Prop)
    (pointwise : List.Forall₂ Changes before after)
    (each : ∀ {argument changed}, Changes argument changed →
      ParametersStem settings argument.flatten changed.flatten) :
    ParametersStem settings (before.flatMap Argument.flatten) (after.flatMap Argument.flatten) := by
  induction pointwise with
  | nil => exact .nil
  | cons head _ ih => exact List.rel_append (each head) ih

end ParametersStem

/-! ## Promoted parameters -/

/-- The type of a promoted parameter is that of the return, or was before it was dropped as a mere
sign of success. -/
def Return.Carries (ret : Return) (type : ValueType) : Prop :=
  type.Stems ret.type ∨ ret.type = .void ∧ ∃ dropped ∈ ret.replaced, type.Stems dropped

/-- Whether the C parameters can be read off the function: a promoted parameter goes back to its
position, and buffers are taken apart. -/
def Function.Restores (function : Function) (params : List Parameter) : Prop :=
  match function.ret.promotedFrom with
  | none => function.params.flatMap Argument.flatten = params
  | some position =>
    position ≤ function.params.length ∧ ∃ buffer, function.ret.Carries buffer.type ∧
      (function.params.insertIdx position (.plain buffer)).flatMap Argument.flatten = params

/-- The same while returns still have the types that they were promoted with.  Before a position
that something was promoted from, no argument can be joined with the next. -/
inductive Function.Comprises (function : Function) : List Parameter → Prop
  | whole (nowhere : function.ret.promotedFrom = none) :
      function.Comprises (function.params.flatMap Argument.flatten)
  | promoted {front back : List Argument} {buffer : Parameter}
      (position : function.ret.promotedFrom = some front.length)
      (split : function.params = front ++ back)
      (single : ∀ argument ∈ front, argument.isPlainArray = false)
      (carries : buffer.type.Stems function.ret.type) :
      function.Comprises
        (front.flatMap Argument.flatten ++ buffer :: back.flatMap Argument.flatten)

theorem insertIdx_length_append {α : Type} (front back : List α) (item : α) :
    (front ++ back).insertIdx front.length item = front ++ item :: back := by
  induction front with
  | nil => rfl
  | cons first rest ih => exact congrArg (first :: ·) ih

namespace Sizing

variable {marker : String} {front back : List Argument} {function : Function} {position : Nat}

theorem flatten_pairLengths (marker : String) (params : List Argument) :
    (pairLengths marker params).flatMap Argument.flatten = params.flatMap Argument.flatten := by
  induction params using pairLengths.induct marker with
  | case1 => rfl
  | case2 data length rest paired ih =>
      rw [pairLengths, if_pos paired]
      simp [Argument.flatten, ih]
  | case3 data length rest apart ih =>
      rw [pairLengths, if_neg apart]
      simp only [List.flatMap_cons] at ih ⊢
      rw [ih]
  | case4 argument rest noPair ih =>
      rw [pairLengths]
      · rw [List.flatMap_cons, List.flatMap_cons, ih]
      · exact noPair

/-- Nothing is joined with what follows it but an array. -/
theorem pairLengths_cons {argument : Argument} (single : argument.isPlainArray = false)
    (rest : List Argument) :
    pairLengths marker (argument :: rest) = argument :: pairLengths marker rest := by
  match argument, rest with
  | .buffer data length, rest => simp [pairLengths]
  | .plain data, [] => simp [pairLengths]
  | .plain data, .buffer other length :: rest => simp [pairLengths]
  | .plain data, .plain length :: rest =>
      have noArray : data.type.isArray = false := by
        simpa [Argument.isPlainArray, Argument.plain?] using single
      rw [pairLengths, if_neg]
      simp [arePair, noArray]

theorem pairLengths_append (single : ∀ argument ∈ front, argument.isPlainArray = false) :
    pairLengths marker (front ++ back) = front ++ pairLengths marker back := by
  induction front with
  | nil => rfl
  | cons argument rest ih =>
      obtain ⟨isSingle, single⟩ := List.forall_mem_cons.1 single
      rw [List.cons_append, pairLengths_cons isSingle, ih single, List.cons_append]

/-- The parameters around the buffer that a getter fills, with no array before it. -/
theorem split_of_filledBuffer? (found : filledBuffer? settings function = some position) :
    ∃ front buffer back, function.params = front ++ .plain buffer :: back ∧
      position = front.length ∧ ∀ argument ∈ front, argument.isPlainArray = false := by
  obtain ⟨⟨buffer, isBuffer, -⟩, -⟩ := filledBuffer?_eq_some found
  have isFirst : function.params.findIdx? (·.isPlainArray) = some position := by
    rw [filledBuffer?] at found
    split at found
    · split at found
      · exact found
      · cases found
    · cases found
  obtain ⟨within, -, noneBefore⟩ := List.findIdx?_eq_some_iff_getElem.1 isFirst
  rw [List.getElem?_eq_getElem within] at isBuffer
  refine ⟨function.params.take position, buffer, function.params.drop (position + 1), ?_, ?_, ?_⟩
  · rw [← Option.some.inj isBuffer, ← List.drop_eq_getElem_cons within, List.take_append_drop]
  · rw [List.length_take, Nat.min_eq_left (Nat.le_of_lt within)]
  · intro argument member
    obtain ⟨index, bound, rfl⟩ := List.mem_take_iff_getElem.1 member
    exact Bool.eq_false_iff.2 (noneBefore index (Nat.lt_of_lt_of_le bound (Nat.min_le_left _ _)))

end Sizing

namespace Function.Comprises

variable {function changed : Function} {params : List Parameter} {position : Nat}

theorem restores (comprises : function.Comprises params) : function.Restores params := by
  cases comprises with
  | whole nowhere =>
      rw [Restores, nowhere]
  | @promoted front back buffer position split single carries =>
      rw [Restores, position]
      refine ⟨?_, buffer, .inl carries, ?_⟩
      · rw [split, List.length_append]
        exact Nat.le_add_right _ _
      · rw [split, insertIdx_length_append, List.flatMap_append]
        rfl

theorem single_of_forall₂ {Changes : Argument → Argument → Prop} {before after : List Argument}
    (pointwise : List.Forall₂ Changes before after)
    (array : ∀ {argument changed}, Changes argument changed →
      changed.isPlainArray = argument.isPlainArray)
    (single : ∀ argument ∈ before, argument.isPlainArray = false) :
    ∀ argument ∈ after, argument.isPlainArray = false := by
  induction pointwise with
  | nil => exact single
  | cons head _ ih =>
      obtain ⟨isSingle, single⟩ := List.forall_mem_cons.1 single
      exact List.forall_mem_cons.2 ⟨(array head).trans isSingle, ih single⟩

/-- A change of the return only, after which it still has the type that was promoted. -/
theorem changeReturn {type : ValueType} (stems : function.ret.type.Stems type)
    (comprises : function.Comprises params) :
    ({ function with ret := { function.ret with type } } : Function).Comprises params := by
  cases comprises with
  | whole nowhere =>
      exact @Comprises.whole { function with ret := { function.ret with type } } nowhere
  | promoted position split single carries =>
      exact .promoted position split single (carries.trans stems)

/-- Parameters that are changed place by place, and remain arrays or no arrays. -/
theorem change {args : List Argument} (Changes : Argument → Argument → Prop)
    (pointwise : List.Forall₂ Changes function.params args)
    (array : ∀ {argument changed}, Changes argument changed →
      changed.isPlainArray = argument.isPlainArray)
    (each : ∀ {argument changed}, Changes argument changed →
      ParametersStem settings argument.flatten changed.flatten)
    (comprises : function.Comprises params) :
    ∃ next, ({ function with params := args } : Function).Comprises next ∧
      ParametersStem settings params next := by
  cases comprises with
  | whole nowhere => exact ⟨_, .whole nowhere, .flatten Changes pointwise each⟩
  | @promoted front back buffer position split single carries =>
      rw [split] at pointwise
      have first := List.forall₂_take front.length pointwise
      have rest := List.forall₂_drop front.length pointwise
      rw [List.take_left] at first
      rw [List.drop_left] at rest
      refine ⟨_, .promoted ?_ (List.take_append_drop front.length args).symm ?_ carries, ?_⟩
      · rw [← first.length_eq]
        exact position
      · exact single_of_forall₂ first array single
      · exact List.rel_append (ParametersStem.flatten Changes first each)
          (.cons (.refl buffer) (ParametersStem.flatten Changes rest each))

theorem promote (accessor : FunctionId) (comprises : function.Comprises params)
    (nowhere : function.ret.promotedFrom = none)
    (found : Sizing.filledBuffer? settings function = some position) :
    (Sizing.promote position accessor function).Comprises params := by
  obtain ⟨front, buffer, back, split, rfl, single⟩ := Sizing.split_of_filledBuffer? found
  have isBuffer : function.params[front.length]? = some (.plain buffer) := by simp [split]
  cases comprises with
  | promoted position => simp [nowhere] at position
  | whole =>
      have flat : function.params.flatMap Argument.flatten =
          front.flatMap Argument.flatten ++ buffer :: back.flatMap Argument.flatten := by
        rw [split, List.flatMap_append]
        rfl
      rw [Sizing.promote_eq accessor isBuffer, flat]
      apply Comprises.promoted rfl _ single (.sized _ _)
      rw [dropParameter, split, List.eraseIdx_append_of_length_le (Nat.le_refl _), Nat.sub_self]
      rfl

/-- The steps by which functions are prepared and sized leave the C parameters to be read off. -/
theorem edit {kind : EditKind} (edited : Edit settings kind function changed)
    (keeps : kind ∈ ({.rename, .refer, .sizeReturn, .sizeParameter, .pair, .retype} : Set EditKind))
    (comprises : function.Comprises params) :
    ∃ next, changed.Comprises next ∧ ParametersStem settings params next := by
  cases edited with
  | convertError | makeAllocator | makeDeallocator | makeMethod | makeStatic | promote
  | dropSuccess => simp at keeps
  | @rename _ renamed _ =>
      refine ⟨params, ?_, .refl params⟩
      cases comprises with
      | whole nowhere => exact @Comprises.whole (function.rename renamed) nowhere
      | promoted position split single carries => exact .promoted position split single carries
  | refer pointwise =>
      apply comprises.change _ pointwise
      · intro argument changed refers
        rcases refers with rfl | ⟨parameter, base, rfl, -, rfl⟩ <;> rfl
      · intro argument changed refers
        rcases refers with rfl | ⟨parameter, base, rfl, isBase, rfl⟩
        · exact .refl _
        · exact .cons (.asReference isBase) .nil
  | sizeReturn accessor needed => exact ⟨params, comprises.changeReturn (.sized _ _), .refl params⟩
  | @sizeParameter _ position accessor unsized =>
      apply comprises.change (Argument.Sized accessor)
      · exact function.forall₂_sized position accessor
      · rintro argument changed (rfl | rfl)
        · rfl
        · cases argument <;> rfl
      · rintro argument changed (rfl | rfl)
        · exact .refl _
        · cases argument with
          | plain parameter => exact .cons (.sized parameter _) .nil
          | buffer data length => exact .refl _
  -- Joining an array with its length does not change what the arguments flatten to.
  | pair =>
      refine ⟨params, ?_, .refl params⟩
      cases comprises with
      | whole nowhere =>
          rw [← Sizing.flatten_pairLengths settings.markers.length]
          exact .whole nowhere
      | @promoted front back buffer position split single carries =>
          rw [← Sizing.flatten_pairLengths settings.markers.length back, split,
            Sizing.pairLengths_append single]
          exact .promoted position rfl single carries
  | retype className => exact ⟨params, comprises.changeReturn (.asNumberHandle _ _), .refl params⟩

end Function.Comprises

/-- The steps by which members are formed leave the C parameters to be read off. -/
theorem Function.Restores.edit {function changed : Function} {params : List Parameter}
    {kind : EditKind} (edited : Edit settings kind function changed)
    (keeps : kind = .rename ∨ kind = .dropSuccess) (restores : function.Restores params) :
    changed.Restores params := by
  cases edited with
  | rename => exact restores
  | dropSuccess =>
      rw [Accessors.dropSuccess]
      split
      · rename_i drops
        have isBool : function.ret.type.isScalar .bool = true := (Bool.and_eq_true_iff.1 drops).2
        rw [Restores] at restores ⊢
        dsimp only [Return.replaceBy]
        cases isPosition : function.ret.promotedFrom with
        | none =>
            rw [isPosition] at restores
            exact restores
        | some position =>
            rw [isPosition] at restores
            obtain ⟨within, buffer, carries, restored⟩ := restores
            refine ⟨within, buffer, ?_, restored⟩
            rcases carries with stems | ⟨isVoid, -⟩
            · exact .inr ⟨rfl, function.ret.type, rfl, stems⟩
            · rw [isVoid] at isBool
              cases isBool
      · exact restores
  | _ => simp at keeps

end Bindery
