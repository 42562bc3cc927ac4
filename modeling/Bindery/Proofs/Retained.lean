import Bindery.Proofs.Promotions
import Bindery.Proofs.Resolution

/-!
# What sizing keeps of a method

Sizing brings no new reason to search.  The arrays that a method takes get fewer, and each learns at
most its size.  What the method returns stays of its kind, or is one of the arrays.  So a rule that
comes to apply to a method applied to it at the start, but for one case: when a buffer of `void` is
promoted, a getter returns nothing and looks like a setter.
-/

namespace Bindery.Sizing

variable {settings : Settings} {kind : EditKind} {accessor : FunctionId} {argument : Argument}
  {function changed before middle after : Function} {former between parameter : Parameter}

/-! ## Where the rules apply -/

/-- The buffers of a function whose size is unknown. -/
def unsizedBuffers (function : Function) : List Argument :=
  function.params.filter (·.isUnsizedBuffer)

/-- Whether the rule for setters applies to a method, or could once a buffer that it fills has
become what it returns. -/
def comesToSet (settings : Settings) (function : Function) : Bool :=
  (setBuffer? settings function).isSome ||
    (filledBuffer? settings function).isSome && function.arrays.any fun array =>
      (setBuffer? settings { function with ret := { type := array.type } }).isSome

theorem mem_unsizedBuffers_iff : argument ∈ unsizedBuffers function ↔
    ∃ array ∈ function.arrays, argument = .plain array ∧ array.type.sizeAccessor = none := by
  simp only [unsizedBuffers, List.mem_filter, Function.mem_arrays_iff]
  constructor
  · rintro ⟨member, unsized⟩
    cases argument with
    | buffer data length => cases unsized
    | plain array =>
        obtain ⟨isArray, unsized⟩ := Bool.and_eq_true_iff.1 unsized
        exact ⟨array, ⟨member, isArray⟩, rfl, Option.isNone_iff_eq_none.1 unsized⟩
  · rintro ⟨array, ⟨member, isArray⟩, rfl, unsized⟩
    exact ⟨member, Bool.and_eq_true_iff.2 ⟨isArray, Option.isNone_iff_eq_none.2 unsized⟩⟩

theorem isSome_filledBuffer?_iff : (filledBuffer? settings function).isSome = true ↔
    actsAsGetter settings function = true ∧ returnsSuccess function = true ∧
      function.arrays ≠ [] := by
  have arrays : function.params.any (·.isPlainArray) = true ↔ function.arrays ≠ [] := by
    simp only [List.any_eq_true, Ne, List.eq_nil_iff_forall_not_mem, Function.mem_arrays_iff,
      not_forall, not_not]
    constructor
    · rintro ⟨argument, member, isArray⟩
      cases argument with
      | buffer data length => cases isArray
      | plain array => exact ⟨array, member, isArray⟩
    · rintro ⟨array, member, isArray⟩
      exact ⟨.plain array, member, isArray⟩
  rw [filledBuffer?_eq, ← arrays, ← List.findIdx?_isSome]
  cases actsAsGetter settings function <;> cases returnsSuccess function <;> simp

theorem isSome_findIdx?_isUnsizedBuffer_iff :
    (function.params.findIdx? (·.isUnsizedBuffer)).isSome = true ↔
      unsizedBuffers function ≠ [] := by
  simp [unsizedBuffers, List.findIdx?_isSome]

theorem isSome_setBuffer?_iff : (setBuffer? settings function).isSome = true ↔
    Text.contains function.name settings.markers.setter = true ∧
      function.ret.type.isScalar .void = true ∧ unsizedBuffers function ≠ [] := by
  rw [setBuffer?, ← isSome_findIdx?_isUnsizedBuffer_iff]
  cases Text.contains function.name settings.markers.setter <;>
    cases function.ret.type.isScalar .void <;> simp

theorem comesToSet_iff : comesToSet settings function = true ↔
    Text.contains function.name settings.markers.setter = true ∧ unsizedBuffers function ≠ [] ∧
      (function.ret.type.isScalar .void = true ∨
        (filledBuffer? settings function).isSome = true ∧
          ∃ array ∈ function.arrays, array.type.isScalar .void = true) := by
  have promoted (type : ValueType) :
      (setBuffer? settings { function with ret := { type } }).isSome = true ↔
        Text.contains function.name settings.markers.setter = true ∧
          type.isScalar .void = true ∧ unsizedBuffers function ≠ [] :=
    isSome_setBuffer?_iff
  simp only [comesToSet, Bool.or_eq_true, Bool.and_eq_true, List.any_eq_true, promoted,
    isSome_setBuffer?_iff]
  constructor
  · rintro (⟨setter, void, unsized⟩ | ⟨filled, array, isArray, setter, void, unsized⟩)
    · exact ⟨setter, unsized, .inl void⟩
    · exact ⟨setter, unsized, .inr ⟨filled, array, isArray, void⟩⟩
  · rintro ⟨setter, unsized, void | ⟨filled, array, isArray, void⟩⟩
    · exact .inl ⟨setter, void, unsized⟩
    · exact .inr ⟨filled, array, isArray, setter, void, unsized⟩

/-! ## What is kept -/

/-- Whether a parameter differs from a former one at most in that its size is known. -/
structure SizedAtMost (former parameter : Parameter) : Prop where
  name : parameter.name = former.name
  kind : parameter.type.kind = former.type.kind
  unsized : parameter.type.sizeAccessor = none → former.type.sizeAccessor = none

theorem SizedAtMost.refl (parameter : Parameter) : SizedAtMost parameter parameter :=
  ⟨rfl, rfl, fun unsized => unsized⟩

theorem SizedAtMost.trans (first : SizedAtMost former between)
    (second : SizedAtMost between parameter) : SizedAtMost former parameter :=
  ⟨second.name.trans first.name, second.kind.trans first.kind,
    fun unsized => first.unsized (second.unsized unsized)⟩

/-- What sizing keeps of a function. -/
structure Retains (settings : Settings) (before after : Function) : Prop where
  name : after.name = before.name
  isStatic : after.isStatic = before.isStatic
  arrays : ∀ array ∈ after.arrays, ∃ former ∈ before.arrays, SizedAtMost former array
  returns : after.ret.type.kind = before.ret.type.kind ∨
    (filledBuffer? settings before).isSome = true ∧
      ∃ array ∈ before.arrays, after.ret.type.kind = array.type.kind
  needed : needsReturnAccessor settings after = true → needsReturnAccessor settings before = true

namespace Retains

theorem refl (function : Function) : Retains settings function function :=
  ⟨rfl, rfl, fun array isArray => ⟨array, isArray, .refl array⟩, .inl rfl, fun needed => needed⟩

theorem filled (retains : Retains settings before after)
    (applies : (filledBuffer? settings after).isSome = true) :
    (filledBuffer? settings before).isSome = true := by
  rcases retains.returns with same | ⟨applied, -⟩
  · obtain ⟨getter, success, arrays⟩ := isSome_filledBuffer?_iff.1 applies
    obtain ⟨array, isArray⟩ := List.exists_mem_of_ne_nil _ arrays
    obtain ⟨former, isFormer, -⟩ := retains.arrays array isArray
    rw [actsAsGetter, retains.name] at getter
    rw [returnsSuccess, ValueType.isScalar, ValueType.isScalar, same] at success
    exact isSome_filledBuffer?_iff.2 ⟨getter, success, List.ne_nil_of_mem isFormer⟩
  · exact applied

theorem trans (first : Retains settings before middle) (second : Retains settings middle after) :
    Retains settings before after where
  name := second.name.trans first.name
  isStatic := second.isStatic.trans first.isStatic
  arrays := by
    intro array isArray
    obtain ⟨between, isBetween, sizedLater⟩ := second.arrays array isArray
    obtain ⟨former, isFormer, sized⟩ := first.arrays between isBetween
    exact ⟨former, isFormer, sized.trans sizedLater⟩
  returns := by
    rcases second.returns with same | ⟨applies, array, isArray, same⟩
    · rcases first.returns with sameBefore | ⟨applies, array, isArray, sameBefore⟩
      · exact .inl (same.trans sameBefore)
      · exact .inr ⟨applies, array, isArray, same.trans sameBefore⟩
    · obtain ⟨former, isFormer, sized⟩ := first.arrays array isArray
      exact .inr ⟨first.filled applies, former, isFormer, same.trans sized.kind⟩
  needed := fun needed => first.needed (second.needed needed)

theorem names_arrays_subset (retains : Retains settings before after) :
    after.arrays.map (·.name) ⊆ before.arrays.map (·.name) := by
  intro name member
  obtain ⟨array, isArray, rfl⟩ := List.mem_map.1 member
  obtain ⟨former, isFormer, sized⟩ := retains.arrays array isArray
  exact List.mem_map.2 ⟨former, isFormer, sized.name.symm⟩

theorem names_unsizedBuffers_subset (retains : Retains settings before after) :
    (unsizedBuffers after).map (·.name) ⊆ (unsizedBuffers before).map (·.name) := by
  intro name member
  obtain ⟨argument, isUnsized, rfl⟩ := List.mem_map.1 member
  obtain ⟨array, isArray, rfl, unsized⟩ := mem_unsizedBuffers_iff.1 isUnsized
  obtain ⟨former, isFormer, sized⟩ := retains.arrays array isArray
  exact List.mem_map.2 ⟨.plain former,
    mem_unsizedBuffers_iff.2 ⟨former, isFormer, rfl, sized.unsized unsized⟩, sized.name.symm⟩

theorem unsizedBuffers_ne_nil (retains : Retains settings before after)
    (unsized : unsizedBuffers after ≠ []) : unsizedBuffers before ≠ [] := by
  obtain ⟨argument, isUnsized⟩ := List.exists_mem_of_ne_nil _ unsized
  have member := retains.names_unsizedBuffers_subset (List.mem_map_of_mem isUnsized)
  obtain ⟨former, isFormer, -⟩ := List.mem_map.1 member
  exact List.ne_nil_of_mem isFormer

theorem comesToSet (retains : Retains settings before after)
    (comes : comesToSet settings after = true) : comesToSet settings before = true := by
  obtain ⟨setter, unsized, returns⟩ := comesToSet_iff.1 comes
  rw [retains.name] at setter
  refine comesToSet_iff.2 ⟨setter, retains.unsizedBuffers_ne_nil unsized, ?_⟩
  simp only [ValueType.isScalar] at returns ⊢
  rcases returns with void | ⟨applies, array, isArray, void⟩
  · rcases retains.returns with same | ⟨applied, array, isArray, same⟩
    · exact .inl (same ▸ void)
    · exact .inr ⟨applied, array, isArray, same ▸ void⟩
  · obtain ⟨former, isFormer, sized⟩ := retains.arrays array isArray
    exact .inr ⟨retains.filled applies, former, isFormer, sized.kind ▸ void⟩

end Retains

/-! ## What each rewriting keeps -/

theorem exists_former_of_mapParameter {position : Nat} {sizer : SizeAccessor} :
    ∀ array ∈ (function.mapParameter position fun parameter =>
        { parameter with type := { parameter.type with sizeAccessor := some sizer } }).arrays,
      ∃ former ∈ function.arrays, SizedAtMost former array := by
  intro array isArray
  obtain ⟨isPlain, isArray⟩ := Function.mem_arrays_iff.1 isArray
  obtain ⟨origin, isOrigin, same | same⟩ :=
    exists_of_mem_forall₂ (function.forall₂_sized position sizer) isPlain
  · subst same
    exact ⟨array, Function.mem_arrays_iff.2 ⟨isOrigin, isArray⟩, .refl array⟩
  · cases origin with
    | plain declared =>
        cases same
        exact ⟨declared, Function.mem_arrays_iff.2 ⟨isOrigin, isArray⟩, rfl, rfl,
          fun unsized => nomatch unsized⟩
    | buffer data length => cases same

/-- A function that has been told of an accessor has no new reason to search for one. -/
theorem Told.retains (told : Told settings accessor kind function changed) :
    Retains settings function changed := by
  cases told with
  | sizeReturn wasNeeded =>
      exact ⟨rfl, rfl, fun array isArray => ⟨array, isArray, .refl array⟩, .inl rfl,
        fun _ => wasNeeded⟩
  | promote found =>
      obtain ⟨⟨buffer, isBuffer, -⟩, -⟩ := filledBuffer?_eq_some found
      have split := HandsOut.arrays_eq_cons accessor found isBuffer
      have filled : (filledBuffer? settings function).isSome = true := by
        rw [found]
        rfl
      rw [promote_eq accessor isBuffer] at split ⊢
      refine ⟨rfl, rfl, fun array isArray => ⟨array, ?_, .refl array⟩,
        .inr ⟨filled, buffer, ?_, rfl⟩, fun needed => ?_⟩
      · exact split ▸ List.mem_cons_of_mem _ isArray
      · exact split ▸ List.mem_cons_self
      · exact absurd needed (Bool.eq_false_iff.1 (answered_of_sized rfl))
  | sizeParameter =>
      exact ⟨rfl, rfl, exists_former_of_mapParameter, .inl rfl, fun needed => needed⟩

/-- Joining arrays with lengths uses up arrays. -/
theorem retains_pairLengths (settings : Settings) (function : Function) (marker : String) :
    Retains settings function
      { function with params := pairLengths marker function.params } where
  name := rfl
  isStatic := rfl
  arrays := by
    intro array isArray
    obtain ⟨isThere, isArray⟩ := Function.mem_arrays_iff.1 isArray
    exact ⟨array, Function.mem_arrays_iff.2 ⟨mem_of_mem_pairLengths isThere, isArray⟩, .refl array⟩
  returns := .inl rfl
  needed := fun needed => needed

end Bindery.Sizing
