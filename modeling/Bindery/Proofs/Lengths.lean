import Bindery.Proofs.Promotions
import Bindery.Proofs.Runs
import Bindery.Proofs.Stopping

/-!
# Getters that take the length of what they fill

A getter can take its array together with a length.  The rule for getters comes before arrays are
paired with the lengths beside them, and does not look at lengths: such a getter is sized by a
companion, like all others, or else it ends the conversion.  So the rules only give up at it when
every companion that was in sight has been taken off its class for another getter, and if there
never was one, the length does not help.
-/

namespace Bindery.Sizing

variable {settings : Settings} {draft final : Draft} {start : Forest} {stopped : Stopped}
  {function changed : Function} {c : ClassId} {id other : FunctionId}
  {result : Except Stopped Draft}

/-- A method named like a getter that returns nothing or only success, by value, and whose first
array has something named like a length right after it. -/
structure FillsWithLength (settings : Settings) (function : Function) : Prop where
  marked : Text.contains function.name settings.markers.getter = true
  success : returnsSuccess function = true
  single : function.ret.type.isArray = false
  direct : function.ret.type.ctype.isPointer = false
  beside : ∃ front data length back, function.params = front ++ .plain data :: length :: back ∧
    (∀ argument ∈ front, argument.isPlainArray = false) ∧ data.type.isArray = true ∧
    Text.contains length.name settings.markers.length = true

namespace FillsWithLength

theorem unneeded (fills : FillsWithLength settings function) :
    needsReturnAccessor settings function = false := by
  simp [needsReturnAccessor, returnsBuffer, returnsEvent, fills.single, fills.direct]

theorem unresolved (fills : FillsWithLength settings function) : ¬Resolved settings function := by
  obtain ⟨front, data, length, back, split, -, isArray, -⟩ := fills.beside
  intro resolved
  have getter : actsAsGetter settings function = true := by simp [actsAsGetter, fills.marked]
  have plain := resolved.drained getter fills.single fills.success (.plain data) (by simp [split])
  simp [Argument.isPlainArray, Argument.plain?, isArray] at plain

end FillsWithLength

/-- Whether a type is that of an array that a getter had at the start, with the size told by a
companion that was in sight of its class and goes by its keyword. -/
def TypeLocated (settings : Settings) (start : Forest) (id : FunctionId) (type : ValueType) :
    Prop :=
  ∃ place, id ∈ start.methods place ∧ ∃ name companion, InSight start place name companion ∧
    isSizeOf settings (getterKeyword settings (start.functionAt id)).search name = true ∧
    ∃ array ∈ (start.functionAt id).arrays, type = array.type.withGetter companion

/-- Whether a function, which may have changed, returns one of its arrays. -/
structure Located (settings : Settings) (start : Forest) (id : FunctionId) (changed : Function) :
    Prop where
  arrays : changed.arrays ⊆ (start.functionAt id).arrays
  returned : TypeLocated settings start id changed.ret.type

/-- What is known of a getter while returned buffers are resolved: nothing has happened to it. -/
structure Untouched (settings : Settings) (start : Forest) (id : FunctionId) (forest : Forest) :
    Prop where
  takes : Takes (fun name => Text.contains name settings.markers.getter = true) start forest
  same : forest.functionAt id = start.functionAt id

/-- What is known of a function while getters are resolved: nothing has happened to it, or its size
has been located. -/
structure Awaits (settings : Settings) (start : Forest) (id : FunctionId) (forest : Forest) :
    Prop where
  takes : Takes (fun name => Text.contains name settings.markers.getter = true) start forest
  same_or_located : forest.functionAt id = start.functionAt id ∨
    Located settings start id (forest.functionAt id)

theorem Untouched.awaits {forest : Forest} (untouched : Untouched settings start id forest) :
    Awaits settings start id forest :=
  ⟨untouched.takes, .inl untouched.same⟩

namespace Awaits

theorem arrays_subset (awaits : Awaits settings start id draft.forest) :
    (draft.forest.functionAt id).arrays ⊆ (start.functionAt id).arrays := by
  rcases awaits.same_or_located with same | located
  · rw [same]
    exact List.Subset.refl _
  · exact located.arrays

theorem keywordAt_eq (awaits : Awaits settings start id draft.forest) :
    (Rule.fills settings).keywordAt draft.forest c id =
      (getterKeyword settings (start.functionAt id)).search :=
  congrArg Keyword.search (getterKeyword_of_name (awaits.takes.name id))

/-- The turn of any method leaves the function as it is or locates its size. -/
theorem serves (awaits : Awaits settings start id draft.forest)
    (serves : Serves settings (.fills settings) c other draft result) :
    Awaits settings start id (reached result).forest := by
  refine ⟨awaits.takes.trans serves.takes, ?_⟩
  -- Only its own turn changes the function, and only if it is a method with a buffer to fill.
  by_cases isTurn : id = other ∧ id ∈ draft.forest.methods c ∧
      (filledBuffer? settings (draft.forest.functionAt id)).isSome = true
  · obtain ⟨rfl, isMethod, applies⟩ := isTurn
    cases serves with
    | skip idle =>
        have unfilled : (filledBuffer? settings (draft.forest.functionAt id)).isSome = false :=
          idle isMethod
        simp [applies] at unfilled
    | fail _ _ _ same =>
        rw [reached, same]
        exact awaits.same_or_located
    | @serve companion next _ _ found changes =>
        rw [awaits.keywordAt_eq] at found
        obtain ⟨name, inSight, isSize⟩ := inSight_of_accessor? found
        obtain ⟨position, filled⟩ := Option.isSome_iff_exists.1 applies
        obtain ⟨⟨array, isBuffer, -⟩, -⟩ := filledBuffer?_eq_some filled
        have arrays := HandsOut.arrays_eq_cons companion filled isBuffer
        have isArray : array ∈ (draft.forest.functionAt id).arrays :=
          arrays ▸ List.mem_cons_self
        have served : next.forest.functionAt id =
            promote position companion (draft.forest.functionAt id) :=
          (Serves.functionAt_of_changes applies changes).trans (Rule.serve_fills filled)
        rw [reached, served]
        refine .inr ⟨fun parameter member => awaits.arrays_subset ?_, c,
          (awaits.takes.methods c).subset isMethod, name, companion, awaits.takes.inSight inSight,
          isSize, array, awaits.arrays_subset isArray, ?_⟩
        · rw [arrays]
          exact List.mem_cons_of_mem _ member
        · rw [promote_eq companion isBuffer]
          rfl
  · rw [serves.functionAt_eq]
    · exact awaits.same_or_located
    · intro same isMethod
      subst same
      exact Bool.eq_false_iff.2 fun applies => isTurn ⟨rfl, isMethod, applies⟩

end Awaits

/-! ## From the first rule to the last -/

section Runs

variable (fills : FillsWithLength settings (draft.forest.functionAt id))
include fills

/-- The rule for returned buffers does nothing to the getter. -/
theorem untouched_resolveReturn {turn : Draft}
    (untouched : Untouched settings draft.forest id turn.forest) :
    Untouched settings draft.forest id (reached (resolveReturn settings c other turn)).forest := by
  have serves := serves_resolveReturn settings c other turn
  refine ⟨untouched.takes.trans serves.takes, ?_⟩
  rw [serves.functionAt_eq, untouched.same]
  rintro rfl -
  rw [untouched.same]
  exact fills.unneeded

theorem untouched_resolveReturns {answered : Draft}
    (finished : resolveReturns settings draft = .ok answered) :
    Untouched settings draft.forest id answered.forest := by
  change Untouched settings draft.forest id (reached (.ok answered)).forest
  rw [← finished]
  exact kept_tryForEachMethod (fun _ _ _ => untouched_resolveReturn fills) ⟨.refl _, rfl⟩

/-- Where the rules come to an end, a getter that is still a method has been sized by a companion.
-/
theorem located_resolveBuffers (finished : resolveBuffers settings draft = .ok final)
    (isMethod : id ∈ final.forest.methods c) :
    TypeLocated settings draft.forest id (final.forest.functionAt id).ret.type := by
  rw [resolveBuffers_eq] at finished
  obtain ⟨answered, returns, finished⟩ := exists_ok_of_bind finished
  obtain ⟨drained, filled, finished⟩ := exists_ok_of_bind finished
  obtain rfl := Except.ok.inj finished
  have awaits : Awaits settings draft.forest id (reached (.ok drained)).forest := by
    rw [← filled]
    exact kept_tryForEachMethod (fun draft c other awaits =>
      awaits.serves (serves_resolveFilled settings c other draft))
      (untouched_resolveReturns fills returns).awaits
  have keepsReturn : drained.forest.Narrows
      (fun function => function.ret.type = (drained.forest.functionAt id).ret.type)
      (resolvePassed settings drained).forest := by
    refine narrows_resolvePassed_of_keeps (fun passed step same => ?_) drained
    rw [← same]
    cases step with
    | descend => simp [passedKinds] at passed
    | edit edited =>
        cases edited with
        | sizeParameter | pair => rfl
        | _ => simp [passedKinds] at passed
  rw [keepsReturn.keeps c id isMethod rfl]
  rcases awaits.same_or_located with same | located
  · have resolved := resolved_resolveFilledBuffers (answered_resolveReturns returns) filled c id
      ((keepsReturn.methods c).subset isMethod)
    rw [show drained.forest.functionAt id = draft.forest.functionAt id from same] at resolved
    exact absurd resolved fills.unresolved
  · exact located.returned

/-- Where the rules give up at the getter, whatever could have sized it has been taken off its class
for another getter. -/
theorem gone_of_failsAt (fails : FailsAt settings draft c id stopped) :
    GivesUp settings c id stopped ∧ ∀ name companion, InSight draft.forest c name companion →
      isSizeOf settings (getterKeyword settings (draft.forest.functionAt id)).search name = true →
      Text.contains name settings.markers.getter = true ∧
        ∃ place, companion ∈ draft.forest.methods place ∧
          companion ∉ stopped.draft.forest.methods place ∧
          (companion, place) ∈ stopped.draft.forest.detached := by
  rcases fails with ⟨turn, comes, failed⟩ | ⟨answered, returns, turn, comes, failed⟩
  · have untouched : Untouched settings draft.forest id turn.forest :=
      comes.kept (fun _ _ _ => untouched_resolveReturn fills) ⟨.refl _, rfl⟩
    have serves := serves_resolveReturn settings c id turn
    rw [failed] at serves
    cases serves with
    | fail _ applies =>
        rw [untouched.same] at applies
        have needed : needsReturnAccessor settings (draft.forest.functionAt id) = true := applies
        simp [fills.unneeded] at needed
  · have awaits : Awaits settings draft.forest id turn.forest :=
      comes.kept (fun draft c other awaits =>
        awaits.serves (serves_resolveFilled settings c other draft))
        (untouched_resolveReturns fills returns).awaits
    refine ⟨(givesUp_resolveFilled failed).1, ?_⟩
    intro name companion inSight isSize
    have serves := serves_resolveFilled settings c id turn
    rw [failed] at serves
    cases serves with
    | fail _ _ missing same =>
        rw [awaits.keywordAt_eq, accessor?_eq_none_iff] at missing
        rw [same]
        rcases awaits.takes.inSight_or_gone inSight with still | gone
        · simp [missing name companion still] at isSize
        · exact gone

/-- The length beside its array makes no difference to a getter.  The rules for buffers give up at
the turn of a method or not at all.  Where they give up at the getter, each companion that could
have sized it has been taken off its class for another getter.  Where they come to an end, it is no
method any more, or it returns an array that a companion sizes. -/
theorem resolveBuffers_fillsWithLength :
    (∀ stopped, resolveBuffers settings draft = .error stopped ↔
      ∃ c other, FailsAt settings draft c other stopped) ∧
    (∀ c stopped, FailsAt settings draft c id stopped →
      GivesUp settings c id stopped ∧ ∀ name companion, InSight draft.forest c name companion →
        isSizeOf settings (getterKeyword settings (draft.forest.functionAt id)).search name = true →
        Text.contains name settings.markers.getter = true ∧
          ∃ place, companion ∈ draft.forest.methods place ∧
            companion ∉ stopped.draft.forest.methods place ∧
            (companion, place) ∈ stopped.draft.forest.detached) ∧
    ∀ final, resolveBuffers settings draft = .ok final → ∀ c, id ∈ final.forest.methods c →
      TypeLocated settings draft.forest id (final.forest.functionAt id).ret.type :=
  ⟨fun _ => resolveBuffers_eq_error_iff, fun _ _ fails => gone_of_failsAt fills fails,
    fun _ finished _ isMethod => located_resolveBuffers fills finished isMethod⟩

end Runs

/-- A getter that takes the length of the name that it fills. -/
def lengthGetter : Function :=
  let scalar (kind : Scalar) : ValueType := { ValueType.void with kind := .scalar kind }
  { name := "get_name", cname := "tox_get_name"
    ret := { type := scalar .bool }
    params := [.plain { name := "name", type := { scalar .byte with isArray := true } },
      .plain { name := "name_length", type := scalar .ulong }] }

theorem fillsWithLength_lengthGetter : FillsWithLength Settings.default lengthGetter where
  marked := by decide +kernel
  success := by decide +kernel
  single := rfl
  direct := rfl
  beside := ⟨[], _, _, [], rfl, by simp, rfl, by decide +kernel⟩

/-- A class with this getter, and with methods that take nothing. -/
def lengthBeside (others : List String) : Draft :=
  let stored := lengthGetter :: others.map fun name =>
    { name, cname := "", ret := { type := ValueType.void }, params := [] }
  let toxClass := (Forest.empty.requireClass none "Tox").1
  { forest := { toxClass with functions := stored }.modifyClass 0 fun c =>
      { c with methods := List.range stored.length } }

/-- With a companion, the getter returns its array, and the companion tells the size. -/
theorem typeLocated_lengthBeside :
    FillsWithLength Settings.default ((lengthBeside ["name_size"]).forest.functionAt 0) ∧
    ∃ final, resolveBuffers Settings.default (lengthBeside ["name_size"]) = .ok final ∧
      0 ∈ final.forest.methods 0 ∧
      TypeLocated Settings.default (lengthBeside ["name_size"]).forest 0
        (final.forest.functionAt 0).ret.type := by
  have fills : FillsWithLength Settings.default
      ((lengthBeside ["name_size"]).forest.functionAt 0) := fillsWithLength_lengthGetter
  obtain ⟨final, finished, told⟩ := Conversion.exists_ok_of_told
    (fun final : Draft => decide (0 ∈ final.forest.methods 0))
    (show (resolveBuffers Settings.default (lengthBeside ["name_size"])).toOption.map _ =
      some true by decide +kernel)
  have isMethod := of_decide_eq_true told
  exact ⟨fills, final, finished, isMethod,
    (resolveBuffers_fillsWithLength fills).2.2 final finished 0 isMethod⟩

/-- Without one, the length does not help, and the conversion ends. -/
theorem missing_lengthBeside :
    FillsWithLength Settings.default ((lengthBeside []).forest.functionAt 0) ∧
    ∃ stopped, resolveBuffers Settings.default (lengthBeside []) = .error stopped ∧
      stopped.cause = .convention (.missingSizeAccessor "Tox" "get_name" ["name"]) :=
  ⟨fillsWithLength_lengthGetter, Conversion.exists_error_of_told Stopped.cause (by decide +kernel)⟩

end Bindery.Sizing
