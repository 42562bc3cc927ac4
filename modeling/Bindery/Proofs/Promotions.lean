import Bindery.Proofs.Narrowing
import Bindery.Proofs.Parameters
import Bindery.Settings.Defaults

/-!
# The pass that promotes filled buffers

The pass looks for an array and not for an output: it does not ask whether C may write to the array.
What it turns into returns are thus the first arrays of a method, one for each time that the loop
comes to it.  That it comes to every method once cannot be read off a single step: a method that
returns a buffer of truth values looks like one that could be promoted again.
-/

namespace Bindery.Sizing

variable {settings : Settings} {draft final : Draft} {before middle after : Forest}
  {function changed : Function} {buffers : List Parameter} {c : ClassId} {id : FunctionId}
  {ids : List FunctionId}

/-- Whether a function is turned into another one by returning a list of its buffers, one after the
other. -/
inductive HandsOut (settings : Settings) (function : Function) : List Parameter → Function → Prop
  | nothing : HandsOut settings function [] function
  | buffer {buffers : List Parameter} {changed : Function} {position : Nat} {buffer : Parameter}
      (accessor : FunctionId) (earlier : HandsOut settings function buffers changed)
      (found : filledBuffer? settings changed = some position)
      (isBuffer : changed.params[position]? = some (.plain buffer)) :
      HandsOut settings function (buffers ++ [buffer]) (promote position accessor changed)

namespace HandsOut

theorem trans {more : List Parameter} {last : Function}
    (first : HandsOut settings function buffers changed)
    (second : HandsOut settings changed more last) :
    HandsOut settings function (buffers ++ more) last := by
  induction second with
  | nothing =>
      rw [List.append_nil]
      exact first
  | buffer accessor _ found isBuffer ih =>
      rw [← List.append_assoc]
      exact .buffer accessor ih found isBuffer

theorem eq_of_nil (hands : HandsOut settings function [] changed) : changed = function := by
  generalize isNil : ([] : List Parameter) = buffers at hands
  cases hands with
  | nothing => rfl
  | buffer => simp at isNil

/-- A getter fills its first array. -/
theorem arrays_eq_cons {position : Nat} {buffer : Parameter} (accessor : FunctionId)
    (found : filledBuffer? settings function = some position)
    (isBuffer : function.params[position]? = some (.plain buffer)) :
    function.arrays = buffer :: (promote position accessor function).arrays := by
  obtain ⟨⟨array, isArgument, isArray⟩, -⟩ := filledBuffer?_eq_some found
  obtain rfl : array = buffer := by simpa [isArgument] using isBuffer
  obtain ⟨front, first, back, split, rfl, single⟩ := split_of_filledBuffer? found
  obtain rfl : first = array := by simpa [split] using isBuffer
  have noneBefore : (front.filterMap Argument.plain?).filter (·.type.isArray) = [] := by
    refine List.filter_eq_nil_iff.2 fun parameter member isArray => ?_
    obtain ⟨argument, isThere, isPlain⟩ := List.mem_filterMap.1 member
    simpa [Argument.isPlainArray, isPlain, isArray] using single argument isThere
  have rest : (promote front.length accessor function).params = front ++ back := by
    rw [promote_eq accessor isBuffer, Function.dropParameter, split,
      List.eraseIdx_append_of_length_le (Nat.le_refl _), Nat.sub_self]
    rfl
  simp [Function.arrays, Function.plainParameters, split, rest, noneBefore, Argument.plain?,
    isArray]

/-- What a function hands out are its first arrays. -/
theorem arrays_eq (hands : HandsOut settings function buffers changed) :
    function.arrays = buffers ++ changed.arrays := by
  induction hands with
  | nothing => rfl
  | buffer accessor _ found isBuffer ih =>
      rw [ih, arrays_eq_cons accessor found isBuffer, List.append_assoc]
      rfl

/-- What a function hands out last is what it returns. -/
theorem type_eq {last : Parameter} (hands : HandsOut settings function buffers changed)
    (isLast : buffers.getLast? = some last) :
    changed.ret.promotedFrom.isSome = true ∧
      ∃ accessor, changed.ret.type = last.type.withGetter accessor := by
  cases hands with
  | nothing => cases isLast
  | buffer accessor _ found isBuffer =>
      rw [List.getLast?_concat] at isLast
      rw [promote_eq accessor isBuffer, Option.some.inj isLast]
      exact ⟨rfl, accessor, rfl⟩

end HandsOut

/-! ## The loop -/

/-- What a loop does to the functions while it comes to some methods: one buffer at most is handed
out each time. -/
structure HandsOutEach (settings : Settings) (ids : List FunctionId) (before after : Forest) :
    Prop where
  methods : ∀ c, (after.methods c).Sublist (before.methods c)
  hands : ∀ id, ∃ buffers, buffers.length ≤ ids.count id ∧
    HandsOut settings (before.functionAt id) buffers (after.functionAt id)

namespace HandsOutEach

theorem refl (forest : Forest) : HandsOutEach settings [] forest forest :=
  ⟨fun _ => List.Sublist.refl _, fun _ => ⟨[], Nat.zero_le _, .nothing⟩⟩

theorem mono {more : List FunctionId} (hands : HandsOutEach settings ids before after)
    (sublist : ids.Sublist more) : HandsOutEach settings more before after where
  methods := hands.methods
  hands := by
    intro id
    obtain ⟨buffers, few, handed⟩ := hands.hands id
    exact ⟨buffers, few.trans (sublist.count_le id), handed⟩

theorem trans {more : List FunctionId} (first : HandsOutEach settings ids before middle)
    (second : HandsOutEach settings more middle after) :
    HandsOutEach settings (ids ++ more) before after where
  methods := fun c => (second.methods c).trans (first.methods c)
  hands := by
    intro id
    obtain ⟨buffers, few, hands⟩ := first.hands id
    obtain ⟨others, fewOthers, handsOthers⟩ := second.hands id
    refine ⟨buffers ++ others, ?_, hands.trans handsOthers⟩
    rw [List.length_append, List.count_append]
    exact Nat.add_le_add few fewOthers

end HandsOutEach

theorem handsOutEach_resolveFilled :
    HandsOutEach settings [id] draft.forest
      (reached (resolveFilled settings c id draft)).forest := by
  have resolves : Resolves settings {.detach, .edit .promote} c id draft.forest
      (reached (resolveFilled settings c id draft)).forest := resolves_resolveFilled
  have narrowing : ({.detach, .edit .promote} : Set MoveKind) ⊆ narrowingKinds := by
    rintro kind (rfl | rfl) <;> simp [narrowingKinds]
  have narrows : draft.forest.Narrows (fun _ => True) _ :=
    resolves.moves.narrows narrowing fun _ _ _ => trivial
  refine ⟨narrows.methods, ?_⟩
  intro other
  generalize (reached (resolveFilled settings c id draft)).forest = next at resolves
  cases resolves with
  | skip => exact ⟨[], Nat.zero_le _, .nothing⟩
  | @tell kind keyword accessor taken change tells _ _ takes told =>
      have same : taken.functionAt other = draft.forest.functionAt other := by
        rcases takes with rfl | ⟨-, -, -, rfl⟩ <;> rfl
      obtain rfl : kind = .promote := by simpa using tells
      by_cases isEdited : other = id
      · subst isEdited
        rcases taken.functionAt_modifyFunction_or other change with changed | ⟨absent, still⟩
        · rw [changed, same]
          generalize change (draft.forest.functionAt other) = changed at told
          cases told with
          | promote found =>
              obtain ⟨⟨buffer, isBuffer, -⟩, -⟩ := filledBuffer?_eq_some found
              exact ⟨[buffer], by simp, .buffer accessor .nothing found isBuffer⟩
        · rw [still, ← absent, same]
          exact ⟨[], Nat.zero_le _, .nothing⟩
      · rw [Forest.functionAt_modifyFunction_of_ne isEdited, same]
        exact ⟨[], Nat.zero_le _, .nothing⟩

theorem handsOutEach_foldlM {step : Draft → FunctionId → Except Stopped Draft}
    (each : ∀ draft id, HandsOutEach settings [id] draft.forest (reached (step draft id)).forest)
    (ids : List FunctionId) (draft : Draft) :
    HandsOutEach settings ids draft.forest (reached (ids.foldlM step draft)).forest := by
  induction ids generalizing draft with
  | nil => exact .refl _
  | cons id rest ih =>
      have first := each draft id
      rw [List.foldlM_cons]
      cases result : step draft id with
      | error stopped =>
          rw [result] at first
          exact first.mono (List.sublist_append_left [id] rest)
      | ok next =>
          rw [result] at first
          exact first.trans (ih next)

/-- The loop comes to the methods that classes have at the start, and to no others. -/
theorem handsOutEach_tryForEachMethod {step : ClassId → FunctionId → Draft → Except Stopped Draft}
    (each : ∀ draft c id,
      HandsOutEach settings [id] draft.forest (reached (step c id draft)).forest)
    (draft : Draft) :
    HandsOutEach settings (draft.forest.allClasses.flatMap draft.forest.methods) draft.forest
      (reached (draft.tryForEachMethod step)).forest := by
  rw [Draft.tryForEachMethod]
  generalize draft.forest.allClasses = classes
  induction classes generalizing draft with
  | nil => exact .refl _
  | cons c rest ih =>
      have first :=
        handsOutEach_foldlM (fun draft id => each draft c id) (draft.forest.methods c) draft
      rw [List.foldlM_cons, List.flatMap_cons]
      cases result : (draft.forest.methods c).foldlM (fun draft id => step c id draft) draft with
      | error stopped =>
          rw [result] at first
          exact first.mono (List.sublist_append_left _ _)
      | ok next =>
          rw [result] at first
          have fewer : (rest.flatMap next.forest.methods).Sublist
              (rest.flatMap draft.forest.methods) :=
            .flatMap_right rest fun c _ => first.methods c
          exact first.trans ((ih next).mono fewer)

/-- Wherever the pass ends, every function has handed out some of its buffers. -/
theorem handsOutEach_resolveFilledBuffers (settings : Settings) (draft : Draft) :
    HandsOutEach settings (draft.forest.allClasses.flatMap draft.forest.methods) draft.forest
      (reached (resolveFilledBuffers settings draft)).forest :=
  handsOutEach_tryForEachMethod (fun _ _ _ => handsOutEach_resolveFilled) draft

/-- Whether a function is left alone or has its first array promoted. -/
def Promotes (settings : Settings) (function promoted : Function) : Prop :=
  promoted = function ∨ ∃ position accessor,
    filledBuffer? settings function = some position ∧ promoted = promote position accessor function

theorem HandsOut.promotes (hands : HandsOut settings function buffers changed)
    (few : buffers.length ≤ 1) : Promotes settings function changed := by
  cases hands with
  | nothing => exact .inl rfl
  | @buffer earlier between position buffer accessor hands found isBuffer =>
      have none : earlier = [] := by
        rw [List.length_append, List.length_singleton] at few
        exact List.eq_nil_of_length_eq_zero (by omega)
      subst none
      rw [hands.eq_of_nil] at found ⊢
      exact .inr ⟨position, accessor, found, rfl⟩

/-- The pass comes to a method of a sound forest once, so it leaves a function as it is or promotes
its first array. -/
theorem promotes_resolveFilledBuffers (sound : draft.forest.Sound)
    (finished : resolveFilledBuffers settings draft = .ok final) :
    ∀ id, Promotes settings (draft.forest.functionAt id) (final.forest.functionAt id) := by
  intro id
  obtain ⟨buffers, few, hands⟩ := (handsOutEach_resolveFilledBuffers settings draft).hands id
  rw [finished] at hands
  have once := List.nodup_iff_count_le_one.1 sound.methodsDistinct.nodup_allMethods id
  exact hands.promotes (few.trans once)

/-- Wherever the pass over getters ends, each function has handed out its first arrays, at most one
for each time that it was listed as a method, and returns the last of them.  So all that were handed
out are outputs if and only if none of these arrays is one that C only reads. -/
theorem handsOut_resolveFilledBuffers (settings : Settings) (draft : Draft) (id : FunctionId) :
    ∃ buffers,
      HandsOut settings (draft.forest.functionAt id) buffers
        ((reached (resolveFilledBuffers settings draft)).forest.functionAt id) ∧
      buffers.length ≤ (draft.forest.allClasses.flatMap draft.forest.methods).count id ∧
      (draft.forest.functionAt id).arrays = buffers ++
        ((reached (resolveFilledBuffers settings draft)).forest.functionAt id).arrays ∧
      ((∀ buffer ∈ buffers, buffer.type.mutable = true) ↔
        ∀ array ∈ (draft.forest.functionAt id).arrays.take buffers.length,
          array.type.mutable = true) ∧
      (buffers = [] → (reached (resolveFilledBuffers settings draft)).forest.functionAt id =
        draft.forest.functionAt id) ∧
      ∀ last, buffers.getLast? = some last →
        ((reached (resolveFilledBuffers settings draft)).forest.functionAt
          id).ret.promotedFrom.isSome = true ∧
        ((reached (resolveFilledBuffers settings draft)).forest.functionAt id).ret.type.mutable =
          last.type.mutable := by
  obtain ⟨buffers, few, hands⟩ := (handsOutEach_resolveFilledBuffers settings draft).hands id
  refine ⟨buffers, hands, few, hands.arrays_eq, ?_, ?_, ?_⟩
  · rw [hands.arrays_eq, List.take_left]
  · rintro rfl
    exact hands.eq_of_nil
  · intro last isLast
    obtain ⟨promoted, accessor, isType⟩ := hands.type_eq isLast
    rw [isType]
    exact ⟨promoted, rfl⟩

/-- A getter that takes a key before the buffer that it fills. -/
def keyedSavedata : Draft :=
  let bytes (mutable : Bool) : ValueType :=
    { ValueType.void with
      kind := .scalar .byte
      mutable
      isArray := true
      ctype := { name := "uint8_t", isPointer := true } }
  let toxClass := (Forest.empty.requireClass none "Tox").1
  let stored := [
    { name := "get_savedata", cname := "tox_get_savedata", ret := default,
      params := [.plain { name := "key", type := bytes false },
        .plain { name := "savedata", type := bytes true }] },
    { name := "get_savedata_size", cname := "tox_get_savedata_size", ret := default,
      params := [] }].foldl Forest.addFunction toxClass
  { forest := stored.modifyClass 0 fun c => { c with methods := [0, 1] } }

/-- The key becomes the return value, although C only reads it, and the buffer that C fills remains
a parameter. -/
theorem handsOut_keyedSavedata :
    (keyedSavedata.forest.functionAt 0).arrays.map (fun array =>
        (array.name, array.type.mutable)) = [("key", false), ("savedata", true)] ∧
      (resolveFilledBuffers Settings.default keyedSavedata).toOption.map (fun final =>
        ((final.forest.functionAt 0).ret.promotedFrom,
          (final.forest.functionAt 0).ret.type.mutable,
          (final.forest.functionAt 0).arrays.map fun array =>
            (array.name, array.type.mutable))) =
        some (some 0, false, [("savedata", true)]) := by
  decide +kernel

end Bindery.Sizing
