import Bindery.Proofs.Pairing
import Bindery.Proofs.Resolution

/-!
# What a finished header leaves behind

The passes of a header come one after the other, and each of them settles something for every
method that is left when it ends: returned buffers are sized, arrays are joined with the lengths
beside them, and what can be a property is one.  Later passes keep it.  Renaming comes last, after
all rules that go by the names of methods, so where a name was configured those rules may have more
to do.
-/

namespace Bindery

variable {settings : Settings} {draft final : Draft} {function : Function}
  {Good Better : Function → Prop} {before after : Forest} {c : ClassId} {id : FunctionId}

/-! ## Loops that change or remove every method -/

namespace Forest

theorem AllMethods.and {forest : Forest} (good : forest.AllMethods Good)
    (better : forest.AllMethods Better) :
    forest.AllMethods fun function => Good function ∧ Better function :=
  fun c id isMethod => ⟨good c id isMethod, better c id isMethod⟩

theorem AllMethods.imp {forest : Forest} (all : forest.AllMethods Good)
    (better : ∀ function, Good function → Better function) : forest.AllMethods Better :=
  fun c id isMethod => better _ (all c id isMethod)

/-- Whether methods leave and the others stay exactly as they are. -/
def Sheds (before after : Forest) : Prop :=
  ∀ Good, before.Narrows Good after

/-- A method that leaves its class is no method any more, whatever else becomes of it and of the
class. -/
theorem sheds_leave {forest : Forest} (sound : forest.Sound) (isMethod : id ∈ forest.methods c)
    {change : Function → Function} {alter : Class → Class}
    (leaves : (alter (forest.classAt c)).methods = (forest.methods c).erase id) :
    forest.Sheds ((forest.modifyFunction id change).modifyClass c alter) ∧
      ∀ place, id ∉ ((forest.modifyFunction id change).modifyClass c alter).methods place := by
  have valid : c < (forest.modifyFunction id change).hierarchy.size :=
    lt_size_of_mem_methods isMethod
  have here : ((forest.modifyFunction id change).modifyClass c alter).methods c =
      (forest.methods c).erase id := by
    rw [methods, classAt_modifyClass_self valid]
    exact leaves
  have elsewhere {place : ClassId} (different : place ≠ c) :
      ((forest.modifyFunction id change).modifyClass c alter).methods place =
        forest.methods place := by
    rw [methods, classAt_modifyClass_of_ne different]
    rfl
  have gone : ∀ place,
      id ∉ ((forest.modifyFunction id change).modifyClass c alter).methods place := by
    intro place stays
    by_cases same : place = c
    · rw [same, here] at stays
      exact (sound.methods_nodup c).not_mem_erase stays
    · rw [elsewhere same] at stays
      exact same (sound.class_unique (Multiset.mem_of_le (methods_le_held _) stays)
        (Multiset.mem_of_le (methods_le_held _) isMethod))
  refine ⟨fun Good => ⟨rfl, fun place => ?_, fun place other stays good => ?_⟩, gone⟩
  · by_cases same : place = c
    · rw [same, here]
      exact List.erase_sublist
    · rw [elsewhere same]
  · have different : other ≠ id := fun same => gone place (same ▸ stays)
    rw [functionAt_modifyClass, functionAt_modifyFunction_of_ne different]
    exact good

end Forest

theorem narrows_forEachMethod_modify {change : Function → Function}
    (keeps : ∀ function, Good function → Good (change function)) (draft : Draft) :
    draft.forest.Narrows Good
      (draft.forEachMethod fun _ id draft => draft.modifyFunction id change).forest :=
  narrows_forEachMethod (fun _ _ _ => .modifyFunction (keeps _)) draft

/-- A loop that rewrites every method makes all of them good, if rewriting does. -/
theorem allMethods_forEachMethod_modify {change : Function → Function}
    (good : ∀ function, Good (change function)) {draft : Draft} (sound : draft.forest.Sound) :
    (draft.forEachMethod fun _ id draft => draft.modifyFunction id change).forest.AllMethods
      Good := by
  refine (settles_forEachMethod (.same Forest.Sound) (fun {draft} {c} {id} {_} sound => ?_)
    sound).2
  refine ⟨sound.modifyFunction, .modifyFunction fun _ => good _, fun isMethod => ?_⟩
  have present := sound.modifyFunction.lt_of_mem_methods isMethod
  rw [Forest.functionCount_modifyFunction] at present
  rw [Draft.forest_modifyFunction, Forest.functionAt_modifyFunction_self present]
  exact good _

/-- A loop that lets methods leave makes the others good in one more way. -/
theorem allMethods_and_forEachMethod {step : ClassId → FunctionId → Draft → Draft}
    (Remaining : ClassId → List FunctionId → Forest → Prop)
    (enter : ∀ {forest : Forest} (c : ClassId), forest.Sound →
      Remaining c (forest.methods c) forest)
    (each : ∀ {draft : Draft} {c : ClassId} {id : FunctionId} {rest : List FunctionId},
      draft.forest.Sound → Remaining c (id :: rest) draft.forest →
      (step c id draft).forest.Sound ∧ Remaining c rest (step c id draft).forest ∧
        draft.forest.Sheds (step c id draft).forest ∧
        (id ∈ (step c id draft).forest.methods c →
          Better ((step c id draft).forest.functionAt id)))
    (sound : draft.forest.Sound) (all : draft.forest.AllMethods Good) :
    (draft.forEachMethod step).forest.AllMethods
      fun function => Good function ∧ Better function := by
  have loop : LoopInvariant (fun forest => forest.Sound ∧ forest.AllMethods Good)
      (fun c rest forest => (forest.Sound ∧ forest.AllMethods Good) ∧ Remaining c rest forest) :=
    .beside fun c facts => enter c facts.1
  refine (settles_forEachMethod loop (fun facts => ?_) ⟨sound, all⟩).2
  obtain ⟨⟨sound, all⟩, remaining⟩ := facts
  obtain ⟨soundNext, remainingNext, sheds, better⟩ := each sound remaining
  have allNext := (sheds Good).allMethods all
  exact ⟨⟨⟨soundNext, allNext⟩, remainingNext⟩, sheds _, fun stays =>
    ⟨allNext _ _ stays, better stays⟩⟩

/-- Moves that rewrite no function keep everything about the methods that stay. -/
theorem Moves.sheds {kinds : Set MoveKind} (moves : Moves settings kinds before after)
    (narrowing : kinds ⊆ narrowingKinds) (still : ∀ kind, MoveKind.edit kind ∉ kinds) :
    before.Sheds after := by
  refine fun Good => moves.narrows narrowing fun {kind} {_} {_} allowed step => ?_
  cases step with
  | edit edited => exact absurd allowed (still _)
  | descend => exact absurd (narrowing allowed) (by simp [narrowingKinds])

/-! ## Methods with their buffers done -/

/-- Whether a getter has no buffer left to fill.  One that returned an array before a sign of
success was dropped is left out: the array counted as such a sign. -/
def Emptied (settings : Settings) (function : Function) : Prop :=
  Sizing.actsAsGetter settings function = true → function.ret.type.isArray = false →
    Sizing.returnsSuccess function = true →
    (function.ret.type.isScalar .void = true → function.ret.replaced.any (·.isArray) = false) →
    ∀ argument ∈ function.params, argument.isPlainArray = false

/-- What is known of a method when members are formed. -/
structure Ready (settings : Settings) (function : Function) : Prop where
  answered : function.ret.type.containsNumberHandle = false → Sizing.Answered settings function
  emptied : Emptied settings function
  apart : Sizing.Apart settings.markers.length function.params
  retyped : Corrections.retypeReturn settings function = function

namespace Sizing

theorem Apart.step {kind : MoveKind} {changed : Function}
    (apart : Apart settings.markers.length function.params)
    (sizing : kind ∈ ({.edit .sizeParameter, .edit .pair} : Set MoveKind))
    (step : Step settings kind function changed) :
    Apart settings.markers.length changed.params := by
  cases step with
  | descend => simp at sizing
  | edit edited =>
      cases edited with
      | sizeParameter accessor unsized => exact apart.mapParameter unsized
      | pair => exact apart_pairLengths _ _
      | _ => simp at sizing

theorem sound_resolvePassed (sound : draft.forest.Sound) :
    (resolvePassed settings draft).forest.Sound := by
  have setters := (makes_resolveSetters settings).sound_ofTotal sound
  have overrides := (makes_resolveOverrides settings).sound_ofTotal setters
  have pairs := (makes_pairParameters settings).sound_ofTotal overrides
  exact (makes_resolveResiduals settings).sound_ofTotal pairs

theorem apart_resolvePassed (sound : draft.forest.Sound) :
    (resolvePassed settings draft).forest.AllMethods
      fun function => Apart settings.markers.length function.params := by
  have setters := (makes_resolveSetters settings).sound_ofTotal sound
  have overrides := (makes_resolveOverrides settings).sound_ofTotal setters
  have paired : (pairParameters settings (resolveOverrides settings
      (resolveSetters settings draft))).forest.AllMethods
      fun function => Apart settings.markers.length function.params :=
    allMethods_forEachMethod_modify (fun _ => apart_pairLengths _ _) overrides
  have residuals (draft : Draft) : draft.forest.Narrows
      (fun function => Apart settings.markers.length function.params)
      (resolveResiduals settings draft).forest := by
    refine narrows_forEachMethod (fun _ _ _ => narrows_foldl (fun _ _ => ?_) _ _) draft
    refine resolves_resolveResidual.moves.narrows (by simp [narrowingKinds])
      fun allowed step apart => ?_
    exact apart.step (by simpa using Or.inl allowed) step
  exact (residuals _).allMethods paired

end Sizing

namespace Corrections

theorem retypeReturn_eq_of_none (none : settings.numberHandleReturns.get? function.name = none) :
    retypeReturn settings function = function := by
  rw [retypeReturn, none]

theorem retypeReturn_of_some {className : String}
    (found : settings.numberHandleReturns.get? function.name = some className) :
    retypeReturn settings function =
      { function with
        ret := { function.ret with type := function.ret.type.asNumberHandle className } } := by
  rw [retypeReturn, found]

theorem retypeReturn_retypeReturn (settings : Settings) (function : Function) :
    retypeReturn settings (retypeReturn settings function) = retypeReturn settings function := by
  cases found : settings.numberHandleReturns.get? function.name with
  | none => rw [retypeReturn_eq_of_none found, retypeReturn_eq_of_none found]
  | some className =>
      rw [retypeReturn_of_some found]
      exact retypeReturn_of_some found

/-- A reference to a number handle is neither void nor a truth value. -/
theorem returnsSuccess_retypeReturn {className : String}
    (found : settings.numberHandleReturns.get? function.name = some className) :
    Sizing.returnsSuccess (retypeReturn settings function) = false := by
  rw [retypeReturn_of_some found]
  rfl

end Corrections

theorem Emptied.retypeReturn (emptied : Emptied settings function) :
    Emptied settings (Corrections.retypeReturn settings function) := by
  cases found : settings.numberHandleReturns.get? function.name with
  | none => rwa [Corrections.retypeReturn_eq_of_none found]
  | some className =>
      intro _ _ success
      rw [Corrections.returnsSuccess_retypeReturn found] at success
      cases success

/-- What the rules for buffers leave behind is ready for members to be formed. -/
theorem ready_retypeHandleReturns (sound : draft.forest.Sound)
    (resolved : draft.forest.AllMethods (Sizing.Resolved settings))
    (apart : draft.forest.AllMethods
      fun function => Sizing.Apart settings.markers.length function.params) :
    (Corrections.retypeHandleReturns settings draft).forest.AllMethods (Ready settings) := by
  have answered : (Corrections.retypeHandleReturns settings draft).forest.AllMethods
      fun function => function.ret.type.containsNumberHandle = false →
        Sizing.Answered settings function := by
    refine (narrows_forEachMethod_modify (fun function answered => ?_) draft).allMethods
      (resolved.imp fun function resolved _ => (Sizing.resolved_iff.1 resolved).1)
    change (Corrections.retypeReturn settings function).ret.type.containsNumberHandle = false →
      Sizing.Answered settings (Corrections.retypeReturn settings function)
    -- A configured return becomes a number handle, which wants no size.
    cases found : settings.numberHandleReturns.get? function.name with
    | none => rwa [Corrections.retypeReturn_eq_of_none found]
    | some className =>
        rw [Corrections.retypeReturn_of_some found]
        intro plain
        cases plain
  have emptied : (Corrections.retypeHandleReturns settings draft).forest.AllMethods
      (Emptied settings) := by
    have keeps : draft.forest.Narrows (Emptied settings)
        (Corrections.retypeHandleReturns settings draft).forest := by
      refine narrows_forEachMethod_modify (fun _ emptied => ?_) draft
      exact Emptied.retypeReturn emptied
    exact keeps.allMethods (resolved.imp fun function resolved getter single success _ =>
      resolved.drained getter single success)
  have stillApart : (Corrections.retypeHandleReturns settings draft).forest.AllMethods
      fun function => Sizing.Apart settings.markers.length function.params := by
    refine (narrows_forEachMethod_modify (fun function apart => ?_) draft).allMethods apart
    change Sizing.Apart _ (Corrections.retypeReturn settings function).params
    rw [Corrections.retypeReturn]
    split <;> exact apart
  have retyped : (Corrections.retypeHandleReturns settings draft).forest.AllMethods
      fun function => Corrections.retypeReturn settings function = function :=
    allMethods_forEachMethod_modify
      (fun function => Corrections.retypeReturn_retypeReturn settings function) sound
  exact ((answered.and emptied).and (stillApart.and retyped)).imp fun function facts =>
    ⟨facts.1.1, facts.1.2, facts.2.1, facts.2.2⟩

/-! ## Forming members -/

namespace Accessors

theorem sheds_addProperty {name : String} {isStatic : Bool} (sound : draft.forest.Sound)
    (isMethod : id ∈ draft.forest.methods c) :
    draft.forest.Sheds (addProperty settings draft c id name isStatic).forest ∧
      ∀ place, id ∉ (addProperty settings draft c id name isStatic).forest.methods place := by
  rw [forest_addProperty]
  exact Forest.sheds_leave sound isMethod rfl

theorem sheds_addSetter (sound : draft.forest.Sound) (isMethod : id ∈ draft.forest.methods c) :
    draft.forest.Sheds (addSetter settings draft c id).forest :=
  (Forest.sheds_leave sound isMethod rfl).1

/-- Whether a method is no getter without parameters. -/
def Unfolded (settings : Settings) (function : Function) : Prop :=
  Text.contains function.name settings.markers.getter = true → function.params ≠ []

theorem sheds_foldAccessor {rest : List FunctionId} (sound : draft.forest.Sound)
    (remain : GettersRemain c (id :: rest) draft.forest) :
    draft.forest.Sheds (foldAccessor settings c id draft).forest ∧
      (id ∈ (foldAccessor settings c id draft).forest.methods c →
        Unfolded settings ((foldAccessor settings c id draft).forest.functionAt id)) := by
  have folding := folding_foldAccessor settings c id draft
  generalize foldAccessor settings c id draft = folded at folding ⊢
  cases folding with
  | skip unlike => exact ⟨fun _ => .refl _, fun _ => unlike⟩
  | @property name getter =>
      obtain ⟨sheds, gone⟩ :=
        @sheds_addProperty settings draft c id name false sound (remain.isMethod getter)
      exact ⟨sheds, fun stays => absurd stays (gone c)⟩
  | @accessors name setter getter isSetter called single =>
      have isMethod := remain.isMethod getter
      obtain ⟨sheds, gone⟩ := @sheds_addProperty settings draft c id name false sound isMethod
      have moves : Moves settings {.edit .rename, .addProperty} draft.forest
          (addProperty settings draft c id name false).forest :=
        moves_addProperty isMethod (by simp) (by simp)
      have setterSheds := @sheds_addSetter settings _ c setter (moves.sound sound) isSetter
      refine ⟨fun Good => (sheds Good).trans (setterSheds Good), fun stays => ?_⟩
      exact absurd (((setterSheds fun _ => True).methods c).subset stays) (gone c)

variable (settings) in
theorem unfolded_foldAccessors (sound : draft.forest.Sound)
    (all : draft.forest.AllMethods Good) :
    (foldAccessors settings draft).forest.AllMethods
      fun function => Good function ∧ Unfolded settings function := by
  refine allMethods_and_forEachMethod GettersRemain (fun c sound => .start sound c)
    (fun sound remain => ?_) sound all
  obtain ⟨moves, remaining⟩ := moves_foldAccessor remain
  exact ⟨moves.sound sound, remaining, sheds_foldAccessor sound remain⟩

/-- A pass that folds some of the methods into properties, one after the other. -/
theorem allMethods_addProperty {step : ClassId → FunctionId → Draft → Draft}
    {name : FunctionId → Draft → String} {isStatic : Bool}
    (adds : ∀ c id draft,
      step c id draft = addProperty settings draft c id (name id draft) isStatic ∨
        step c id draft = draft ∧ Better (draft.forest.functionAt id))
    (sound : draft.forest.Sound) (all : draft.forest.AllMethods Good) :
    (draft.forEachMethod step).forest.AllMethods
      fun function => Good function ∧ Better function := by
  refine allMethods_and_forEachMethod MethodsRemain (fun c sound => .start sound c)
    (fun {draft} {c} {id} {rest} sound remain => ?_) sound all
  rcases adds c id draft with folded | ⟨skipped, better⟩
  · rw [folded]
    obtain ⟨moves, remaining⟩ :=
      @moves_addProperty_remain settings draft c id _ isStatic rest remain
    obtain ⟨sheds, gone⟩ := @sheds_addProperty settings draft c id (name id draft) isStatic sound
      (remain.2 id List.mem_cons_self)
    exact ⟨moves.sound sound, remaining, sheds, fun stays => absurd stays (gone c)⟩
  · rw [skipped]
    exact ⟨sound, remain.tail, fun _ => .refl _, fun _ => better⟩

/-- Whether a static method takes parameters. -/
def Bound (function : Function) : Prop :=
  function.isStatic = true → function.params ≠ []

variable (settings) in
theorem bound_foldStatics (sound : draft.forest.Sound) (all : draft.forest.AllMethods Good) :
    (foldStatics settings draft).forest.AllMethods
      fun function => Good function ∧ Bound function := by
  have adds (c : ClassId) (id : FunctionId) (draft : Draft) :
      foldStatic settings c id draft = addProperty settings draft c id
          (Text.replaceAll (draft.forest.functionAt id).name settings.markers.getter "") true ∨
        foldStatic settings c id draft = draft ∧ Bound (draft.forest.functionAt id) := by
    rw [foldStatic]
    split
    · exact .inl rfl
    · rename_i skipped
      refine .inr ⟨rfl, fun isStatic none => ?_⟩
      simp [isStatic, none] at skipped
  exact allMethods_addProperty adds sound all

/-- Whether no property is asked for under the name of a method. -/
def Unforced (settings : Settings) (function : Function) : Prop :=
  settings.forcedProperties.contains function.name = false

variable (settings) in
theorem unforced_foldForcedProperties (sound : draft.forest.Sound)
    (all : draft.forest.AllMethods Good) :
    (foldForcedProperties settings draft).forest.AllMethods
      fun function => Good function ∧ Unforced settings function := by
  have adds (c : ClassId) (id : FunctionId) (draft : Draft) :
      foldForced settings c id draft = addProperty settings draft c id
          (draft.forest.functionAt id).name false ∨
        foldForced settings c id draft = draft ∧
          Unforced settings (draft.forest.functionAt id) := by
    rw [foldForced]
    split
    · exact .inl rfl
    · rename_i skipped
      exact .inr ⟨rfl, by simpa [Unforced] using skipped⟩
  exact allMethods_addProperty adds sound all

/-! ## Signs of success -/

theorem dropSuccess_cases (function : Function) :
    dropSuccess function = function ∨ function.ret.type.isScalar .bool = true ∧
      dropSuccess function = { function with ret := function.ret.replaceBy .void } := by
  rw [dropSuccess]
  split
  · rename_i both
    exact .inr ⟨(Bool.and_eq_true_iff.1 both).2, rfl⟩
  · exact .inl rfl

theorem dropSuccess_dropSuccess (function : Function) :
    dropSuccess (dropSuccess function) = dropSuccess function := by
  rcases dropSuccess_cases function with same | ⟨-, dropped⟩
  · rw [same, same]
  · have isVoid : (dropSuccess function).ret.type.isScalar .bool = false := by
      rw [dropped]
      rfl
    rw [dropSuccess.eq_1 (dropSuccess function), isVoid, Bool.and_false]
    rfl

theorem dropSuccess_rename (function : Function) (name : String) :
    dropSuccess (function.rename name) = (dropSuccess function).rename name := by
  rw [dropSuccess, dropSuccess, apply_ite (Function.rename · name)]
  rfl

theorem Unfolded.dropSuccess (unfolded : Unfolded settings function) :
    Unfolded settings (dropSuccess function) := by
  rcases dropSuccess_cases function with same | ⟨-, dropped⟩
  · rwa [same]
  · rw [dropped]
    exact unfolded

end Accessors

theorem Emptied.dropSuccess (emptied : Emptied settings function)
    (isBool : function.ret.type.isScalar .bool = true) :
    Emptied settings { function with ret := function.ret.replaceBy .void } := by
  intro getter _ _ single
  have notVoid : function.ret.type.isScalar .void = false := by
    simp only [ValueType.isScalar, beq_iff_eq, beq_eq_false_iff_ne] at isBool ⊢
    simp [isBool]
  refine emptied getter (single rfl) ?_ fun isVoid => ?_
  · rw [Sizing.returnsSuccess, isBool, Bool.or_true]
  · rw [notVoid] at isVoid
    cases isVoid

theorem Corrections.get?_eq_none_of_bool (retyped : retypeReturn settings function = function)
    (isBool : function.ret.type.isScalar .bool = true) :
    settings.numberHandleReturns.get? function.name = none := by
  cases found : settings.numberHandleReturns.get? function.name with
  | none => rfl
  | some className =>
      have success := returnsSuccess_retypeReturn found
      rw [retyped, Sizing.returnsSuccess, isBool, Bool.or_true] at success
      cases success

theorem Ready.dropSuccess (ready : Ready settings function) :
    Ready settings (Accessors.dropSuccess function) := by
  rcases Accessors.dropSuccess_cases function with same | ⟨isBool, dropped⟩
  · rwa [same]
  · rw [dropped]
    have unlisted := Corrections.get?_eq_none_of_bool ready.retyped isBool
    exact ⟨fun _ => rfl, ready.emptied.dropSuccess isBool, ready.apart,
      Corrections.retypeReturn_eq_of_none unlisted⟩

theorem dropped_dropSuccessReturns (sound : draft.forest.Sound)
    (all : draft.forest.AllMethods
      fun function => Ready settings function ∧ Accessors.Unfolded settings function) :
    (Accessors.dropSuccessReturns draft).forest.AllMethods fun function =>
      (Ready settings function ∧ Accessors.Unfolded settings function) ∧
        Accessors.dropSuccess function = function := by
  have keeps : draft.forest.Narrows
      (fun function => Ready settings function ∧ Accessors.Unfolded settings function)
      (Accessors.dropSuccessReturns draft).forest :=
    narrows_forEachMethod_modify (fun _ facts => ⟨facts.1.dropSuccess, facts.2.dropSuccess⟩) draft
  exact (keeps.allMethods all).and
    (allMethods_forEachMethod_modify Accessors.dropSuccess_dropSuccess sound)

/-! ## Names that are given -/

/-- Whether some method is configured to get the name. -/
def Settings.givesName (settings : Settings) (name : String) : Bool :=
  settings.renames.entries.any fun (_, names) => names.functions.entries.any (·.2 == name)

theorem Table.mem_of_get? {α : Type} {table : Table α} {key : String} {value : α}
    (found : table.get? key = some value) : (key, value) ∈ table.entries := by
  obtain ⟨front, back, split, -⟩ := List.lookup_eq_some_iff.1 found
  rw [split]
  exact List.mem_append_right _ List.mem_cons_self

theorem Settings.givesName_of_get? {className name renamed : String} {names : Renaming}
    (found : settings.renames.get? className = some names)
    (renames : names.functions.get? name = some renamed) :
    settings.givesName renamed = true := by
  refine List.any_eq_true.2 ⟨_, Table.mem_of_get? found, ?_⟩
  exact List.any_eq_true.2 ⟨_, Table.mem_of_get? renames, by simp⟩

namespace Corrections

/-- The rename table does nothing to a method but give it a configured name. -/
theorem narrows_applyRenames
    (keeps : ∀ function name, settings.givesName name = true → Good function →
      Good (function.rename name)) (draft : Draft) :
    draft.forest.Narrows Good (applyRenames settings draft).forest := by
  refine narrows_foldl (fun draft c => ?_) _ draft
  rw [renameMembers]
  split
  · exact .refl _
  · rename_i names found
    let renamed := draft.modifyClass c fun c =>
      { c with properties := c.properties.map (renameProperty names.properties) }
    have moves : Moves settings {.renameProperties} draft.forest renamed.forest :=
      .single (by simp) (.renameProperties c names.properties)
    have properties : draft.forest.Sheds renamed.forest :=
      moves.sheds (by simp [narrowingKinds]) (by simp)
    refine (properties Good).trans (narrows_foldl (fun draft id => ?_) _ renamed)
    unfold renameMethod
    dsimp only
    split
    · rename_i name renames
      exact .modifyFunction (keeps _ name (Settings.givesName_of_get? found renames))
    · exact .refl _

end Corrections

/-! ## The end of a header -/

/-- What holds of every method in the end, whatever it is called. -/
structure Formed (settings : Settings) (function : Function) : Prop where
  answered : function.ret.type.containsNumberHandle = false → Sizing.Answered settings function
  apart : Sizing.Apart settings.markers.length function.params
  dropped : Accessors.dropSuccess function = function
  bound : Accessors.Bound function

/-- Whether the rules that go by the name of a method have nothing to do for it. -/
structure Applied (settings : Settings) (function : Function) : Prop where
  unfilled : function.ret.type.isArray = false → function.ret.replaced.any (·.isArray) = false →
    Sizing.filledBuffer? settings function = none
  retyped : Corrections.retypeReturn settings function = function
  unfolded : Accessors.Unfolded settings function
  unforced : Accessors.Unforced settings function

/-- What a finished header leaves of a method. -/
structure Finished (settings : Settings) (function : Function) : Prop where
  formed : Formed settings function
  applied : settings.givesName function.name = false → Applied settings function

theorem Emptied.filledBuffer? (emptied : Emptied settings function)
    (single : function.ret.type.isArray = false)
    (kept : function.ret.replaced.any (·.isArray) = false) :
    Sizing.filledBuffer? settings function = none := by
  rw [Sizing.filledBuffer?_eq]
  split
  · rename_i both
    obtain ⟨getter, success⟩ := Bool.and_eq_true_iff.1 both
    refine List.findIdx?_eq_none_iff.2 fun argument member => ?_
    exact emptied getter single success (fun _ => kept) argument member
  · rfl

namespace Conversion

/-- The draft in which members are formed, before they are renamed. -/
def formMembers (settings : Settings) (draft : Draft) : Draft :=
  Accessors.foldForcedProperties settings (Accessors.foldStatics settings
    (Accessors.dropSuccessReturns (Accessors.foldAccessors settings draft)))

theorem forest_noteDone (header : HeaderDeclarations) (draft : Draft) :
    (noteDone header draft).forest = draft.forest :=
  rfl

theorem run_memberPasses (settings : Settings) (header : HeaderDeclarations) (draft : Draft) :
    Pass.run (memberPasses settings header) draft =
      .ok (noteDone header (Corrections.applyRenames settings (formMembers settings draft))) := by
  simp only [memberPasses, Accessors.passes, List.cons_append, List.nil_append, Pass.run_cons,
    Pass.ofTotal]
  rfl

theorem finished_formMembers (sound : draft.forest.Sound)
    (ready : draft.forest.AllMethods (Ready settings)) :
    (formMembers settings draft).forest.AllMethods
      fun function => Formed settings function ∧ Applied settings function := by
  have folded := Accessors.unfolded_foldAccessors settings sound ready
  have soundFolded := (Accessors.makes_foldAccessors settings).sound_ofTotal sound
  have dropped := dropped_dropSuccessReturns soundFolded folded
  have soundDropped := (Accessors.makes_dropSuccessReturns settings).sound_ofTotal soundFolded
  have bound := Accessors.bound_foldStatics settings soundDropped dropped
  have soundBound := (Accessors.makes_foldStatics settings).sound_ofTotal soundDropped
  have unforced := Accessors.unforced_foldForcedProperties settings soundBound bound
  refine unforced.imp fun function facts => ?_
  obtain ⟨⟨⟨⟨ready, unfolded⟩, dropped⟩, bound⟩, unforced⟩ := facts
  exact ⟨⟨ready.answered, ready.apart, dropped, bound⟩,
    ready.emptied.filledBuffer?, ready.retyped, unfolded, unforced⟩

/-- The passes that form and name members leave every method finished. -/
theorem finished_memberPasses {header : HeaderDeclarations} (sound : draft.forest.Sound)
    (ready : draft.forest.AllMethods (Ready settings))
    (ended : Pass.run (memberPasses settings header) draft = .ok final) :
    final.forest.AllMethods (Finished settings) := by
  have done : (formMembers settings draft).forest.AllMethods (Finished settings) :=
    (finished_formMembers sound ready).imp fun _ facts => ⟨facts.1, fun _ => facts.2⟩
  rw [run_memberPasses] at ended
  rw [← Except.ok.inj ended, forest_noteDone]
  refine (Corrections.narrows_applyRenames (fun function name given facts => ?_) _).allMethods done
  obtain ⟨answered, apart, dropped, bound⟩ := facts.formed
  refine ⟨⟨answered, apart, ?_, bound⟩, fun ungiven => ?_⟩
  · rw [Accessors.dropSuccess_rename, dropped]
  · rw [Function.rename, given] at ungiven
    cases ungiven

theorem run_sizePasses (settings : Settings) (draft : Draft) :
    Pass.run (sizePasses settings) draft =
      .ok (Corrections.retypeHandleReturns settings (Sizing.resolvePassed settings draft)) := by
  simp only [sizePasses, Pass.run_cons, Pass.ofTotal]
  rfl

namespace Course

variable {rootClass : String} {header : HeaderDeclarations} {start : Draft}
  (course : Course settings rootClass header start final)

/-- Every returned buffer is sized and every getter emptied once filled buffers are promoted. -/
theorem resolved_promoted : course.promoted.forest.AllMethods (Sizing.Resolved settings) := by
  obtain ⟨referred, -, handles⟩ := Pass.run_cons_ok course.handles
  obtain ⟨answered, returns, ends⟩ := Pass.run_cons_ok handles
  obtain rfl := Except.ok.inj ends
  exact Sizing.resolved_resolveFilledBuffers (Sizing.answered_resolveReturns returns)
    course.promotes

include course in
theorem finished_final (sound : start.forest.Sound) :
    final.forest.AllMethods (Finished settings) := by
  have soundPromoted := course.sound_promoted sound
  have resolved := (Sizing.narrows_resolvePassed settings course.promoted).allMethods
    course.resolved_promoted
  have apart := @Sizing.apart_resolvePassed settings _ soundPromoted
  have isSized := Except.ok.inj ((run_sizePasses settings course.promoted).symm.trans course.sizes)
  have ready : course.sized.forest.AllMethods (Ready settings) := by
    rw [← isSized]
    exact ready_retypeHandleReturns (Sizing.sound_resolvePassed soundPromoted) resolved apart
  have initialized : course.sized.forest.Sheds course.initialized.forest :=
    (course.moves_initialized sound).sheds (by simp [narrowingKinds]) (by simp)
  exact finished_memberPasses (course.sound_initialized sound)
    ((initialized _).allMethods ready) course.ends

end Course

/-- A successful conversion leaves every method finished. -/
theorem finished_convert {declarations : DeclarationSet} {result : Result}
    (converted : convert settings declarations = .ok result) :
    result.draft.forest.AllMethods (Finished settings) := by
  have start : ({} : Draft).forest.AllMethods (Finished settings) :=
    fun _ _ isMethod => nomatch isMethod
  obtain ⟨draft, same, -, -, finished⟩ := convert_induction
    (fun _ draft => draft.forest.AllMethods (Finished settings)) start
    (fun _ sound _ finished => by
      obtain ⟨course, -⟩ := exists_course finished
      exact course.finished_final sound)
    converted
  rw [same]
  exact finished

end Conversion

end Bindery
