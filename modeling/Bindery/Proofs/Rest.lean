import Bindery.Proofs.Converted
import Bindery.Proofs.Finished

/-!
# Forests at rest

Every header runs all passes over everything that earlier headers left, so even a header that
declares nothing may change a finished forest: a name may still repeat the name of its class after
two prefixes are gone, a buffer may be found by a name that was only given after the search for it,
and a configured name may itself be up for renaming.  Where nothing of that kind is left, the forest
is at rest, and every pass leaves it as it is.
-/

namespace Bindery

variable {settings : Settings} {forest : Forest} {draft : Draft} {function : Function}
  {c : ClassId} {id : FunctionId}

/-- The keywords with which a method has accessors searched for the buffers that it is passed. -/
def Sizing.passedKeywords (settings : Settings) (function : Function) : List String :=
  let unsized := function.params.filter (·.isUnsizedBuffer)
  (if (setBuffer? settings function).isSome then [setterKeyword settings function] else [])
    ++ (if unsized.isEmpty then [] else
      (settings.keywords.parameters.get? function.name).toList)
    ++ unsized.map (·.name)

/-- Whether no rule that a finished header may leave undone has anything to do for a method. -/
structure Inert (settings : Settings) (forest : Forest) (c : ClassId) (function : Function) :
    Prop where
  /-- Prefixes are taken off a limited number of times. -/
  unprefixed : Text.startsWith function.name (Hoisting.classPrefix (forest.className c)) = false
  /-- So is the marker of number handles. -/
  unmarked : ∀ parameter ∈ function.plainParameters,
    Text.endsWith parameter.name settings.markers.numberHandle = false
  /-- A return is made a number handle after returned buffers are sized. -/
  answered : function.ret.type.containsNumberHandle = true → Sizing.Answered settings function
  /-- Buffers that are passed may stay without an accessor. -/
  unfound : ∀ keyword ∈ Sizing.passedKeywords settings function,
    Sizing.accessor? settings forest keyword c forest.allClasses = none
  /-- A class has one default initializer taken by each header. -/
  uninitial : settings.defaultInitializers.get? (forest.className c) ≠ some function.name
  /-- Names are given once by each header. -/
  unrenamed : ∀ names ∈ settings.renames.get? (forest.className c),
    (names.functions.get? function.name).getD function.name = function.name
  /-- Names are given after the rules that go by names. -/
  applied : settings.givesName function.name = true → Applied settings function
  /-- An array counts as a sign of success if it is one of truth values. -/
  beside : function.ret.type.isArray = true ∨ function.ret.replaced.any (·.isArray) = true →
    Sizing.filledBuffer? settings function = none

/-- Whether no pass has anything to do in a finished forest. -/
structure AtRest (settings : Settings) (forest : Forest) : Prop where
  methods : ∀ c ∈ forest.allClasses, ∀ id ∈ forest.methods c,
    Inert settings forest c (forest.functionAt id)
  properties : ∀ c ∈ forest.allClasses, ∀ names ∈ settings.renames.get? (forest.className c),
    ∀ property ∈ (forest.classAt c).properties,
      Corrections.renameProperty names.properties property = property

instance : Decidable (Applied settings function) :=
  decidable_of_iff
    ((function.ret.type.isArray = false → function.ret.replaced.any (·.isArray) = false →
        Sizing.filledBuffer? settings function = none) ∧
      Corrections.retypeReturn settings function = function ∧
      (Text.contains function.name settings.markers.getter = true → function.params ≠ []) ∧
      settings.forcedProperties.contains function.name = false)
    ⟨fun ⟨unfilled, retyped, unfolded, unforced⟩ => ⟨unfilled, retyped, unfolded, unforced⟩,
      fun ⟨unfilled, retyped, unfolded, unforced⟩ => ⟨unfilled, retyped, unfolded, unforced⟩⟩

instance : Decidable (Inert settings forest c function) :=
  decidable_of_iff
    (Text.startsWith function.name (Hoisting.classPrefix (forest.className c)) = false ∧
      (∀ parameter ∈ function.plainParameters,
        Text.endsWith parameter.name settings.markers.numberHandle = false) ∧
      (function.ret.type.containsNumberHandle = true →
        Sizing.needsReturnAccessor settings function = false) ∧
      (∀ keyword ∈ Sizing.passedKeywords settings function,
        Sizing.accessor? settings forest keyword c forest.allClasses = none) ∧
      settings.defaultInitializers.get? (forest.className c) ≠ some function.name ∧
      (∀ names ∈ settings.renames.get? (forest.className c),
        (names.functions.get? function.name).getD function.name = function.name) ∧
      (settings.givesName function.name = true → Applied settings function) ∧
      (function.ret.type.isArray = true ∨ function.ret.replaced.any (·.isArray) = true →
        Sizing.filledBuffer? settings function = none))
    ⟨fun ⟨unprefixed, unmarked, answered, unfound, uninitial, unrenamed, applied, beside⟩ =>
        ⟨unprefixed, unmarked, answered, unfound, uninitial, unrenamed, applied, beside⟩,
      fun ⟨unprefixed, unmarked, answered, unfound, uninitial, unrenamed, applied, beside⟩ =>
        ⟨unprefixed, unmarked, answered, unfound, uninitial, unrenamed, applied, beside⟩⟩

instance : Decidable (AtRest settings forest) :=
  decidable_of_iff
    ((∀ c ∈ forest.allClasses, ∀ id ∈ forest.methods c,
        Inert settings forest c (forest.functionAt id)) ∧
      ∀ c ∈ forest.allClasses, ∀ names ∈ settings.renames.get? (forest.className c),
        ∀ property ∈ (forest.classAt c).properties,
          Corrections.renameProperty names.properties property = property)
    ⟨fun ⟨methods, properties⟩ => ⟨methods, properties⟩,
      fun ⟨methods, properties⟩ => ⟨methods, properties⟩⟩

/-! ## Passes that leave a forest as it is -/

/-- Whether a pass finishes with the forest that it started with. -/
def Pass.Idles (forest : Forest) (pass : Pass) : Prop :=
  ∀ draft : Draft, draft.forest = forest → ∃ next, pass draft = .ok next ∧ next.forest = forest

namespace Pass.Idles

theorem ofTotal {step : Draft → Draft}
    (same : ∀ draft : Draft, draft.forest = forest → (step draft).forest = forest) :
    (Pass.ofTotal step).Idles forest :=
  fun draft isForest => ⟨step draft, rfl, same draft isForest⟩

theorem cons {pass : Pass} {passes : List Pass} (first : pass.Idles forest)
    (rest : (Pass.run passes).Idles forest) : (Pass.run (pass :: passes)).Idles forest := by
  intro draft isForest
  obtain ⟨next, result, stillForest⟩ := first draft isForest
  rw [run_cons, result]
  exact rest next stillForest

theorem append {first second : List Pass} (front : (Pass.run first).Idles forest)
    (back : (Pass.run second).Idles forest) : (Pass.run (first ++ second)).Idles forest := by
  intro draft isForest
  obtain ⟨middle, result, stillForest⟩ := front draft isForest
  rw [run_append, result]
  exact back middle stillForest

theorem run {passes : List Pass} (each : ∀ pass ∈ passes, pass.Idles forest) :
    (Pass.run passes).Idles forest := by
  induction passes with
  | nil => exact fun draft isForest => ⟨draft, rfl, isForest⟩
  | cons pass passes ih =>
      exact (each pass List.mem_cons_self).cons
        (ih fun pass member => each pass (List.mem_cons_of_mem _ member))

end Pass.Idles

theorem foldlM_idles {α : Type} {items : List α} {visit : Draft → α → Except Stopped Draft}
    (each : ∀ draft : Draft, ∀ item ∈ items, draft.forest = forest →
      ∃ next, visit draft item = .ok next ∧ next.forest = forest)
    (isForest : draft.forest = forest) :
    ∃ next, items.foldlM visit draft = .ok next ∧ next.forest = forest := by
  induction items generalizing draft with
  | nil => exact ⟨draft, rfl, isForest⟩
  | cons item rest ih =>
      obtain ⟨next, result, stillForest⟩ := each draft item List.mem_cons_self isForest
      rw [List.foldlM_cons, result]
      exact ih (fun draft item member => each draft item (List.mem_cons_of_mem _ member))
        stillForest

theorem foldl_idles {α : Type} {items : List α} {visit : Draft → α → Draft}
    (each : ∀ draft : Draft, ∀ item ∈ items, draft.forest = forest →
      (visit draft item).forest = forest)
    (isForest : draft.forest = forest) : (items.foldl visit draft).forest = forest := by
  induction items generalizing draft with
  | nil => exact isForest
  | cons item rest ih =>
      exact ih (fun draft item member => each draft item (List.mem_cons_of_mem _ member))
        (each draft item List.mem_cons_self isForest)

theorem tryForEachMethod_idles {step : ClassId → FunctionId → Draft → Except Stopped Draft}
    (each : ∀ (draft : Draft) (c : ClassId), ∀ id ∈ forest.methods c, draft.forest = forest →
      ∃ next, step c id draft = .ok next ∧ next.forest = forest)
    (isForest : draft.forest = forest) :
    ∃ next, draft.tryForEachMethod step = .ok next ∧ next.forest = forest := by
  refine foldlM_idles (fun draft c _ isForest => ?_) isForest
  rw [isForest]
  exact foldlM_idles (fun draft id isMethod => each draft c id isMethod) isForest

theorem forEachMethod_idles {step : ClassId → FunctionId → Draft → Draft}
    (each : ∀ (draft : Draft) (c : ClassId), ∀ id ∈ forest.methods c, draft.forest = forest →
      (step c id draft).forest = forest)
    (isForest : draft.forest = forest) : (draft.forEachMethod step).forest = forest := by
  refine foldl_idles (fun draft c _ isForest => ?_) isForest
  rw [isForest]
  exact foldl_idles (fun draft id isMethod => each draft c id isMethod) isForest

/-- A rewriting that has nothing to do for any method. -/
theorem forEachMethod_modify_idles {change : Function → Function}
    (same : forest.AllMethods fun function => change function = function)
    (isForest : draft.forest = forest) :
    (draft.forEachMethod fun _ id draft => draft.modifyFunction id change).forest = forest := by
  refine forEachMethod_idles (fun draft c id isMethod isForest => ?_) isForest
  rw [Draft.forest_modifyFunction, isForest]
  exact Forest.modifyFunction_of_eq (same c id isMethod)

namespace Forest

theorem modifyClass_of_eq {change : Class → Class}
    (same : change (forest.classAt c) = forest.classAt c) :
    forest.modifyClass c change = forest := by
  have classes : forest.classes.modify c change = forest.classes := by
    by_cases present : c < forest.classes.length
    · have at_ : forest.classAt c = forest.classes[c] := by
        simp [classAt, List.getElem?_eq_getElem present]
      rw [List.modify_eq_take_cons_drop present, ← at_, same, at_, ← List.drop_eq_getElem_cons,
        List.take_append_drop]
    · exact List.modify_eq_self (Nat.le_of_not_lt present)
  simp [modifyClass, classes]

/-- A class that is there already is found, and nothing is added. -/
theorem requireClass_of_mem {parent : Option ClassId} {name : String}
    (exists_ : ⟨parent, name⟩ ∈ forest.hierarchy.places) :
    (forest.requireClass parent name).1 = forest := by
  obtain ⟨id, found⟩ : ∃ id, forest.hierarchy.find? parent name = some id := by
    rw [← Option.isSome_iff_exists, Hierarchy.find?, List.isSome_idxOf?]
    exact exists_
  rw [requireClass_of_find? found]

end Forest

/-! ## Taking in nothing -/

theorem Text.startsWith_of_dropPrefix? {text pattern rest : String}
    (found : dropPrefix? text pattern = some rest) : startsWith text pattern = true := by
  obtain ⟨kept, isKept, -⟩ := Option.map_eq_some_iff.1 found
  rw [startsWith_iff, Chars.dropPrefix?_eq_some isKept]
  exact List.prefix_append _ _

namespace Hoisting

theorem hoistLeftovers_idles {rootClass : String} (noneFree : forest.free = [])
    (isThere : ⟨none, rootClass⟩ ∈ forest.hierarchy.places) (isForest : draft.forest = forest) :
    (hoistLeftovers rootClass draft).forest = forest := by
  subst isForest
  have static : staticForest draft.forest draft.forest.free = draft.forest := by
    rw [noneFree]
    rfl
  rw [forest_hoistLeftovers static rfl, Forest.requireClass_of_mem isThere,
    Forest.modifyClass_of_eq (by rw [noneFree, List.append_nil])]
  cases isDraft : draft.forest
  rw [isDraft] at noneFree
  simpa using noneFree.symm

theorem stripPrefix_eq {className : String}
    (unprefixed : Text.startsWith function.name (classPrefix className) = false) :
    stripPrefix className function = function := by
  cases found : Text.dropPrefix? function.name (classPrefix className) with
  | none =>
      rw [stripPrefix, found]
      rfl
  | some rest =>
      rw [Text.startsWith_of_dropPrefix? found] at unprefixed
      cases unprefixed

/-- Whether no method repeats the name of its class. -/
def Unprefixed (forest : Forest) : Prop :=
  ∀ c, ∀ id ∈ forest.methods c,
    Text.startsWith (forest.functionAt id).name (classPrefix (forest.className c)) = false

theorem stripClassPrefixes_idles (classes : List ClassId) (unprefixed : Unprefixed forest)
    (isForest : draft.forest = forest) :
    (stripClassPrefixes classes draft).forest = forest := by
  refine foldl_idles (fun draft c _ isForest => ?_) isForest
  rw [isForest]
  refine foldl_idles (fun draft id isMethod isForest => ?_) isForest
  rw [Draft.forest_modifyFunction, isForest]
  exact Forest.modifyFunction_of_eq (stripPrefix_eq (unprefixed c id isMethod))

end Hoisting

namespace NumberHandles

theorem referTo_eq {parameter : Parameter}
    (unmarked : Text.endsWith parameter.name settings.markers.numberHandle = false) :
    referTo settings parameter = parameter := by
  cases found : Text.dropSuffix? parameter.name settings.markers.numberHandle with
  | none => rw [referTo, found]
  | some base =>
      rw [Text.endsWith_of_dropSuffix? found] at unmarked
      cases unmarked

/-- Whether none of the plain parameters is a number handle. -/
def Unmarked (settings : Settings) (function : Function) : Prop :=
  ∀ parameter ∈ function.plainParameters,
    Text.endsWith parameter.name settings.markers.numberHandle = false

theorem Unmarked.map_eq (unmarked : Unmarked settings function) :
    function.params.map (·.mapPlain (referTo settings)) = function.params := by
  have each : ∀ argument ∈ function.params, argument.mapPlain (referTo settings) = argument := by
    intro argument member
    cases argument with
    | buffer data length => rfl
    | plain parameter =>
        have isPlain : parameter ∈ function.plainParameters :=
          List.mem_filterMap.2 ⟨.plain parameter, member, rfl⟩
        rw [Argument.mapPlain, referTo_eq (unmarked parameter isPlain)]
  exact (List.map_congr_left each).trans (List.map_id _)

theorem Unmarked.handleBase? (unmarked : Unmarked settings function) :
    handleBase? settings function = none := by
  cases found : NumberHandles.handleBase? settings function with
  | none => rfl
  | some base =>
      obtain ⟨first, rest, leading, isBase⟩ := handleBase?_eq_some found
      have plain : first ∈ function.plainParameters := by
        rw [Function.plainParameters, leading]
        exact List.mem_cons_self
      have marked := Text.endsWith_of_dropSuffix? isBase
      rw [unmarked first plain] at marked
      cases marked

theorem extract_idles (unmarked : forest.AllMethods (Unmarked settings))
    (unprefixed : Hoisting.Unprefixed forest) (isForest : draft.forest = forest) :
    ∃ next rounds, extract settings draft = .ok (next, rounds) ∧ next.forest = forest := by
  have noMatches : findMatches settings draft.forest = [] := by
    apply List.eq_nil_iff_forall_not_mem.2
    intro found member
    obtain ⟨isMethod, matched⟩ := mem_findMatches_iff.1 member
    rw [isForest] at isMethod matched
    rw [(unmarked found.c found.function isMethod).handleBase?] at matched
    cases matched
  have found : round settings draft =
      (Hoisting.stripClassPrefixes draft.forest.allClasses draft, false) := by
    rw [round, relocateMethods, noMatches]
    rfl
  have stripped := Hoisting.stripClassPrefixes_idles draft.forest.allClasses unprefixed isForest
  refine ⟨Hoisting.stripClassPrefixes draft.forest.allClasses draft, 0, ?_, stripped⟩
  rw [extract, extractFrom, found]

end NumberHandles

/-! ## The rules for buffers -/

namespace Sizing

theorem resolveReturns_idles (answered : forest.AllMethods (Answered settings)) :
    Pass.Idles forest (resolveReturns settings) := by
  intro draft isForest
  refine tryForEachMethod_idles (fun draft c id isMethod isForest => ?_) isForest
  refine ⟨draft, ?_, isForest⟩
  have known : needsReturnAccessor settings (draft.forest.functionAt id) = false :=
    isForest ▸ answered c id isMethod
  rw [resolveReturn]
  dsimp only
  rw [if_pos (.inr (by simp [known]))]

theorem resolveFilledBuffers_idles
    (unfilled : forest.AllMethods fun function => filledBuffer? settings function = none) :
    Pass.Idles forest (resolveFilledBuffers settings) := by
  intro draft isForest
  refine tryForEachMethod_idles (fun draft c id isMethod isForest => ?_) isForest
  refine ⟨draft, ?_, isForest⟩
  have known : filledBuffer? settings (draft.forest.functionAt id) = none :=
    isForest ▸ unfilled c id isMethod
  rw [resolveFilled]
  dsimp only
  rw [known]

/-- Whether no search for a buffer that a method is passed finds anything. -/
def Unfound (settings : Settings) (forest : Forest) : Prop :=
  ∀ c, ∀ id ∈ forest.methods c, ∀ keyword ∈ passedKeywords settings (forest.functionAt id),
    accessor? settings forest keyword c forest.allClasses = none

theorem search_of_accessor? {keyword : String} (isForest : draft.forest = forest)
    (unfound : accessor? settings forest keyword c forest.allClasses = none) :
    (search settings draft keyword c).1.forest = forest ∧
      (search settings draft keyword c).2 = none := by
  subst isForest
  exact ⟨rfl, unfound⟩

theorem resolveBuffer_idles {keyword : String} {position : Nat} (isForest : draft.forest = forest)
    (unfound : accessor? settings forest keyword c forest.allClasses = none) :
    (resolveBuffer settings c id position keyword draft).forest = forest := by
  obtain ⟨same, nothing⟩ := search_of_accessor? isForest unfound
  rw [resolveBuffer]
  split
  · rename_i found
    rw [found] at same
    exact same
  · rename_i found
    rw [found] at nothing
    cases nothing

theorem resolveSetters_idles (unfound : Unfound settings forest) :
    Pass.Idles forest (Pass.ofTotal (resolveSetters settings)) := by
  refine .ofTotal fun draft isForest => forEachMethod_idles (fun draft c id isMethod isForest => ?_)
    isForest
  rw [resolveSetter]
  dsimp only
  split
  · exact isForest
  · rename_i position isSet
    have searched : setterKeyword settings (draft.forest.functionAt id) ∈
        passedKeywords settings (draft.forest.functionAt id) := by
      simp [passedKeywords, isSet]
    obtain ⟨same, nothing⟩ := search_of_accessor? isForest
      (unfound c id isMethod _ (isForest ▸ searched))
    split
    · exact isForest
    · split
      · rename_i found
        rw [isForest] at found
        rw [found] at same
        exact same
      · rename_i found
        rw [isForest] at found
        rw [found] at nothing
        cases nothing

theorem resolveOverrides_idles (unfound : Unfound settings forest) :
    Pass.Idles forest (Pass.ofTotal (resolveOverrides settings)) := by
  refine .ofTotal fun draft isForest => forEachMethod_idles (fun draft c id isMethod isForest => ?_)
    isForest
  rw [resolveOverride]
  split
  · rename_i keyword position listed found
    apply resolveBuffer_idles isForest
    apply unfound c id isMethod
    rw [isForest] at listed found
    obtain ⟨bound, unsized, -⟩ := List.findIdx?_eq_some_iff_getElem.1 found
    have some_ : (forest.functionAt id).params.filter (·.isUnsizedBuffer) ≠ [] :=
      List.ne_nil_of_mem (List.mem_filter.2 ⟨List.getElem_mem bound, unsized⟩)
    simp [passedKeywords, listed, some_]
  · exact isForest

theorem pairParameters_idles
    (apart : forest.AllMethods fun function => Apart settings.markers.length function.params) :
    Pass.Idles forest (Pass.ofTotal (pairParameters settings)) := by
  refine .ofTotal fun draft isForest =>
    forEachMethod_modify_idles (fun c id isMethod => ?_) isForest
  exact congrArg (fun params => ({ forest.functionAt id with params } : Function))
    (pairLengths_eq_of_apart (apart c id isMethod))

theorem resolveResiduals_idles (unfound : Unfound settings forest) :
    Pass.Idles forest (Pass.ofTotal (resolveResiduals settings)) := by
  refine .ofTotal fun draft isForest => forEachMethod_idles (fun draft c id isMethod isForest => ?_)
    isForest
  refine foldl_idles (fun draft position _ isForest => ?_) isForest
  rw [resolveResidual]
  split
  · rename_i argument found
    split
    · rename_i unsized
      apply resolveBuffer_idles isForest
      apply unfound c id isMethod
      rw [isForest] at found
      have member := List.mem_filter.2 ⟨List.mem_of_getElem? found, unsized⟩
      exact List.mem_append_right _ (List.mem_map_of_mem member)
    · exact isForest
  · exact isForest

end Sizing

/-! ## Corrections and members -/

namespace Corrections

theorem retypeHandleReturns_idles
    (retyped : forest.AllMethods fun function => retypeReturn settings function = function) :
    Pass.Idles forest (Pass.ofTotal (retypeHandleReturns settings)) :=
  .ofTotal fun _ isForest => forEachMethod_modify_idles retyped isForest

theorem extractInitializers_idles
    (uninitial : ∀ c, ∀ id ∈ forest.methods c,
      settings.defaultInitializers.get? (forest.className c) ≠
        some (forest.functionAt id).name) :
    Pass.Idles forest (Pass.ofTotal (extractInitializers settings)) := by
  refine .ofTotal fun draft isForest => foldl_idles (fun draft c _ isForest => ?_) isForest
  rcases extractInitializer_cases draft c with same | ⟨name, id, listed, found, -⟩
  · exact same.trans isForest
  · rw [isForest] at listed found
    have isMethod := Forest.mem_methods_of_findMethod? found
    have named := Forest.name_of_findMethod? found
    exact absurd (named ▸ listed) (uninitial c id isMethod)

/-- Whether all configured names are given. -/
def Unrenamed (settings : Settings) (forest : Forest) : Prop :=
  ∀ c, ∀ names ∈ settings.renames.get? (forest.className c),
    (∀ property ∈ (forest.classAt c).properties,
      renameProperty names.properties property = property) ∧
    ∀ id ∈ forest.methods c, (names.functions.get? (forest.functionAt id).name).getD
      (forest.functionAt id).name = (forest.functionAt id).name

theorem renameMethod_idles {names : Table String} (isForest : draft.forest = forest)
    (same : (names.get? (forest.functionAt id).name).getD (forest.functionAt id).name =
      (forest.functionAt id).name) :
    (renameMethod names draft id).forest = forest := by
  rw [renameMethod, isForest]
  split
  · rename_i renamed found
    rw [found] at same
    rw [Draft.forest_modifyFunction, Draft.forest_note, isForest]
    refine Forest.modifyFunction_of_eq ?_
    exact congrArg (forest.functionAt id).rename same
  · exact isForest

theorem applyRenames_idles (unrenamed : Unrenamed settings forest) :
    Pass.Idles forest (Pass.ofTotal (applyRenames settings)) := by
  refine .ofTotal fun draft isForest => foldl_idles (fun draft c _ isForest => ?_) isForest
  rw [renameMembers, isForest]
  split
  · exact isForest
  · rename_i names found
    obtain ⟨properties, methods⟩ := unrenamed c names found
    have kept : (draft.modifyClass c fun c => { c with
        properties := c.properties.map (renameProperty names.properties) }).forest = forest := by
      rw [Draft.forest_modifyClass, isForest]
      refine Forest.modifyClass_of_eq ?_
      rw [List.map_congr_left properties, List.map_id']
    dsimp only
    rw [kept]
    exact foldl_idles (fun draft id isMethod isForest =>
      renameMethod_idles isForest (methods id isMethod)) kept

end Corrections

namespace Accessors

theorem foldAccessors_idles (unfolded : forest.AllMethods (Unfolded settings)) :
    Pass.Idles forest (Pass.ofTotal (foldAccessors settings)) := by
  refine .ofTotal fun draft isForest => forEachMethod_idles (fun draft c id isMethod isForest => ?_)
    isForest
  rw [foldAccessor, isForest, if_pos]
  · exact isForest
  · have takes := unfolded c id isMethod
    cases isGetter : Text.contains (forest.functionAt id).name settings.markers.getter with
    | false => rfl
    | true => simpa using takes isGetter

theorem dropSuccessReturns_idles
    (dropped : forest.AllMethods fun function => dropSuccess function = function) :
    Pass.Idles forest (Pass.ofTotal dropSuccessReturns) :=
  .ofTotal fun _ isForest => forEachMethod_modify_idles dropped isForest

theorem foldStatics_idles (bound : forest.AllMethods Bound) :
    Pass.Idles forest (Pass.ofTotal (foldStatics settings)) := by
  refine .ofTotal fun draft isForest => forEachMethod_idles (fun draft c id isMethod isForest => ?_)
    isForest
  rw [foldStatic, isForest, if_neg]
  · exact isForest
  · intro both
    obtain ⟨isStatic, none⟩ := Bool.and_eq_true_iff.1 both
    exact bound c id isMethod isStatic (List.isEmpty_iff.1 none)

theorem foldForcedProperties_idles (unforced : forest.AllMethods (Unforced settings)) :
    Pass.Idles forest (Pass.ofTotal (foldForcedProperties settings)) := by
  refine .ofTotal fun draft isForest => forEachMethod_idles (fun draft c id isMethod isForest => ?_)
    isForest
  rw [foldForced, isForest, unforced c id isMethod]
  exact isForest

end Accessors

/-! ## Headers that declare nothing -/

namespace AtRest

variable (rest : AtRest settings forest) (finished : forest.AllMethods (Finished settings))

include rest

theorem inert (isMethod : id ∈ forest.methods c) :
    Inert settings forest c (forest.functionAt id) :=
  rest.methods c (Hierarchy.mem_all_iff.2 (Forest.lt_size_of_mem_methods isMethod)) id isMethod

theorem unprefixed : Hoisting.Unprefixed forest :=
  fun _ _ isMethod => (rest.inert isMethod).unprefixed

theorem unmarked : forest.AllMethods (NumberHandles.Unmarked settings) :=
  fun _ _ isMethod => (rest.inert isMethod).unmarked

theorem unfound : Sizing.Unfound settings forest :=
  fun _ _ isMethod => (rest.inert isMethod).unfound

theorem unrenamed : Corrections.Unrenamed settings forest := by
  intro c names found
  refine ⟨fun property member => ?_, fun id isMethod => (rest.inert isMethod).unrenamed names found⟩
  refine rest.properties c (Hierarchy.mem_all_iff.2 ?_) names found property member
  by_contra beyond
  rw [Forest.classAt_of_size_le (Nat.le_of_not_lt beyond)] at member
  cases member

include finished

theorem answered : forest.AllMethods (Sizing.Answered settings) := by
  intro c id isMethod
  cases handle : (forest.functionAt id).ret.type.containsNumberHandle with
  | false => exact (finished c id isMethod).formed.answered handle
  | true => exact (rest.inert isMethod).answered handle

theorem applied : forest.AllMethods (Applied settings) := by
  intro c id isMethod
  cases given : settings.givesName (forest.functionAt id).name with
  | false => exact (finished c id isMethod).applied given
  | true => exact (rest.inert isMethod).applied given

theorem unfilled : forest.AllMethods fun function =>
    Sizing.filledBuffer? settings function = none := by
  intro c id isMethod
  by_cases beside : (forest.functionAt id).ret.type.isArray = true ∨
      (forest.functionAt id).ret.replaced.any (·.isArray) = true
  · exact (rest.inert isMethod).beside beside
  · obtain ⟨single, kept⟩ := not_or.1 beside
    exact (rest.applied finished c id isMethod).unfilled (Bool.eq_false_of_not_eq_true single)
      (Bool.eq_false_of_not_eq_true kept)

end AtRest

namespace Conversion

/-- A header that declares nothing takes nothing in. -/
theorem forest_takeIn_empty {rootClass file : String} :
    (takeIn settings rootClass { file } draft).forest = draft.forest := by
  rw [forest_takeIn]
  simp [Intake.enums, Intake.functions, Throwing.deriveExceptions, Forest.takeAll]

section Idle

variable {rootClass file : String} (rest : AtRest settings forest)
  (finished : forest.AllMethods (Finished settings)) (noneFree : forest.free = [])

theorem idles_takePasses :
    (Pass.run (takePasses settings rootClass { file })).Idles forest := by
  intro draft isForest
  refine ⟨_, run_takePasses settings rootClass { file } draft, ?_⟩
  rw [forest_takeIn_empty, isForest]

include noneFree in
theorem idles_convertErrorParameters :
    Pass.Idles forest (Throwing.convertErrorParameters settings) := by
  intro draft isForest
  refine ⟨draft, ?_, isForest⟩
  rw [Throwing.convertErrorParameters, isForest, noneFree]
  rfl

include noneFree in
theorem idles_hoistPasses (isThere : ⟨none, rootClass⟩ ∈ forest.hierarchy.places) :
    (Pass.run (hoistPasses settings rootClass { file })).Idles forest := by
  refine .run fun pass member => ?_
  simp only [hoistPasses, List.mem_cons, List.not_mem_nil, or_false] at member
  rcases member with rfl | rfl | rfl
  · refine .ofTotal fun draft isForest => ?_
    rw [Hoisting.hoistAllocators, isForest, noneFree]
    exact isForest
  · refine .ofTotal fun draft isForest => ?_
    rw [Hoisting.hoistStructFunctions, isForest, noneFree]
    exact isForest
  · exact .ofTotal fun draft isForest => Hoisting.hoistLeftovers_idles noneFree isThere isForest

include rest in
theorem idles_handlePasses : (Pass.run (handlePasses settings)).Idles forest := by
  refine .run fun pass member => ?_
  simp only [handlePasses, List.mem_cons, List.not_mem_nil, or_false] at member
  rcases member with rfl | rfl
  · exact .ofTotal fun draft isForest =>
      Hoisting.stripClassPrefixes_idles _ rest.unprefixed isForest
  · intro draft isForest
    obtain ⟨next, rounds, settled, same⟩ :=
      NumberHandles.extract_idles rest.unmarked rest.unprefixed isForest
    refine ⟨next.note .debug s!"Numeric handle extraction settled after {rounds} rounds", ?_, same⟩
    rw [Grouping.settleHandles, settled]
    rfl

include rest finished

theorem idles_referPasses : (Pass.run (referPasses settings)).Idles forest := by
  refine .run fun pass member => ?_
  simp only [referPasses, List.mem_cons, List.not_mem_nil, or_false] at member
  rcases member with rfl | rfl
  · refine .ofTotal fun draft isForest =>
      forEachMethod_modify_idles (fun c id isMethod => ?_) isForest
    exact congrArg (fun params => ({ forest.functionAt id with params } : Function))
      (rest.unmarked c id isMethod).map_eq
  · exact Sizing.resolveReturns_idles (rest.answered finished)

theorem idles_sizePasses : (Pass.run (sizePasses settings)).Idles forest := by
  refine .run fun pass member => ?_
  simp only [sizePasses, List.mem_cons, List.not_mem_nil, or_false] at member
  rcases member with rfl | rfl | rfl | rfl | rfl
  · exact Sizing.resolveSetters_idles rest.unfound
  · exact Sizing.resolveOverrides_idles rest.unfound
  · exact Sizing.pairParameters_idles (finished.imp fun _ facts => facts.formed.apart)
  · exact Sizing.resolveResiduals_idles rest.unfound
  · exact Corrections.retypeHandleReturns_idles
      ((rest.applied finished).imp fun _ applied => applied.retyped)

theorem idles_memberPasses : (Pass.run (memberPasses settings { file })).Idles forest := by
  have applied := rest.applied finished
  refine .run fun pass member => ?_
  simp only [memberPasses, Accessors.passes, List.cons_append, List.nil_append, List.mem_cons,
    List.not_mem_nil, or_false] at member
  rcases member with rfl | rfl | rfl | rfl | rfl | rfl
  · exact Accessors.foldAccessors_idles (applied.imp fun _ facts => facts.unfolded)
  · exact Accessors.dropSuccessReturns_idles (finished.imp fun _ facts => facts.formed.dropped)
  · exact Accessors.foldStatics_idles (finished.imp fun _ facts => facts.formed.bound)
  · exact Accessors.foldForcedProperties_idles (applied.imp fun _ facts => facts.unforced)
  · exact Corrections.applyRenames_idles rest.unrenamed
  · exact .ofTotal fun _ isForest => isForest

include noneFree

/-- A forest at rest is left as it is by all passes for a header that declares nothing. -/
theorem idles_passes (isThere : ⟨none, rootClass⟩ ∈ forest.hierarchy.places) :
    (Pass.run (passes settings rootClass { file })).Idles forest := by
  have listeners : Pass.Idles forest
      (Pass.ofTotal fun draft => (Listeners.extract settings [] draft).1) :=
    .ofTotal fun _ isForest => isForest
  have sizes := (Sizing.resolveFilledBuffers_idles (rest.unfilled finished)).cons
    (idles_sizePasses rest finished)
  have handles := listeners.cons ((idles_referPasses rest finished).append sizes)
  have initializers := Corrections.extractInitializers_idles
    fun _ _ isMethod => (rest.inert isMethod).uninitial
  rw [passes_eq, beforeInitializers]
  refine .append (idles_takePasses.append ?_)
    (initializers.cons (idles_memberPasses rest finished))
  exact (idles_convertErrorParameters noneFree).cons
    ((idles_hoistPasses noneFree isThere).append ((idles_handlePasses rest).append handles))

end Idle

theorem headerFault?_eq_none_iff {declarations : DeclarationSet} :
    headerFault? settings declarations = none ↔ declarations.headers ≠ [] ∧
      ∀ header ∈ declarations.headers, (settings.rootClass? header.file).isSome = true := by
  rw [headerFault?]
  cases isEmpty : declarations.headers.isEmpty with
  | true => simpa using fun some => absurd (List.isEmpty_iff.1 isEmpty) some
  | false =>
      have some : declarations.headers ≠ [] := by simpa using isEmpty
      simp [some, Option.isSome_iff_ne_none]

/-- What a conversion that finishes has done. -/
theorem convert_eq_ok_iff {declarations : DeclarationSet} {result : Result} :
    convert settings declarations = .ok result ↔
      headerFault? settings declarations = none ∧ ∃ draft : Draft,
        declarations.headers.foldlM (processHeader settings) {} = .ok draft ∧
        result = {
          draft := noteViolations draft
          document := draft.forest.document settings } := by
  rw [convert]
  cases fault : headerFault? settings declarations with
  | some fault =>
      constructor
      · intro converted
        cases converted
      · rintro ⟨none, -⟩
        cases none
  | none =>
      constructor
      · intro converted
        obtain ⟨draft, processed, finished⟩ := exists_ok_of_bind converted
        exact ⟨rfl, draft, processed, (Except.ok.inj finished).symm⟩
      · rintro ⟨-, draft, processed, rfl⟩
        exact congrArg (· >>= _) processed

theorem forest_noteViolations (draft : Draft) : (noteViolations draft).forest = draft.forest := by
  rw [noteViolations]
  split <;> rfl

/-- One more header that declares nothing changes nothing, provided that its root class is there
and the finished forest is at rest. -/
theorem convert_append_file {declarations : DeclarationSet} {result : Result}
    {file rootClass : String} (converted : convert settings declarations = .ok result)
    (isRoot : settings.rootClass? file = some rootClass)
    (isThere : ⟨none, rootClass⟩ ∈ result.draft.forest.hierarchy.places)
    (rest : AtRest settings result.draft.forest) :
    ∃ again, convert settings { headers := declarations.headers ++ [{ file }] } = .ok again ∧
      again.draft.forest = result.draft.forest ∧ again.document = result.document := by
  have finished := finished_convert converted
  have noneFree := free_convert converted
  obtain ⟨known, draft, processed, rfl⟩ := convert_eq_ok_iff.1 converted
  rw [forest_noteViolations] at isThere rest finished noneFree ⊢
  obtain ⟨next, idles, same⟩ :=
    @idles_passes settings draft.forest rootClass file rest finished noneFree isThere draft rfl
  have processedFile : processHeader settings draft { file } = .ok next := by
    rw [processHeader, isRoot]
    exact idles
  have more : (declarations.headers ++ [({ file } : HeaderDeclarations)]).foldlM
      (processHeader settings) {} = .ok next := by
    rw [List.foldlM_append, processed]
    change [_].foldlM (processHeader settings) draft = _
    rw [List.foldlM_cons, processedFile]
    rfl
  have known' : headerFault? settings { headers := declarations.headers ++ [{ file }] } = none := by
    obtain ⟨some, all⟩ := headerFault?_eq_none_iff.1 known
    refine headerFault?_eq_none_iff.2 ⟨by simp, fun header member => ?_⟩
    rcases List.mem_append.1 member with old | new
    · exact all header old
    · rw [List.mem_singleton.1 new, isRoot]
      rfl
  refine ⟨_, convert_eq_ok_iff.2 ⟨known', next, more, rfl⟩, ?_, ?_⟩
  · rw [forest_noteViolations, same]
  · rw [same]

/-- A name that is filled, a friend that is added and the status of a friend. -/
def friends : DeclarationSet where
  headers := [{
    file := "tox.h"
    functions := [
      { name := "tox_self_get_name"
        returnType := { name := "void" }
        parameters := [
          { name := "tox", type := { name := "Tox", isPointer := true } },
          { name := "name", type := { name := "uint8_t", isPointer := true } }] },
      { name := "tox_self_get_name_size"
        returnType := { name := "size_t" }
        parameters := [{ name := "tox", type := { name := "Tox", isPointer := true } }] },
      { name := "tox_friend_add"
        returnType := { name := "uint32_t" }
        parameters := [
          { name := "tox", type := { name := "Tox", isPointer := true } },
          { name := "address", type := { name := "uint8_t", isPointer := true } }] },
      { name := "tox_friend_get_status"
        returnType := { name := "uint8_t" }
        parameters := [
          { name := "tox", type := { name := "Tox", isPointer := true } },
          { name := "friend_number", type := { name := "uint32_t" } }] }]
    structs := ["Tox"] }]

theorem document_friends_append :
    ∃ result again, convert Settings.default friends = .ok result ∧
      convert Settings.default { headers := friends.headers ++ [{ file := "tox.h" }] } = .ok again ∧
      again.document = result.document := by
  obtain ⟨result, converted, known⟩ := exists_converted
    (fun result => decide (⟨none, "Tox"⟩ ∈ result.draft.forest.hierarchy.places ∧
      AtRest Settings.default result.draft.forest))
    (show (convert Settings.default friends).toOption.map _ = some true by decide +kernel)
  obtain ⟨isThere, rest⟩ := of_decide_eq_true known
  have isRoot : Settings.default.rootClass? "tox.h" = some "Tox" := by decide +kernel
  obtain ⟨again, appended, -, same⟩ := convert_append_file converted isRoot isThere rest
  exact ⟨result, again, converted, appended, same⟩

/-- A method with the name of its class three times over. -/
def repeatedPrefix : DeclarationSet where
  headers := [{
    file := "tox.h"
    functions := [
      { name := "tox_tox_tox_id"
        returnType := { name := "uint32_t" }
        parameters := [
          { name := "tox", type := { name := "Tox", isPointer := true } },
          { name := "x", type := { name := "uint32_t" } }] }]
    structs := ["Tox"] }]

/-- Each header takes two prefixes off, so the name that the first one leaves as `tox_id` becomes
`id` for the second one. -/
theorem document_repeatedPrefix_append :
    ∃ result again, convert Settings.default repeatedPrefix = .ok result ∧
      Settings.default.rootClass? "tox.h" = some "Tox" ∧
      ⟨none, "Tox"⟩ ∈ result.draft.forest.hierarchy.places ∧
      convert Settings.default { headers := repeatedPrefix.headers ++ [{ file := "tox.h" }] } =
        .ok again ∧
      again.document ≠ result.document := by
  obtain ⟨result, converted, known⟩ := exists_converted
    (fun result => decide (⟨none, "Tox"⟩ ∈ result.draft.forest.hierarchy.places ∧
      result.document.classes.flatMap (·.functions.map (·.name)) = ["tox_id"]))
    (show (convert Settings.default repeatedPrefix).toOption.map _ = some true by decide +kernel)
  obtain ⟨isThere, before⟩ := of_decide_eq_true known
  obtain ⟨again, appended, after⟩ := exists_converted
    (fun result => result.document.classes.flatMap (·.functions.map (·.name)))
    (show (convert Settings.default
      { headers := repeatedPrefix.headers ++ [{ file := "tox.h" }] }).toOption.map _ =
        some ["id"] by
      decide +kernel)
  have isRoot : Settings.default.rootClass? "tox.h" = some "Tox" := by decide +kernel
  refine ⟨result, again, converted, isRoot, isThere, appended, fun same => ?_⟩
  rw [same, before] at after
  exact absurd after (by decide)

end Conversion

end Bindery
