import Bindery.Proofs.Passes.Grouping

/-!
# The moves of the passes for number handles

A round moves the methods that matched when it started.  A match that is still to come is a method
of its class with its number handle in front, because the matches before it were about other
methods.
-/

namespace Bindery

namespace Text

theorem dropSuffix?_eq_some {text suffix base : String}
    (found : dropSuffix? text suffix = some base) : text = base ++ suffix := by
  obtain ⟨kept, isKept, rfl⟩ := Option.map_eq_some_iff.1 found
  apply String.toList_injective
  rw [Chars.dropSuffix?_eq_some isKept, String.toList_append, String.toList_ofList]

theorem endsWith_of_dropSuffix? {text suffix base : String}
    (found : dropSuffix? text suffix = some base) : endsWith text suffix = true := by
  rw [endsWith_iff, dropSuffix?_eq_some found, String.toList_append]
  exact List.suffix_append _ _

theorem not_suffix_of_dropSuffix?_eq_none {text suffix : String}
    (notFound : dropSuffix? text suffix = none) : ¬suffix.toList <:+ text.toList := by
  rw [dropSuffix?, Option.map_eq_none_iff, Chars.dropSuffix?] at notFound
  split at notFound
  · cases notFound
  · rename_i isSuffix
    exact fun marked => isSuffix (List.isSuffixOf_iff_suffix.2 marked)

end Text

variable {settings : Settings} {draft : Draft} {id other : FunctionId}

namespace Forest

variable {forest : Forest} {c inner : ClassId}

theorem MethodsDistinct.nodup_allMethods (distinct : forest.MethodsDistinct) :
    (forest.allClasses.flatMap forest.methods).Nodup := by
  refine List.nodup_flatMap.2 ⟨fun c _ => distinct.nodup c, ?_⟩
  apply forest.hierarchy.nodup_all.pairwise_of_forall_ne
  intro left _ right _ different
  exact List.disjoint_left.2 fun id inLeft inRight => different (distinct.unique inLeft inRight)

theorem MethodsDistinct.of_methods_eq (distinct : forest.MethodsDistinct) {other : Forest}
    (same : ∀ c, other.methods c = forest.methods c) : other.MethodsDistinct where
  nodup := fun c => same c ▸ distinct.nodup c
  unique := fun inLeft inRight => distinct.unique (same _ ▸ inLeft) (same _ ▸ inRight)

theorem mem_methods_modifyClass (c : ClassId) (change : Class → Class) {place : ClassId}
    (keeps : ∀ content : Class, other ∈ content.methods → other ∈ (change content).methods)
    (isMethod : other ∈ forest.methods place) :
    other ∈ (forest.modifyClass c change).methods place := by
  by_cases same : place = c
  · subst same
    rw [methods, classAt_modifyClass_self (lt_size_of_mem_methods isMethod)]
    exact keeps _ isMethod
  · rwa [methods, classAt_modifyClass_of_ne same]

/-- A method that moves leaves the others where they are. -/
theorem mem_methods_descend {place : ClassId} {type : ValueType} (different : other ≠ id)
    (isMethod : other ∈ forest.methods place) :
    other ∈ (forest.descend c inner id type).methods place := by
  have wrapped : other ∈ ((forest.modifyFunction id (·.dropParameter 0)).modifyClass inner
      (NumberHandles.wrapNumber type)).methods place :=
    mem_methods_modifyClass inner _ (fun _ member => member) isMethod
  rw [descend, moveMethod]
  split
  · have removed := mem_methods_modifyClass c (·.removeMethod id)
      (fun _ member => (List.mem_erase_of_ne different).2 member) wrapped
    exact mem_methods_modifyClass inner _ (fun _ member => List.mem_append_left _ member) removed
  · exact wrapped

/-- A method that moves is a method of its new class, and the others are where they were. -/
theorem MethodsDistinct.mem_methods_descend_iff (distinct : forest.MethodsDistinct)
    {place : ClassId} {type : ValueType} (isMethod : id ∈ forest.methods c)
    (different : c ≠ inner) (valid : inner < forest.hierarchy.size) :
    other ∈ (forest.descend c inner id type).methods place ↔
      if other = id then place = inner else other ∈ forest.methods place := by
  have arrives : (forest.descend c inner id type).methods inner = forest.methods inner ++ [id] := by
    rw [methods, classAt_descend_inner isMethod different valid]
    rfl
  have leaves : (forest.descend c inner id type).methods c = (forest.methods c).erase id := by
    rw [methods, classAt_descend_outer isMethod different]
    rfl
  by_cases isInner : place = inner
  · subst isInner
    rw [arrives, List.mem_append, List.mem_singleton]
    by_cases same : other = id
    · simp [same]
    · simp [same]
  · by_cases isOuter : place = c
    · subst isOuter
      rw [leaves, (distinct.nodup place).mem_erase_iff]
      by_cases same : other = id
      · simp [same, isInner]
      · simp [same]
    · have stays : (forest.descend c inner id type).methods place = forest.methods place := by
        rw [methods, classAt_descend_of_ne isMethod different type isOuter isInner]
        rfl
      rw [stays]
      by_cases same : other = id
      · subst same
        rw [if_pos rfl]
        exact iff_of_false (fun isThere => isOuter (distinct.unique isThere isMethod)) isInner
      · rw [if_neg same]

theorem MethodsDistinct.descend (distinct : forest.MethodsDistinct) {type : ValueType}
    (isMethod : id ∈ forest.methods c) (different : c ≠ inner)
    (valid : inner < forest.hierarchy.size) :
    (forest.descend c inner id type).MethodsDistinct where
  nodup := by
    intro place
    by_cases isInner : place = inner
    · subst isInner
      rw [methods, classAt_descend_inner isMethod different valid]
      refine List.nodup_append.2 ⟨distinct.nodup place, List.nodup_singleton id, ?_⟩
      rintro old isThere new isNew rfl
      rw [List.mem_singleton.1 isNew] at isThere
      exact different (distinct.unique isMethod isThere)
    · by_cases isOuter : place = c
      · subst isOuter
        rw [methods, classAt_descend_outer isMethod different]
        exact (distinct.nodup place).erase id
      · rw [methods, classAt_descend_of_ne isMethod different type isOuter isInner]
        exact distinct.nodup place
  unique := by
    intro other left right inLeft inRight
    rw [distinct.mem_methods_descend_iff isMethod different valid] at inLeft inRight
    split at inLeft
    · rename_i same
      rw [if_pos same] at inRight
      exact inLeft.trans inRight.symm
    · rename_i apart
      rw [if_neg apart] at inRight
      exact distinct.unique inLeft inRight

theorem functionAt_descend_of_ne {type : ValueType} (different : other ≠ id) :
    (forest.descend c inner id type).functionAt other = forest.functionAt other := by
  rw [descend, moveMethod]
  split
  · exact functionAt_modifyFunction_of_ne different
  · exact functionAt_modifyFunction_of_ne different

end Forest

namespace NumberHandles

theorem handleBase?_eq_some {function : Function} {base : String}
    (matched : handleBase? settings function = some base) :
    ∃ first rest, function.params = .plain first :: rest ∧
      Text.dropSuffix? first.name settings.markers.numberHandle = some base := by
  rw [handleBase?] at matched
  split at matched
  · rename_i first isFirst
    obtain ⟨rest, isParams⟩ := List.head?_eq_some_iff.1 isFirst
    exact ⟨first, rest, isParams, matched⟩
  · simp at matched

/-- The matches that are still to come are about different methods and match still. -/
def MatchesRemain (settings : Settings) (rest : List Match) (forest : Forest) : Prop :=
  (rest.map (·.function)).Nodup ∧ ∀ found ∈ rest,
    found.function ∈ forest.methods found.c ∧
      handleBase? settings (forest.functionAt found.function) = some found.base

/-- The matches among some methods of a class. -/
def matchesOf (settings : Settings) (forest : Forest) (c : ClassId) (ids : List FunctionId) :
    List Match :=
  ids.filterMap fun function =>
    (handleBase? settings (forest.functionAt function)).map ({ c, function, base := · })

theorem functions_matchesOf_sublist (forest : Forest) (c : ClassId) (ids : List FunctionId) :
    ((matchesOf settings forest c ids).map (·.function)).Sublist ids := by
  induction ids with
  | nil => exact .slnil
  | cons id rest ih =>
      rw [matchesOf, List.filterMap_cons]
      cases handleBase? settings (forest.functionAt id) with
      | none => exact ih.cons id
      | some base => exact ih.cons_cons id

theorem functions_findMatches_sublist (forest : Forest) :
    ((findMatches settings forest).map (·.function)).Sublist
      (forest.allClasses.flatMap forest.methods) := by
  rw [findMatches, List.map_flatMap]
  induction forest.allClasses with
  | nil => exact .slnil
  | cons c rest ih => exact (functions_matchesOf_sublist forest c _).append ih

theorem mem_findMatches_iff {forest : Forest} {found : Match} :
    found ∈ findMatches settings forest ↔ found.function ∈ forest.methods found.c ∧
      handleBase? settings (forest.functionAt found.function) = some found.base := by
  constructor
  · intro member
    obtain ⟨c, -, member⟩ := List.mem_flatMap.1 member
    obtain ⟨id, isMethod, matched⟩ := List.mem_filterMap.1 member
    obtain ⟨base, isBase, rfl⟩ := Option.map_eq_some_iff.1 matched
    exact ⟨isMethod, isBase⟩
  · rintro ⟨isMethod, isBase⟩
    have isClass := Hierarchy.mem_all_iff.2 (Forest.lt_size_of_mem_methods isMethod)
    refine List.mem_flatMap.2 ⟨found.c, isClass, List.mem_filterMap.2 ⟨_, isMethod, ?_⟩⟩
    rw [isBase]
    rfl

theorem matchesRemain_findMatches {forest : Forest} (distinct : forest.MethodsDistinct) :
    MatchesRemain settings (findMatches settings forest) forest :=
  ⟨(functions_findMatches_sublist forest).nodup distinct.nodup_allMethods,
    fun _ member => mem_findMatches_iff.1 member⟩

/-- What becomes of the forest when one match is relocated. -/
theorem forest_relocate {found : Match} {function : Function} {first : Parameter}
    {rest : List Argument} {required : Forest × ClassId}
    (isFunction : draft.forest.functionAt found.function = function)
    (leading : function.params = .plain first :: rest)
    (isRequired : draft.forest.requireClass (some found.c)
      (Identifier.snakeToPascal found.base) = required) :
    (relocate settings draft found).forest =
      if settings.isHandleExempt function.name (draft.forest.className found.c) then
        draft.forest.modifyFunction found.function (·.mapParameter 0 (asReference found.base))
      else required.1.descend found.c required.2 found.function first.type := by
  subst isFunction isRequired
  rw [relocate]
  dsimp only
  rw [leading]
  split
  · rfl
  · simp only [List.head?_cons, Draft.forest_note, Draft.forest_onForest,
      Draft.forest_modifyClass, Draft.forest_modifyFunction, Draft.forest_requireClass,
      Draft.snd_requireClass]
    rfl

theorem refers_modify_head {params : List Argument} {first : Parameter} {rest : List Argument}
    {base : String} (leading : params = .plain first :: rest)
    (isBase : Text.dropSuffix? first.name settings.markers.numberHandle = some base) :
    List.Forall₂ (Refers settings) params
      (params.modify 0 (·.mapPlain (asReference base))) := by
  subst leading
  have others : List.Forall₂ (Refers settings) rest rest :=
    List.forall₂_same.2 fun _ _ => .inl rfl
  exact .cons (.inr ⟨first, base, rfl, isBase, rfl⟩) others

theorem refers_map (params : List Argument) :
    List.Forall₂ (Refers settings) params (params.map (·.mapPlain (referTo settings))) := by
  refine List.forall₂_map_right_iff.2 (List.forall₂_same.2 fun argument _ => ?_)
  cases argument with
  | buffer data length => exact .inl rfl
  | plain parameter =>
      cases isBase : Text.dropSuffix? parameter.name settings.markers.numberHandle with
      | none =>
          left
          rw [Argument.mapPlain, referTo, isBase]
      | some base =>
          right
          refine ⟨parameter, base, rfl, isBase, ?_⟩
          rw [Argument.mapPlain, referTo, isBase]

theorem moves_relocate {found : Match} {rest : List Match}
    (remain : MatchesRemain settings (found :: rest) draft.forest) :
    Moves settings {.require, .descend, .edit .refer} draft.forest
        (relocate settings draft found).forest ∧
      MatchesRemain settings rest (relocate settings draft found).forest := by
  obtain ⟨different, still⟩ := remain
  obtain ⟨fresh, different⟩ := List.nodup_cons.1 different
  obtain ⟨isMethod, matched⟩ := still found List.mem_cons_self
  have distinct : ∀ later ∈ rest, later.function ≠ found.function := fun later member same =>
    fresh (List.mem_map.2 ⟨later, member, same⟩)
  obtain ⟨first, others, leading, isBase⟩ := handleBase?_eq_some matched
  have isThere := Forest.lt_size_of_mem_methods isMethod
  generalize isFunction : draft.forest.functionAt found.function = function at leading
  generalize isRequired : draft.forest.requireClass (some found.c)
    (Identifier.snakeToPascal found.base) = required
  rw [forest_relocate isFunction leading isRequired]
  -- An exempt method keeps its class and only has its first parameter renamed.
  split
  · refine ⟨.edit .refer (by simp) (.refer ?_), different, ?_⟩
    · rw [isFunction]
      exact refers_modify_head leading isBase
    · intro later member
      rw [Forest.functionAt_modifyFunction_of_ne (distinct later member)]
      exact still later (List.mem_cons_of_mem _ member)
  · have below : ∀ outer ∈ some found.c, outer < draft.forest.hierarchy.size := by
      intro outer isOuter
      exact Option.mem_some_iff.1 isOuter ▸ isThere
    have requires : Move settings .require draft.forest required.1 :=
      isRequired ▸ .require _ below
    have sameMethods (c : ClassId) : required.1.methods c = draft.forest.methods c := by
      rw [← isRequired, Forest.methods, Forest.classAt_requireClass]
      rfl
    have sameFunctions (id : FunctionId) :
        required.1.functionAt id = draft.forest.functionAt id := isRequired ▸ rfl
    have descends : Move settings .descend required.1
        (required.1.descend found.c required.2 found.function first.type) := by
      have stillLeading : (required.1.functionAt found.function).params =
          .plain first :: others := by
        rw [sameFunctions, isFunction, leading]
      exact .descend (sameMethods found.c ▸ isMethod)
        (isRequired ▸ Hierarchy.snd_require_lt _ below)
        (isRequired ▸ Hierarchy.parent?_require _ below) stillLeading
        (Text.endsWith_of_dropSuffix? isBase)
    refine ⟨(Moves.single (by simp) requires).trans (.single (by simp) descends), different, ?_⟩
    intro later member
    have stays := still later (List.mem_cons_of_mem _ member)
    rw [Forest.functionAt_descend_of_ne (distinct later member), sameFunctions]
    exact ⟨Forest.mem_methods_descend (distinct later member) (sameMethods _ ▸ stays.1), stays.2⟩

/-- What rounds are made of. -/
def roundKinds : Set MoveKind :=
  {.require, .descend, .edit .refer, .edit .rename}

theorem methodsDistinct_of_moves {before after : Forest}
    (moves : Moves settings roundKinds before after) (distinct : before.MethodsDistinct) :
    after.MethodsDistinct := by
  induction moves with
  | refl => exact distinct
  | tail _ last ih =>
      obtain ⟨kind, allowed, move⟩ := last
      cases move with
      | edit edited => exact ih.of_methods_eq fun _ => rfl
      | require name below =>
          refine ih.of_methods_eq fun c => ?_
          rw [Forest.methods, Forest.classAt_requireClass]
          rfl
      | descend isMethod valid isInner leading marked =>
          exact ih.descend isMethod (Nat.ne_of_lt (Hierarchy.parent_lt isInner)) valid
      | _ => simp [roundKinds] at allowed

section Distinct

variable (settings) (distinct : draft.forest.MethodsDistinct)

include distinct

theorem moves_relocateMethods :
    Moves settings {.require, .descend, .edit .refer} draft.forest
      (relocateMethods settings draft).1.forest :=
  moves_foldl_of_remaining (fun _ _ _ => moves_relocate) (matchesRemain_findMatches distinct)

theorem moves_round :
    Moves settings roundKinds draft.forest (round settings draft).1.forest := by
  have relocates := moves_relocateMethods settings distinct
  have strips : Moves settings {.edit .rename} (relocateMethods settings draft).1.forest
      (round settings draft).1.forest :=
    Hoisting.moves_stripClassPrefixes
  exact (relocates.mono (by simp [roundKinds, Set.insert_subset_iff])).trans
    (strips.mono (by simp [roundKinds]))

end Distinct

/-- What every round keeps, the loop keeps, also where it gives up. -/
theorem kept_extractFrom {Invariant : Forest → Prop}
    (keeps : ∀ draft, Invariant draft.forest → Invariant (round settings draft).1.forest)
    (rounds : Nat) (holds : Invariant draft.forest) :
    Invariant (reached ((extractFrom settings rounds draft).map (·.1))).forest := by
  induction rounds, draft using extractFrom.induct settings with
  | case1 rounds draft next finished =>
      have kept := keeps draft holds
      rw [finished] at kept
      rw [extractFrom, finished]
      exact kept
  | case2 rounds draft next found shorter count ih =>
      have kept := keeps draft holds
      rw [found] at kept
      rw [extractFrom, found]
      dsimp only
      rw [if_pos shorter]
      exact ih kept
  | case3 rounds draft next found same =>
      have kept := keeps draft holds
      rw [found] at kept
      rw [extractFrom, found]
      dsimp only
      rw [if_neg same]
      exact kept

variable (settings) in
theorem makes_convertLeftoverParameters :
    Pass.Makes settings {.edit .refer} (Pass.ofTotal (convertLeftoverParameters settings)) :=
  .ofTotal fun _ sound => moves_forEachMethod (fun _ _ _ _ =>
    moves_modifyFunction (Set.mem_singleton _) (.refer (refers_map _))) sound

end NumberHandles

namespace Grouping

variable (settings)

theorem makes_stripRootPrefixes :
    Pass.Makes settings {.edit .rename} (Pass.ofTotal stripRootPrefixes) :=
  .ofTotal fun _ _ => Hoisting.moves_stripClassPrefixes

theorem kept_settleHandles {Invariant : Forest → Prop}
    (keeps : ∀ draft, Invariant draft.forest →
      Invariant (NumberHandles.round settings draft).1.forest)
    (holds : Invariant draft.forest) :
    Invariant (reached (settleHandles settings draft)).forest := by
  have kept := NumberHandles.kept_extractFrom keeps 0 holds
  rw [settleHandles, NumberHandles.extract]
  cases result : NumberHandles.extractFrom settings 0 draft with
  | error stopped =>
      rw [result] at kept
      exact kept
  | ok settled =>
      rw [result] at kept
      exact kept

theorem makes_settleHandles :
    Pass.Makes settings NumberHandles.roundKinds (settleHandles settings) :=
  fun _ sound => kept_settleHandles settings (fun _ moves =>
    moves.trans (NumberHandles.moves_round settings (moves.sound sound).methodsDistinct)) (.refl _)

end Grouping

/-! ## Listeners -/

namespace Listeners

/-- The class of the listener of a callback. -/
def listenerName (signature : FunctionDeclaration) : String :=
  Identifier.snakeToPascal signature.name

/-- Adds the function of a callback to its listener, which is made if it is not there. -/
def listen (settings : Settings) (forest : Forest) (signature : FunctionDeclaration) : Forest :=
  let added := forest.addFunction
    ((signature.intake settings).rename settings.canonical.callback)
  let required := added.requireClass none (listenerName signature)
  required.1.modifyClass required.2 fun c =>
    { c.addMethod forest.functionCount with isCallback := true }

theorem forest_extractOne {state : Draft × List ClassId} (declaration : TypedefDeclaration) :
    (extractOne settings state declaration).1.forest =
      declaration.asFunction?.toList.foldl (listen settings) state.1.forest := by
  rw [extractOne]
  dsimp only
  cases isFunction : declaration.asFunction? with
  | none => rfl
  | some signature =>
      have sameName : signature.name = declaration.name := by
        rw [TypedefDeclaration.asFunction?] at isFunction
        split at isFunction
        · rw [← Option.some.inj isFunction]
        · cases isFunction
      dsimp only [Draft.addFunction]
      simp only [Draft.forest_note, Draft.forest_modifyClass, Draft.forest_requireClass,
        Draft.snd_requireClass, Draft.forest_onForest, ← sameName]
      rfl

/-- All listeners of a header, one callback after the other. -/
theorem forest_extract {typedefs : List TypedefDeclaration} {draft : Draft} :
    (extract settings typedefs draft).1.forest =
      ((typedefs.filter (isCallback settings)).filterMap (·.asFunction?)).foldl (listen settings)
        draft.forest := by
  have loop (declarations : List TypedefDeclaration) (state : Draft × List ClassId) :
      (declarations.foldl (extractOne settings) state).1.forest =
        (declarations.filterMap (·.asFunction?)).foldl (listen settings) state.1.forest := by
    induction declarations generalizing state with
    | nil => rfl
    | cons declaration rest ih =>
        rw [List.foldl_cons, ih, forest_extractOne, List.filterMap_cons]
        cases declaration.asFunction? <;> rfl
  exact loop _ (draft, [])

variable (settings)

theorem move_listen (forest : Forest) (signature : FunctionDeclaration) :
    Move settings .listen forest (listen settings forest signature) :=
  .listen _ _

theorem moves_foldl_listen (forest : Forest) (signatures : List FunctionDeclaration) :
    Moves settings {.listen} forest (signatures.foldl (listen settings) forest) := by
  induction signatures generalizing forest with
  | nil => exact .refl _
  | cons signature rest ih =>
      have first := move_listen settings forest signature
      exact (Moves.single (Set.mem_singleton _) first).trans (ih _)

theorem makes_extract (typedefs : List TypedefDeclaration) :
    Pass.Makes settings {.listen}
      (Pass.ofTotal fun draft => (extract settings typedefs draft).1) :=
  .ofTotal fun draft _ => forest_extract ▸ moves_foldl_listen settings draft.forest _

end Listeners

end Bindery
