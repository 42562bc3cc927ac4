import Bindery.Proofs.Traversal

/-!
# The moves of the passes for buffers

Sizing a buffer edits the function that has it, and may first take the accessor off its class.  The
accessor is found by one of a few keywords, which are told by the function's name and arrays.
-/

namespace Bindery

/-- The plain parameters that are arrays. -/
def Function.arrays (function : Function) : List Parameter :=
  function.plainParameters.filter (·.type.isArray)

theorem Function.mem_arrays_iff {function : Function} {parameter : Parameter} :
    parameter ∈ function.arrays ↔
      .plain parameter ∈ function.params ∧ parameter.type.isArray = true := by
  have isPlain (argument : Argument) :
      argument.plain? = some parameter ↔ argument = .plain parameter := by
    cases argument <;> simp [Argument.plain?]
  simp [arrays, plainParameters, isPlain]

namespace Sizing

variable {settings : Settings} {kinds : Set MoveKind} {draft searched : Draft} {c : ClassId}
  {accessor id : FunctionId} {marker keyword : String} {result : Option FunctionId}

theorem forest_detach :
    (detach draft c accessor marker).forest =
      if Text.contains (draft.forest.functionAt accessor).name marker ∧
          accessor ∈ draft.forest.methods c then
        draft.forest.detach c accessor
      else draft.forest := by
  rw [detach]
  dsimp only
  split <;> rfl

@[simp]
theorem functionAt_detach :
    (detach draft c accessor marker).forest.functionAt id = draft.forest.functionAt id := by
  rw [forest_detach]
  split <;> rfl

theorem moves_detach (allowed : .detach ∈ kinds) :
    Moves settings kinds draft.forest (detach draft c accessor marker).forest := by
  rw [forest_detach]
  split
  · rename_i found
    exact .single allowed (.detach found.2)
  · exact .refl _

/-- A search leaves a line in the journal and nothing else. -/
theorem forest_of_search (found : search settings draft keyword c = (searched, result)) :
    searched.forest = draft.forest :=
  (congrArg (fun pair => pair.1.forest) found).symm

theorem any_isUnsizedBuffer {params : List Argument} {position : Nat}
    (found : params.findIdx? (·.isUnsizedBuffer) = some position) :
    params[position]?.any (·.isUnsizedBuffer) = true := by
  obtain ⟨within, unsized, -⟩ := List.findIdx?_eq_some_iff_getElem.1 found
  rw [List.getElem?_eq_getElem within]
  exact unsized

/-- The buffer that a setter sets is its first one of unknown size. -/
theorem setBuffer?_eq_some {function : Function} {position : Nat}
    (isSet : setBuffer? settings function = some position) :
    function.params.findIdx? (·.isUnsizedBuffer) = some position := by
  rw [setBuffer?] at isSet
  split at isSet
  · exact isSet
  · cases isSet

/-! ## What a rule does to a method -/

/-- How a function is told of an accessor. -/
inductive Told (settings : Settings) (accessor : FunctionId) : EditKind → Function → Function → Prop
  | sizeReturn {function : Function}
      (needed : needsReturnAccessor settings function = true) :
      Told settings accessor .sizeReturn function
        { function with
          ret := { function.ret with type := function.ret.type.withGetter accessor } }
  | promote {function : Function} {position : Nat}
      (found : filledBuffer? settings function = some position) :
      Told settings accessor .promote function (promote position accessor function)
  | sizeParameter {function : Function} {position : Nat} (sizer : SizeAccessor)
      (isAccessor : sizer.function = accessor)
      (unsized : function.params[position]?.any (·.isUnsizedBuffer) = true) :
      Told settings accessor .sizeParameter function
        (function.mapParameter position fun parameter =>
          { parameter with type := { parameter.type with sizeAccessor := some sizer } })

theorem Told.edit {kind : EditKind} {function changed : Function}
    (told : Told settings accessor kind function changed) :
    Edit settings kind function changed := by
  cases told with
  | sizeReturn needed => exact .sizeReturn accessor needed
  | promote found => exact .promote accessor found
  | sizeParameter sizer _ unsized => exact .sizeParameter sizer unsized

/-- All keywords by which the rules may look for the sizes of a function's buffers. -/
def keywords (settings : Settings) (forest : Forest) (id : FunctionId) : List String :=
  let function := forest.functionAt id
  let classes := forest.allClasses.filter fun c => id ∈ forest.methods c
  classes.map (fun c => (returnKeyword settings (forest.className c) function).search) ++
    [(getterKeyword settings function).search, setterKeyword settings function] ++
    (settings.keywords.parameters.get? function.name).toList ++
    function.arrays.map (·.name)

section Keywords

variable {forest : Forest}

theorem returnKeyword_mem_keywords (isMethod : id ∈ forest.methods c) :
    (returnKeyword settings (forest.className c) (forest.functionAt id)).search ∈
      keywords settings forest id := by
  have isClass : c ∈ forest.allClasses :=
    Hierarchy.mem_all_iff.2 (Forest.lt_size_of_mem_methods isMethod)
  simp only [keywords, List.mem_append, List.mem_map, List.mem_filter, decide_eq_true_eq]
  exact .inl (.inl (.inl ⟨c, ⟨isClass, isMethod⟩, rfl⟩))

theorem getterKeyword_mem_keywords :
    (getterKeyword settings (forest.functionAt id)).search ∈ keywords settings forest id := by
  simp [keywords]

theorem setterKeyword_mem_keywords :
    setterKeyword settings (forest.functionAt id) ∈ keywords settings forest id := by
  simp [keywords]

theorem mem_keywords_of_override
    (found : settings.keywords.parameters.get? (forest.functionAt id).name = some keyword) :
    keyword ∈ keywords settings forest id := by
  simp [keywords, found]

theorem name_mem_keywords {parameter : Parameter}
    (isArray : parameter ∈ (forest.functionAt id).arrays) :
    parameter.name ∈ keywords settings forest id :=
  List.mem_append_right _ (List.mem_map_of_mem isArray)

end Keywords

/-- Whether a function is named like a getter or like a setter. -/
def isAccessorName (settings : Settings) (name : String) : Bool :=
  Text.contains name settings.markers.getter || Text.contains name settings.markers.setter

/-- What a rule that makes moves of some kinds does when it comes to a method: nothing, or it tells
the method of an accessor that is in sight of the class and found by a keyword of the method, and
may take that off the class if it is named like one. -/
inductive Resolves (settings : Settings) (kinds : Set MoveKind) (c : ClassId) (id : FunctionId)
    (before : Forest) : Forest → Prop
  | skip : Resolves settings kinds c id before before
  | tell {kind : EditKind} {keyword : String} {accessor : FunctionId} {taken : Forest}
      {change : Function → Function} (tells : .edit kind ∈ kinds)
      (sought : keyword ∈ keywords settings before id)
      (found : accessor? settings before keyword c before.allClasses = some accessor)
      (takes : taken = before ∨
        .detach ∈ kinds ∧ accessor ∈ before.methods c ∧
          isAccessorName settings (before.functionAt accessor).name = true ∧
          taken = before.detach c accessor)
      (told : Told settings accessor kind (before.functionAt id)
        (change (before.functionAt id))) :
      Resolves settings kinds c id before (taken.modifyFunction id change)

theorem Resolves.moves {before after : Forest}
    (resolves : Resolves settings kinds c id before after) :
    Moves settings kinds before after := by
  cases resolves with
  | skip => exact .refl _
  | tell tells sought found takes told =>
      rcases takes with rfl | ⟨detaches, isMethod, -, rfl⟩
      · exact .single tells (.edit told.edit)
      · exact (Moves.single detaches (.detach isMethod)).trans (.edit _ tells told.edit)

/-- A rule that takes the accessor off its class goes by a marker in the accessor's name. -/
theorem Resolves.detach {kind : EditKind} {change : Function → Function}
    (sought : keyword ∈ keywords settings draft.forest id)
    (found : search settings draft keyword c = (searched, some accessor))
    (told : Told settings accessor kind (searched.forest.functionAt id)
      (change (searched.forest.functionAt id)))
    (isMarker : ∀ name, Text.contains name marker = true → isAccessorName settings name = true) :
    Resolves settings {.detach, .edit kind} c id draft.forest
      ((detach searched c accessor marker).modifyFunction id change).forest := by
  have same := forest_of_search found
  rw [Draft.forest_modifyFunction, forest_detach, same]
  refine .tell (by simp) sought (congrArg (·.2) found) ?_ (same ▸ told)
  split
  · rename_i isTaken
    exact .inr ⟨by simp, isTaken.2, isMarker _ isTaken.1, rfl⟩
  · exact .inl rfl

theorem resolves_resolveReturn :
    Resolves settings {.detach, .edit .sizeReturn} c id draft.forest
      (reached (resolveReturn settings c id draft)).forest := by
  rw [resolveReturn]
  dsimp only
  split
  · exact .skip
  · rename_i needed
    obtain ⟨isMethod, needed⟩ := not_or.1 needed
    split
    · rename_i found
      exact forest_of_search found ▸ .skip
    · rename_i accessor found
      refine .detach (returnKeyword_mem_keywords (not_not.1 isMethod)) found (.sizeReturn ?_)
        fun _ marked => Bool.or_eq_true_iff.2 (.inl marked)
      simpa [forest_of_search found] using needed

theorem resolves_resolveFilled :
    Resolves settings {.detach, .edit .promote} c id draft.forest
      (reached (resolveFilled settings c id draft)).forest := by
  rw [resolveFilled]
  dsimp only
  split
  · exact .skip
  · rename_i position filled
    split
    · exact .skip
    · split
      · rename_i found
        exact forest_of_search found ▸ .skip
      · rename_i accessor found
        refine .detach getterKeyword_mem_keywords found (.promote ?_)
          fun _ marked => Bool.or_eq_true_iff.2 (.inl marked)
        simpa [forest_of_search found] using filled

theorem resolves_resolveSetter :
    Resolves settings {.detach, .edit .sizeParameter} c id draft.forest
      (resolveSetter settings c id draft).forest := by
  rw [resolveSetter]
  dsimp only
  split
  · exact .skip
  · rename_i position isSet
    have unsized := any_isUnsizedBuffer (setBuffer?_eq_some isSet)
    split
    · exact .skip
    · split
      · rename_i found
        exact forest_of_search found ▸ .skip
      · rename_i accessor found
        refine .detach setterKeyword_mem_keywords found (.sizeParameter (.setter accessor) rfl ?_)
          fun _ marked => Bool.or_eq_true_iff.2 (.inr marked)
        simpa [forest_of_search found] using unsized

theorem resolves_resolveBuffer {position : Nat}
    (sought : keyword ∈ keywords settings draft.forest id)
    (unsized : (draft.forest.functionAt id).params[position]?.any (·.isUnsizedBuffer) = true) :
    Resolves settings {.edit .sizeParameter} c id draft.forest
      (resolveBuffer settings c id position keyword draft).forest := by
  rw [resolveBuffer]
  split
  · rename_i found
    exact forest_of_search found ▸ .skip
  · rename_i accessor found
    have same := forest_of_search found
    rw [attach, Draft.forest_modifyFunction, same]
    exact .tell (Set.mem_singleton _) sought (congrArg (·.2) found) (.inl rfl)
      (.sizeParameter (.getter accessor) rfl unsized)

theorem resolves_resolveOverride :
    Resolves settings {.edit .sizeParameter} c id draft.forest
      (resolveOverride settings c id draft).forest := by
  unfold resolveOverride
  dsimp only
  split
  · rename_i isOverride found
    exact resolves_resolveBuffer (mem_keywords_of_override isOverride) (any_isUnsizedBuffer found)
  · exact .skip

/-- A buffer without a known size is one of the arrays of its function. -/
theorem exists_mem_arrays {function : Function} {position : Nat} {argument : Argument}
    (present : function.params[position]? = some argument)
    (unsized : argument.isUnsizedBuffer = true) :
    ∃ parameter ∈ function.arrays, argument = .plain parameter := by
  cases argument with
  | buffer data length => cases unsized
  | plain parameter =>
      exact ⟨parameter, Function.mem_arrays_iff.2
        ⟨List.mem_of_getElem? present, (Bool.and_eq_true_iff.1 unsized).1⟩, rfl⟩

theorem resolves_resolveResidual {position : Nat} :
    Resolves settings {.edit .sizeParameter} c id draft.forest
      (resolveResidual settings c id draft position).forest := by
  rw [resolveResidual]
  split
  · rename_i argument present
    split
    · rename_i unsized
      obtain ⟨parameter, isArray, rfl⟩ := exists_mem_arrays present unsized
      exact resolves_resolveBuffer (name_mem_keywords isArray) (by simpa [present] using unsized)
    · exact .skip
  · exact .skip

variable (settings)

theorem makes_resolveReturns :
    Pass.Makes settings {.detach, .edit .sizeReturn} (resolveReturns settings) :=
  fun _ sound => moves_tryForEachMethod (fun _ _ _ _ => resolves_resolveReturn.moves) sound

theorem makes_resolveFilledBuffers :
    Pass.Makes settings {.detach, .edit .promote} (resolveFilledBuffers settings) :=
  fun _ sound => moves_tryForEachMethod (fun _ _ _ _ => resolves_resolveFilled.moves) sound

theorem makes_resolveSetters :
    Pass.Makes settings {.detach, .edit .sizeParameter}
      (Pass.ofTotal (resolveSetters settings)) :=
  .ofTotal fun _ sound => moves_forEachMethod (fun _ _ _ _ => resolves_resolveSetter.moves) sound

theorem makes_resolveOverrides :
    Pass.Makes settings {.edit .sizeParameter} (Pass.ofTotal (resolveOverrides settings)) :=
  .ofTotal fun _ sound => moves_forEachMethod (fun _ _ _ _ => resolves_resolveOverride.moves) sound

theorem makes_pairParameters :
    Pass.Makes settings {.edit .pair} (Pass.ofTotal (pairParameters settings)) :=
  .ofTotal fun _ sound =>
    moves_forEachMethod (fun _ _ _ _ => moves_modifyFunction (by simp) (.pair _)) sound

theorem makes_resolveResiduals :
    Pass.Makes settings {.edit .sizeParameter} (Pass.ofTotal (resolveResiduals settings)) :=
  .ofTotal fun _ sound => moves_forEachMethod
    (fun _ _ _ sound => moves_foldl (fun _ _ _ _ => resolves_resolveResidual.moves) sound) sound

end Sizing

end Bindery
