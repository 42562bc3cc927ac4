import Bindery.Proofs.Pointing
import Bindery.Proofs.Retained

/-!
# By what accessors are found

A rule makes a type name an accessor only after it found that by a keyword of the function, in the
name of a method or of a static property.  None of these names changes while buffers are sized, and
no keyword is added, so what was found at any time goes by a keyword that the function had at the
start.  The search does not leave out the function that it is for.  So a function can come to size
itself, but only if its own name tells the size of one of its keywords.
-/

namespace Bindery.Sizing

variable {settings : Settings} {kind : EditKind} {kinds : Set MoveKind} {draft : Draft}
  {before middle after forest : Forest} {function changed : Function} {c : ClassId}
  {id accessor : FunctionId} {keyword : String}

/-! ## Names and keywords -/

/-- Whether a function tells the size of what a keyword names: as a method by its own name, or as
the getter of a static property by the name of that. -/
def Tells (settings : Settings) (forest : Forest) (keyword : String) (accessor : FunctionId) :
    Prop :=
  (∃ c ∈ forest.allClasses, accessor ∈ forest.methods c) ∧
      isSizeOf settings keyword (forest.functionAt accessor).name = true ∨
    ∃ c ∈ forest.allClasses, ∃ property ∈ (forest.classAt c).properties,
      property.isStatic = true ∧ property.getter = accessor ∧
        isSizeOf settings keyword property.name = true

instance : Decidable (Tells settings forest keyword accessor) :=
  inferInstanceAs (Decidable (_ ∨ _))

theorem tells_of_mem_methods (isMethod : accessor ∈ forest.methods c)
    (isSize : isSizeOf settings keyword (forest.functionAt accessor).name = true) :
    Tells settings forest keyword accessor :=
  .inl ⟨⟨c, Hierarchy.mem_all_iff.2 (Forest.lt_size_of_mem_methods isMethod), isMethod⟩, isSize⟩

/-- What a search finds goes by its keyword. -/
theorem tells_of_accessor?
    (found : accessor? settings forest keyword c forest.allClasses = some accessor) :
    Tells settings forest keyword accessor := by
  rcases Option.or_eq_some_iff.1 found with own | ⟨-, elsewhere⟩
  · rw [ownAccessor?] at own
    exact tells_of_mem_methods (List.mem_of_find?_eq_some own) (by simpa using List.find?_some own)
  · obtain ⟨place, isClass, found⟩ := List.exists_of_findSome?_eq_some elsewhere
    rcases Option.or_eq_some_iff.1 found with isMethod | ⟨-, isGetter⟩
    · have static := List.find?_some isMethod
      exact tells_of_mem_methods (List.mem_of_find?_eq_some isMethod)
        (Bool.and_eq_true_iff.1 static).2
    · obtain ⟨property, isProperty, rfl⟩ := Option.map_eq_some_iff.1 isGetter
      have static := List.find?_some isProperty
      obtain ⟨isStatic, isSize⟩ := Bool.and_eq_true_iff.1 static
      exact .inr ⟨place, isClass, property, List.mem_of_find?_eq_some isProperty, isStatic, rfl,
        isSize⟩

theorem returnKeyword_of_name (same : changed.name = function.name) (className : String) :
    returnKeyword settings className changed = returnKeyword settings className function := by
  rw [returnKeyword, returnKeyword, same]

theorem getterKeyword_of_name (same : changed.name = function.name) :
    getterKeyword settings changed = getterKeyword settings function := by
  rw [getterKeyword, getterKeyword, same]

theorem setterKeyword_of_name (same : changed.name = function.name) :
    setterKeyword settings changed = setterKeyword settings function := by
  rw [setterKeyword, setterKeyword, same]

/-! ## What the rules attach -/

/-- What sizing does to a function: its arrays are only used up, and its types come to name only
what goes by one of its keywords. -/
structure Learns (settings : Settings) (forest : Forest) (id : FunctionId)
    (function changed : Function) : Prop where
  name : changed.name = function.name
  arrays : changed.arrays.map (·.name) ⊆ function.arrays.map (·.name)
  sizers : ∀ accessor ∈ changed.sizers, accessor ∈ function.sizers ∨
    ∃ keyword ∈ keywords settings forest id, Tells settings forest keyword accessor

theorem Learns.refl (function : Function) : Learns settings forest id function function :=
  ⟨rfl, List.Subset.refl _, fun _ => .inl⟩

/-- What sizing does to a forest: methods only leave, and functions only learn. -/
structure Attaches (settings : Settings) (before after : Forest) : Prop where
  hierarchy : after.hierarchy = before.hierarchy
  methods : ∀ c, after.methods c ⊆ before.methods c
  properties : ∀ c, (after.classAt c).properties = (before.classAt c).properties
  functions : ∀ id, Learns settings before id (before.functionAt id) (after.functionAt id)

namespace Attaches

theorem refl (forest : Forest) : Attaches settings forest forest where
  hierarchy := rfl
  methods := fun _ => List.Subset.refl _
  properties := fun _ => rfl
  functions := fun _ => .refl _

/-- No function gets a keyword that it did not have. -/
theorem keywords_subset (attaches : Attaches settings before after) (id : FunctionId) :
    keywords settings after id ⊆ keywords settings before id := by
  intro keyword sought
  have sameName := (attaches.functions id).name
  simp only [keywords, List.mem_append, List.mem_map, List.mem_filter, decide_eq_true_eq,
    List.mem_cons, List.not_mem_nil, or_false] at sought
  rcases sought with ((⟨c, ⟨-, isMethod⟩, rfl⟩ | rfl | rfl) | override) | isArray
  · have sameClass : after.className c = before.className c := by
      rw [Forest.className, attaches.hierarchy]
      rfl
    rw [returnKeyword_of_name sameName, sameClass]
    exact returnKeyword_mem_keywords (attaches.methods c isMethod)
  · rw [getterKeyword_of_name sameName]
    exact getterKeyword_mem_keywords
  · rw [setterKeyword_of_name sameName]
    exact setterKeyword_mem_keywords
  · rw [sameName] at override
    exact mem_keywords_of_override (Option.mem_toList.1 override)
  · exact List.mem_append_right _ ((attaches.functions id).arrays (List.mem_map.2 isArray))

theorem tells (attaches : Attaches settings before after)
    (tells : Tells settings after keyword accessor) : Tells settings before keyword accessor := by
  rcases tells with ⟨⟨c, -, isMethod⟩, isSize⟩ | ⟨c, isClass, property, member, rest⟩
  · rw [(attaches.functions accessor).name] at isSize
    exact tells_of_mem_methods (attaches.methods c isMethod) isSize
  · rw [Forest.allClasses, attaches.hierarchy] at isClass
    rw [attaches.properties] at member
    exact .inr ⟨c, isClass, property, member, rest⟩

theorem trans (first : Attaches settings before middle) (second : Attaches settings middle after) :
    Attaches settings before after where
  hierarchy := second.hierarchy.trans first.hierarchy
  methods := fun c => List.Subset.trans (second.methods c) (first.methods c)
  properties := fun c => (second.properties c).trans (first.properties c)
  functions := by
    intro id
    have earlier := first.functions id
    have later := second.functions id
    refine ⟨later.name.trans earlier.name, List.Subset.trans later.arrays earlier.arrays, ?_⟩
    intro accessor named
    rcases later.sizers accessor named with named | ⟨keyword, sought, tells⟩
    · exact earlier.sizers accessor named
    · exact .inr ⟨keyword, first.keywords_subset id sought, first.tells tells⟩

theorem modifyFunction {change : Function → Function}
    (learns : Learns settings forest id (forest.functionAt id) (change (forest.functionAt id))) :
    Attaches settings forest (forest.modifyFunction id change) where
  hierarchy := rfl
  methods := fun _ => List.Subset.refl _
  properties := fun _ => rfl
  functions := by
    intro other
    by_cases same : other = id
    · subst same
      rcases forest.functionAt_modifyFunction_or other change with changed | ⟨absent, still⟩
      · rw [changed]
        exact learns
      · rw [still, absent]
        exact .refl _
    · rw [Forest.functionAt_modifyFunction_of_ne same]
      exact .refl _

theorem detach (forest : Forest) (c : ClassId) (accessor : FunctionId) :
    Attaches settings forest (forest.detach c accessor) := by
  have content (place : ClassId) : (forest.detach c accessor).classAt place = forest.classAt place ∨
      (forest.detach c accessor).classAt place = (forest.classAt place).removeMethod accessor := by
    rcases forest.classAt_modifyClass_or c (·.removeMethod accessor) place with
      same | ⟨rfl, removed⟩
    · exact .inl same
    · exact .inr removed
  refine ⟨rfl, fun place => ?_, fun place => ?_, fun _ => .refl _⟩
  · rcases content place with same | removed
    · rw [Forest.methods, same]
      exact List.Subset.refl _
    · rw [Forest.methods, removed]
      exact List.erase_subset
  · rcases content place with same | removed
    · rw [same]
    · rw [removed]
      rfl

end Attaches

/-! ## The rules -/

theorem learns_of_told (told : Told settings accessor kind function changed)
    (sought : keyword ∈ keywords settings forest id)
    (tells : Tells settings forest keyword accessor) :
    Learns settings forest id function changed := by
  refine ⟨told.retains.name, told.retains.names_arrays_subset, fun other member => ?_⟩
  rcases List.mem_cons.1 (told.sizers_subset member) with rfl | old
  · exact .inr ⟨keyword, sought, tells⟩
  · exact .inl old

theorem attaches_of_resolves (resolves : Resolves settings kinds c id before after) :
    Attaches settings before after := by
  cases resolves with
  | skip => exact .refl _
  | @tell kind keyword accessor taken change tells sought found takes told =>
      have learns : Attaches settings before (before.modifyFunction id change) :=
        .modifyFunction (learns_of_told told sought (tells_of_accessor? found))
      rcases takes with rfl | ⟨-, -, -, rfl⟩
      · exact learns
      · exact learns.trans (.detach _ c accessor)

theorem attaches_pairParameter (marker : String) :
    Attaches settings forest (forest.modifyFunction id fun function =>
      { function with params := pairLengths marker function.params }) := by
  have retains := retains_pairLengths settings (forest.functionAt id) marker
  refine .modifyFunction ⟨rfl, retains.names_arrays_subset, fun other named => ?_⟩
  rw [Function.sizers_pairLengths] at named
  exact .inl named

/-- All that the rules make types name goes by keywords, wherever they end. -/
theorem attaches_resolveBuffers (settings : Settings) (draft : Draft) :
    Attaches settings draft.forest (reached (resolveBuffers settings draft)).forest := by
  refine Pass.kept_run (fun pass member => ?_) (.refl _)
  simp only [passes, List.mem_cons, List.not_mem_nil, or_false] at member
  rcases member with rfl | rfl | rfl | rfl | rfl | rfl
  · exact fun _ => kept_tryForEachMethod fun _ _ _ attaches =>
      attaches.trans (attaches_of_resolves resolves_resolveReturn)
  · exact fun _ => kept_tryForEachMethod fun _ _ _ attaches =>
      attaches.trans (attaches_of_resolves resolves_resolveFilled)
  · exact fun _ => kept_forEachMethod fun _ _ _ attaches =>
      attaches.trans (attaches_of_resolves resolves_resolveSetter)
  · exact fun _ => kept_forEachMethod fun _ _ _ attaches =>
      attaches.trans (attaches_of_resolves resolves_resolveOverride)
  · exact fun _ => kept_forEachMethod fun _ _ _ attaches =>
      attaches.trans (attaches_pairParameter _)
  · exact fun _ => kept_forEachMethod fun _ _ _ attaches => kept_foldl (fun _ _ attaches =>
      attaches.trans (attaches_of_resolves resolves_resolveResidual)) attaches

/-- Where no type names an accessor at the start, a function comes to size itself only if it tells
the size of one of its own keywords. -/
theorem not_mem_sizers_resolveBuffers
    (unsized : ∀ function ∈ draft.forest.functions, function.sizers = [])
    (unlike : ∀ keyword ∈ keywords settings draft.forest id,
      ¬Tells settings draft.forest keyword id) :
    id ∉ ((reached (resolveBuffers settings draft)).forest.functionAt id).sizers := by
  have start : (draft.forest.functionAt id).sizers = [] := by
    rw [Forest.functionAt]
    cases isFunction : draft.forest.functions[id]? with
    | none => rfl
    | some function => exact unsized function (List.mem_of_getElem? isFunction)
  intro named
  rcases ((attaches_resolveBuffers settings draft).functions id).sizers id named with
    earlier | ⟨keyword, sought, tells⟩
  · rw [start] at earlier
    cases earlier
  · exact unlike keyword sought tells

/-- A getter that returns a buffer, and one for its size. -/
def measured (buffer size : String) : Draft :=
  let scalar (kind : Scalar) : ValueType := { ValueType.void with kind := .scalar kind }
  let toxClass := (Forest.empty.requireClass none "Tox").1
  let stored := [
    { name := buffer, cname := "", params := [],
      ret := { type := { scalar .byte with isArray := true } } },
    { name := size, cname := "", params := [], ret := { type := scalar .ulong } }].foldl
      Forest.addFunction toxClass
  { forest := stored.modifyClass 0 fun c => { c with methods := [0, 1] } }

theorem not_mem_sizers_measuredSamples :
    (∀ function ∈ (measured "get_samples" "get_samples_size").forest.functions,
      function.sizers = []) ∧
    (∀ keyword ∈ keywords Settings.default (measured "get_samples" "get_samples_size").forest 0,
      ¬Tells Settings.default (measured "get_samples" "get_samples_size").forest keyword 0) ∧
    0 ∉ ((reached (resolveBuffers Settings.default
      (measured "get_samples" "get_samples_size"))).forest.functionAt 0).sizers := by
  have unsized : ∀ function ∈ (measured "get_samples" "get_samples_size").forest.functions,
      function.sizers = [] := by decide +kernel
  have unlike : ∀ keyword ∈ keywords Settings.default
      (measured "get_samples" "get_samples_size").forest 0,
      ¬Tells Settings.default (measured "get_samples" "get_samples_size").forest keyword 0 := by
    decide +kernel
  exact ⟨unsized, unlike, not_mem_sizers_resolveBuffers unsized unlike⟩

/-- A getter whose buffer happens to be named like a size is found before the getter of its size. -/
theorem mem_sizers_measuredSampleSize :
    (∀ function ∈ (measured "get_sample_size" "get_sample_size_length").forest.functions,
      function.sizers = []) ∧
    (resolveBuffers Settings.default
      (measured "get_sample_size" "get_sample_size_length")).toOption.map (fun final =>
        ((final.forest.functionAt 0).ret.type.sizeAccessor, final.forest.methods 0,
          final.forest.detached)) = some (some (.getter 0), [1], [(0, 0)]) := by
  decide +kernel

end Bindery.Sizing
