import Bindery.Proofs.Stopping

/-!
# Keywords inside words

A keyword is either derived from the name of a function or of a parameter, or it stands in a table
of the settings.  A search asks for a name that contains the keyword anywhere.  So a derived keyword
can be found inside a word, and an empty one, which a parameter without a name has, is found in
every name.
-/

namespace Bindery.Sizing

variable {settings : Settings} {draft final searched : Draft}
  {start before after taken forest : Forest}
  {function changed : Function} {kind : EditKind} {c : ClassId} {id accessor : FunctionId}
  {keyword name : String} {configured : Bool} {position : Nat}

/-- Whether a keyword is not empty, and stands in a name between underscores or the ends of the
name. -/
def OccursAsWords (keyword name : String) : Prop :=
  keyword ≠ "" ∧ ∃ front back, name = front ++ keyword ++ back ∧
    (front = "" ∨ Text.endsWith front "_" = true) ∧ (back = "" ∨ Text.startsWith back "_" = true)

theorem occursAsWords_iff : OccursAsWords keyword name ↔ keyword ≠ "" ∧
    ∃ place ∈ List.range (name.toList.length + 1), keyword.toList <+: name.toList.drop place ∧
      (name.toList.take place = [] ∨ "_".toList <:+ name.toList.take place) ∧
      (name.toList.drop (place + keyword.toList.length) = [] ∨
        "_".toList <+: name.toList.drop (place + keyword.toList.length)) := by
  refine and_congr_right fun _ => ⟨?_, ?_⟩
  · rintro ⟨front, back, rfl, atFront, atBack⟩
    have spelled : (front ++ keyword ++ back).toList =
        front.toList ++ (keyword.toList ++ back.toList) := by simp
    have dropped : (front.toList ++ (keyword.toList ++ back.toList)).drop
        (front.toList.length + keyword.toList.length) = back.toList := by
      rw [← List.append_assoc, ← List.length_append, List.drop_left]
    have within : front.toList.length < (front ++ keyword ++ back).toList.length + 1 := by
      rw [spelled, List.length_append]
      omega
    refine ⟨front.toList.length, List.mem_range.2 within, ?_⟩
    rw [spelled, List.drop_left, List.take_left, dropped, ← Text.endsWith_iff,
      ← Text.startsWith_iff]
    refine ⟨List.prefix_append _ _, ?_, ?_⟩
    · simpa using atFront
    · simpa using atBack
  · rintro ⟨place, -, ⟨back, rest⟩, atFront, atBack⟩
    have dropped : name.toList.drop (place + keyword.toList.length) = back := by
      rw [← List.drop_drop, ← rest, List.drop_left]
    rw [dropped] at atBack
    refine ⟨String.ofList (name.toList.take place), String.ofList back, ?_, ?_, ?_⟩
    · apply String.toList_inj.1
      simp [rest]
    · rw [Text.endsWith_iff]
      simpa using atFront
    · rw [Text.startsWith_iff]
      simpa using atBack

instance : Decidable (OccursAsWords keyword name) :=
  decidable_of_iff _ occursAsWords_iff.symm

/-- Whether a keyword replaces the derived one. -/
def Keyword.isOverridden (keyword : Keyword) : Bool :=
  1 < keyword.tried.length

/-- By which keywords the buffers of a method of a class may be sized, each with the information
whether it is configured or derived from a name. -/
inductive Seeks (settings : Settings) (forest : Forest) (c : ClassId) (id : FunctionId) :
    Bool → String → Prop
  | returned (needed : needsReturnAccessor settings (forest.functionAt id) = true) :
      Seeks settings forest c id
        (returnKeyword settings (forest.className c) (forest.functionAt id)).isOverridden
        (returnKeyword settings (forest.className c) (forest.functionAt id)).search
  | filled (applies : (filledBuffer? settings (forest.functionAt id)).isSome = true) :
      Seeks settings forest c id (getterKeyword settings (forest.functionAt id)).isOverridden
        (getterKeyword settings (forest.functionAt id)).search
  | set (applies : comesToSet settings (forest.functionAt id) = true) :
      Seeks settings forest c id
        (settings.keywords.setters.get?
          (Text.afterFirst (forest.functionAt id).name settings.markers.setter)).isSome
        (setterKeyword settings (forest.functionAt id))
  | parameter {keyword : String} (unsized : unsizedBuffers (forest.functionAt id) ≠ [])
      (listed : settings.keywords.parameters.get? (forest.functionAt id).name = some keyword) :
      Seeks settings forest c id true keyword
  | residual {name : String}
      (unsized : name ∈ (unsizedBuffers (forest.functionAt id)).map (·.name)) :
      Seeks settings forest c id false name

/-- Whether an accessor is in sight of a class of the function and goes by a keyword of it. -/
def Matched (settings : Settings) (forest : Forest) (id accessor : FunctionId) : Prop :=
  ∃ c, id ∈ forest.methods c ∧ ∃ configured keyword name,
    Seeks settings forest c id configured keyword ∧ InSight forest c name accessor ∧
      isSizeOf settings keyword name = true

/-- Whether no name in sight of a function has one of its derived keywords inside a word. -/
def WholeWords (settings : Settings) (forest : Forest) (id : FunctionId) : Prop :=
  ∀ c, id ∈ forest.methods c → ∀ keyword, Seeks settings forest c id false keyword →
    ∀ name accessor, InSight forest c name accessor → isSizeOf settings keyword name = true →
    OccursAsWords keyword name

/-! ## What the rules attach -/

/-- What sizing leaves of a function: no new reason to search, and no accessor that is not matched.
-/
structure Knows (settings : Settings) (start : Forest) (id : FunctionId) (function : Function) :
    Prop where
  retains : Retains settings (start.functionAt id) function
  sizers : ∀ accessor ∈ function.sizers,
    accessor ∈ (start.functionAt id).sizers ∨ Matched settings start id accessor

theorem Knows.refl (start : Forest) (id : FunctionId) :
    Knows settings start id (start.functionAt id) :=
  ⟨.refl _, fun _ => .inl⟩

/-- What sizing leaves of a forest. -/
structure Informed (settings : Settings) (start forest : Forest) : Prop where
  takes : Takes (fun name => isAccessorName settings name = true) start forest
  knows : ∀ id, Knows settings start id (forest.functionAt id)

namespace Informed

theorem refl (forest : Forest) : Informed settings forest forest :=
  ⟨.refl _, .refl forest⟩

/-- The keywords of a function were there at the start. -/
theorem seeks (informed : Informed settings start forest)
    (seeks : Seeks settings forest c id configured keyword) :
    Seeks settings start c id configured keyword := by
  have retains := (informed.knows id).retains
  have className : forest.className c = start.className c := by
    rw [Forest.className, informed.takes.hierarchy]
    rfl
  cases seeks with
  | returned needed =>
      rw [returnKeyword_of_name retains.name, className]
      exact .returned (retains.needed needed)
  | filled applies =>
      rw [getterKeyword_of_name retains.name]
      exact .filled (retains.filled applies)
  | set applies =>
      rw [setterKeyword_of_name retains.name, retains.name]
      exact .set (retains.comesToSet applies)
  | parameter unsized listed =>
      rw [retains.name] at listed
      exact .parameter (retains.unsizedBuffers_ne_nil unsized) listed
  | residual unsized => exact .residual (retains.names_unsizedBuffers_subset unsized)

/-- Nothing changes but the function, and what that comes to name is matched. -/
theorem modifyFunction {change : Function → Function} (informed : Informed settings start forest)
    (retains : Retains settings (forest.functionAt id) (change (forest.functionAt id)))
    (sizers : ∀ named ∈ (change (forest.functionAt id)).sizers,
      named ∈ (forest.functionAt id).sizers ∨ Matched settings start id named) :
    Informed settings start (forest.modifyFunction id change) where
  takes := informed.takes.trans (.modifyFunction retains.name retains.isStatic)
  knows := by
    intro other
    by_cases isThis : other = id
    · subst isThis
      have knows := informed.knows other
      rcases forest.functionAt_modifyFunction_or other change with changed | ⟨absent, still⟩
      · rw [changed]
        refine ⟨knows.retains.trans retains, fun named member => ?_⟩
        rcases sizers named member with old | isMatched
        · exact knows.sizers named old
        · exact .inr isMatched
      · rw [still, ← absent]
        exact knows
    · rw [Forest.functionAt_modifyFunction_of_ne isThis]
      exact informed.knows other

/-- A function is told of what was found for it. -/
theorem tell {change : Function → Function} (informed : Informed settings start forest)
    (isMethod : id ∈ start.methods c) (seeks : Seeks settings forest c id configured keyword)
    (found : accessor? settings forest keyword c forest.allClasses = some accessor)
    (takes : Takes (fun name => isAccessorName settings name = true) forest taken)
    (same : ∀ other, taken.functionAt other = forest.functionAt other)
    (told : Told settings accessor kind (forest.functionAt id) (change (forest.functionAt id))) :
    Informed settings start (taken.modifyFunction id change) := by
  obtain ⟨name, inSight, isSize⟩ := inSight_of_accessor? found
  have isMatched : Matched settings start id accessor :=
    ⟨c, isMethod, configured, keyword, name, informed.seeks seeks,
      informed.takes.inSight inSight, isSize⟩
  have later : Informed settings start taken :=
    ⟨informed.takes.trans takes, fun other => same other ▸ informed.knows other⟩
  rw [← same id] at told
  refine later.modifyFunction told.retains fun named member => ?_
  rcases List.mem_cons.1 (told.sizers_subset member) with rfl | old
  · exact .inr isMatched
  · exact .inl old

/-- The case of a rule that takes the accessor off its class. -/
theorem detach {change : Function → Function} {marker : String}
    (informed : Informed settings start draft.forest) (isMethod : id ∈ start.methods c)
    (seeks : Seeks settings draft.forest c id configured keyword)
    (found : accessor? settings draft.forest keyword c draft.forest.allClasses = some accessor)
    (isMarker : ∀ name, Text.contains name marker = true → isAccessorName settings name = true)
    (told : Told settings accessor kind (draft.forest.functionAt id)
      (change (draft.forest.functionAt id))) :
    Informed settings start
      ((detach draft c accessor marker).forest.modifyFunction id change) :=
  informed.tell isMethod seeks found ((Takes.detach draft c accessor marker).mono isMarker)
    (fun _ => functionAt_detach) told

end Informed

/-! ## The rules one by one -/

theorem isAccessorName_of_getter (name : String)
    (marked : Text.contains name settings.markers.getter = true) :
    isAccessorName settings name = true :=
  Bool.or_eq_true_iff.2 (.inl marked)

theorem isAccessorName_of_setter (name : String)
    (marked : Text.contains name settings.markers.setter = true) :
    isAccessorName settings name = true :=
  Bool.or_eq_true_iff.2 (.inr marked)

namespace Informed

variable (informed : Informed settings start draft.forest) (isMethod : id ∈ start.methods c)

include informed isMethod

theorem resolveReturn :
    Informed settings start (reached (resolveReturn settings c id draft)).forest := by
  have serves := serves_resolveReturn settings c id draft
  generalize Sizing.resolveReturn settings c id draft = result at serves
  cases serves with
  | skip => exact informed
  | fail _ _ _ same =>
      rw [reached, same]
      exact informed
  | serve _ needed found changes =>
      rw [reached, changes]
      exact informed.detach isMethod (.returned needed) found isAccessorName_of_getter
        (.sizeReturn needed)

theorem resolveFilled :
    Informed settings start (reached (resolveFilled settings c id draft)).forest := by
  have serves := serves_resolveFilled settings c id draft
  generalize Sizing.resolveFilled settings c id draft = result at serves
  cases serves with
  | skip => exact informed
  | fail _ _ _ same =>
      rw [reached, same]
      exact informed
  | @serve accessor _ _ applies found changes =>
      obtain ⟨position, filled⟩ := Option.isSome_iff_exists.1 applies
      have told : Told settings accessor .promote (draft.forest.functionAt id)
          ((Rule.fills settings).serve accessor (draft.forest.functionAt id)) := by
        rw [Rule.serve_fills filled]
        exact .promote filled
      rw [reached, changes]
      exact informed.detach isMethod (.filled applies) found isAccessorName_of_getter told

theorem resolveSetter :
    Informed settings start (resolveSetter settings c id draft).forest := by
  rw [Sizing.resolveSetter]
  dsimp only
  split
  · exact informed
  · rename_i position isSet
    have unsized := setBuffer?_eq_some isSet
    have comes : comesToSet settings (draft.forest.functionAt id) = true := by
      rw [comesToSet, isSet]
      rfl
    split
    · exact informed
    · split
      · rename_i found
        rw [Draft.forest_note, forest_of_search found]
        exact informed
      · rename_i searched accessor found
        have same := forest_of_search found
        rw [← same] at informed unsized comes
        have isFound : accessor? settings searched.forest (setterKeyword settings
            (searched.forest.functionAt id)) c searched.forest.allClasses = some accessor := by
          rw [same]
          exact congrArg Prod.snd found
        exact informed.detach isMethod (.set comes) isFound isAccessorName_of_setter
          (.sizeParameter (.setter accessor) rfl (any_isUnsizedBuffer unsized))

theorem resolveBuffer (seeks : Seeks settings draft.forest c id configured keyword)
    (unsized : (draft.forest.functionAt id).params[position]?.any (·.isUnsizedBuffer) = true) :
    Informed settings start (resolveBuffer settings c id position keyword draft).forest := by
  rw [Sizing.resolveBuffer]
  split
  · rename_i found
    rw [forest_of_search found]
    exact informed
  · rename_i accessor found
    rw [attach, Draft.forest_modifyFunction, forest_of_search found]
    exact informed.tell isMethod seeks (congrArg Prod.snd found) (.refl _) (fun _ => rfl)
      (.sizeParameter (.getter accessor) rfl unsized)

theorem resolveOverride :
    Informed settings start (resolveOverride settings c id draft).forest := by
  unfold Sizing.resolveOverride
  dsimp only
  split
  · rename_i listed found
    have unsized : unsizedBuffers (draft.forest.functionAt id) ≠ [] := by
      rw [← isSome_findIdx?_isUnsizedBuffer_iff, found]
      rfl
    exact informed.resolveBuffer isMethod (.parameter unsized listed) (any_isUnsizedBuffer found)
  · exact informed

theorem resolveResidual :
    Informed settings start (resolveResidual settings c id draft position).forest := by
  rw [Sizing.resolveResidual]
  split
  · rename_i argument present
    split
    · rename_i isUnsized
      have unsized : argument ∈ unsizedBuffers (draft.forest.functionAt id) :=
        List.mem_filter.2 ⟨List.mem_of_getElem? present, isUnsized⟩
      exact informed.resolveBuffer isMethod (.residual (List.mem_map_of_mem unsized))
        (by simpa [present] using isUnsized)
    · exact informed
  · exact informed

omit isMethod in
theorem pairParameter (marker : String) :
    Informed settings start (draft.modifyFunction id fun function =>
      { function with params := pairLengths marker function.params }).forest := by
  refine informed.modifyFunction (retains_pairLengths ..) fun named member => .inl ?_
  rwa [Function.sizers_pairLengths] at member

end Informed

/-! ## All rules -/

/-- The methods that a loop comes to were methods at the start. -/
theorem informed_tryForEachMethod {step : ClassId → FunctionId → Draft → Except Stopped Draft}
    (each : ∀ {draft : Draft} {c : ClassId} {id : FunctionId},
      Informed settings start draft.forest → id ∈ start.methods c →
      Informed settings start (reached (step c id draft)).forest)
    (informed : Informed settings start draft.forest) :
    Informed settings start (reached (draft.tryForEachMethod step)).forest := by
  refine kept_foldlM (fun draft c informed => ?_) informed
  have areMethods := (informed.takes.methods c).subset
  generalize draft.forest.methods c = ids at areMethods
  induction ids generalizing draft with
  | nil => exact informed
  | cons id rest ih =>
      obtain ⟨isMethod, areMethods⟩ := List.cons_subset.1 areMethods
      rw [List.foldlM_cons]
      exact reached_bind (each informed isMethod) fun next informed => ih next informed areMethods

theorem informed_forEachMethod {step : ClassId → FunctionId → Draft → Draft}
    (each : ∀ {draft : Draft} {c : ClassId} {id : FunctionId},
      Informed settings start draft.forest → id ∈ start.methods c →
      Informed settings start (step c id draft).forest)
    (informed : Informed settings start draft.forest) :
    Informed settings start (draft.forEachMethod step).forest := by
  have same := congrArg reached (tryForEachMethod_ok step draft)
  rw [show (draft.forEachMethod step) = reached (.ok (draft.forEachMethod step)) from rfl, ← same]
  exact informed_tryForEachMethod each informed

/-- Whatever the rules attach, wherever they end, is matched. -/
theorem informed_resolveBuffers (settings : Settings) (draft : Draft) :
    Informed settings draft.forest (reached (resolveBuffers settings draft)).forest := by
  refine Pass.kept_run (fun pass member => ?_) (.refl _)
  simp only [passes, List.mem_cons, List.not_mem_nil, or_false] at member
  rcases member with rfl | rfl | rfl | rfl | rfl | rfl
  · exact fun _ => informed_tryForEachMethod fun informed => informed.resolveReturn
  · exact fun _ => informed_tryForEachMethod fun informed => informed.resolveFilled
  · exact fun _ => informed_forEachMethod fun informed => informed.resolveSetter
  · exact fun _ => informed_forEachMethod fun informed => informed.resolveOverride
  · exact fun _ => informed_forEachMethod fun informed _ => informed.pairParameter _
  · exact fun _ => informed_forEachMethod fun informed isMethod =>
      kept_foldl (fun _ _ informed => informed.resolveResidual isMethod) informed

/-! ## What is left without an accessor -/

/-- Whether the buffers of unknown size among some parameters are among others too, at the same
places. -/
structure Lessens (before after : List Argument) : Prop where
  length : after.length = before.length
  unsized : ∀ (position : Nat) (argument : Argument), after[position]? = some argument →
    argument.isUnsizedBuffer = true → before[position]? = some argument

theorem Lessens.refl (params : List Argument) : Lessens params params :=
  ⟨rfl, fun _ _ present _ => present⟩

theorem Lessens.trans {before middle after : List Argument} (first : Lessens before middle)
    (second : Lessens middle after) : Lessens before after where
  length := second.length.trans first.length
  unsized := fun position argument present isUnsized =>
    first.unsized position argument (second.unsized position argument present isUnsized) isUnsized

/-- The argument with the function that tells its size. -/
def sizedBy (sizer : SizeAccessor) (argument : Argument) : Argument :=
  argument.mapPlain fun parameter =>
    { parameter with type := { parameter.type with sizeAccessor := some sizer } }

theorem isUnsizedBuffer_sizedBy (sizer : SizeAccessor) (argument : Argument) :
    (sizedBy sizer argument).isUnsizedBuffer = false := by
  cases argument <;> simp [sizedBy, Argument.mapPlain, Argument.isUnsizedBuffer, Argument.plain?]

theorem isUnsizedBuffer_modify (params : List Argument) (sizer : SizeAccessor) (argument : Argument)
    (present : (params.modify position (sizedBy sizer))[position]? = some argument) :
    argument.isUnsizedBuffer = false := by
  rw [List.getElem?_modify_eq] at present
  obtain ⟨original, -, rfl⟩ := Option.map_eq_some_iff.1 present
  exact isUnsizedBuffer_sizedBy sizer original

theorem lessens_modify (params : List Argument) (position : Nat) (sizer : SizeAccessor) :
    Lessens params (params.modify position (sizedBy sizer)) := by
  refine ⟨List.length_modify .., fun place argument present isUnsized => ?_⟩
  by_cases isThis : position = place
  · subst isThis
    simp [isUnsizedBuffer_modify params sizer argument present] at isUnsized
  · rwa [List.getElem?_modify_ne _ _ isThis] at present

/-- What sizing parameters does to a forest: nothing comes into sight, and the buffers of unknown
size only get fewer. -/
structure Reduces (before after : Forest) : Prop where
  takes : Takes (fun _ => False) before after
  params : ∀ id, Lessens (before.functionAt id).params (after.functionAt id).params

theorem Reduces.refl (forest : Forest) : Reduces forest forest :=
  ⟨.refl _, fun _ => .refl _⟩

theorem Reduces.trans (first : Reduces before taken) (second : Reduces taken after) :
    Reduces before after :=
  ⟨first.takes.trans second.takes, fun id => (first.params id).trans (second.params id)⟩

/-- Whether the argument at a position is no buffer of unknown size, or nothing in sight of a class
goes by its name. -/
def IsLeft (settings : Settings) (c : ClassId) (id : FunctionId) (forest : Forest)
    (position : Nat) : Prop :=
  ∀ argument, (forest.functionAt id).params[position]? = some argument →
    argument.isUnsizedBuffer = true → Unsized settings forest argument.name c

theorem Reduces.isLeft (reduces : Reduces before after)
    (left : IsLeft settings c id before position) : IsLeft settings c id after position := by
  intro argument present isUnsized
  have unsized := left argument ((reduces.params id).unsized position argument present isUnsized)
    isUnsized
  exact unsized_iff.2 fun name accessor inSight =>
    unsized_iff.1 unsized name accessor (reduces.takes.inSight inSight)

theorem reduces_attach (forest : Forest) (id : FunctionId) (position : Nat) (sizer : SizeAccessor) :
    Reduces forest (forest.modifyFunction id (·.mapParameter position fun parameter =>
        { parameter with type := { parameter.type with sizeAccessor := some sizer } })) ∧
      IsLeft settings c id (forest.modifyFunction id (·.mapParameter position fun parameter =>
        { parameter with type := { parameter.type with sizeAccessor := some sizer } }))
        position := by
  have params (other : FunctionId) (isThis : other = id) :
      ((forest.modifyFunction id (·.mapParameter position fun parameter =>
        { parameter with
          type := { parameter.type with sizeAccessor := some sizer } })).functionAt other).params =
        (forest.functionAt other).params.modify position (sizedBy sizer) := by
    subst isThis
    rcases forest.functionAt_modifyFunction_or other _ with changed | ⟨absent, still⟩
    · rw [changed]
      rfl
    · rw [still, absent]
      exact (List.modify_nil ..).symm
  refine ⟨⟨.modifyFunction rfl rfl, fun other => ?_⟩, fun argument present isUnsized => ?_⟩
  · by_cases isThis : other = id
    · rw [params other isThis]
      exact lessens_modify _ position sizer
    · rw [Forest.functionAt_modifyFunction_of_ne isThis]
      exact .refl _
  · rw [params id rfl] at present
    simp [isUnsizedBuffer_modify _ sizer argument present] at isUnsized

/-- A turn of one parameter. -/
theorem reduces_resolveResidual :
    Reduces draft.forest (resolveResidual settings c id draft position).forest ∧
      IsLeft settings c id (resolveResidual settings c id draft position).forest position := by
  rw [resolveResidual]
  split
  · rename_i argument present
    split
    · rw [resolveBuffer]
      split
      · rename_i searched found
        have same := forest_of_search found
        rw [same]
        refine ⟨.refl _, fun other isOther _ => ?_⟩
        obtain rfl := Option.some.inj (present.symm.trans isOther)
        exact unsized_of_accessor? (congrArg Prod.snd found)
      · rename_i searched accessor found
        rw [attach, Draft.forest_modifyFunction, forest_of_search found]
        exact reduces_attach _ _ _ (.getter accessor)
    · rename_i sized
      refine ⟨.refl _, fun other isOther isUnsized => ?_⟩
      obtain rfl := Option.some.inj (present.symm.trans isOther)
      exact absurd isUnsized sized
  · rename_i absent
    refine ⟨.refl _, fun other isOther _ => ?_⟩
    simp [absent] at isOther

/-- What each turn of a loop leaves for its item is left in the end. -/
theorem reduces_foldl {α : Type} {visit : Draft → α → Draft} (Left : α → Forest → Prop)
    (keeps : ∀ {before after : Forest} {item : α}, Reduces before after → Left item before →
      Left item after)
    (each : ∀ (draft : Draft) (item : α), Reduces draft.forest (visit draft item).forest ∧
      Left item (visit draft item).forest)
    (items : List α) (draft : Draft) :
    Reduces draft.forest (items.foldl visit draft).forest ∧
      ∀ item ∈ items, Left item (items.foldl visit draft).forest := by
  induction items generalizing draft with
  | nil => exact ⟨.refl _, fun _ member => nomatch member⟩
  | cons first rest ih =>
      obtain ⟨reduces, left⟩ := each draft first
      obtain ⟨later, leftLater⟩ := ih (visit draft first)
      refine ⟨reduces.trans later, fun item member => ?_⟩
      rcases List.mem_cons.1 member with rfl | isLater
      · exact keeps later left
      · exact leftLater item isLater

/-- The turn of a method. -/
theorem reduces_residuals (c : ClassId) (id : FunctionId) (draft : Draft) :
    Reduces draft.forest ((List.range (draft.forest.functionAt id).params.length).foldl
        (resolveResidual settings c id) draft).forest ∧
      ∀ position, IsLeft settings c id
        ((List.range (draft.forest.functionAt id).params.length).foldl
          (resolveResidual settings c id) draft).forest position := by
  obtain ⟨reduces, left⟩ := reduces_foldl
    (fun position forest => IsLeft settings c id forest position)
    (fun reduces left => reduces.isLeft left) (fun draft position => reduces_resolveResidual)
    (List.range (draft.forest.functionAt id).params.length) draft
  refine ⟨reduces, fun position argument present isUnsized => ?_⟩
  have within : position < (draft.forest.functionAt id).params.length := by
    rw [← (reduces.params id).length]
    exact (List.getElem?_eq_some_iff.1 present).1
  exact left position (List.mem_range.2 within) argument present isUnsized

/-- What still is a buffer of unknown size in the end is one for which nothing in sight goes by its
name. -/
theorem isLeft_resolveResiduals (draft : Draft) {c : ClassId} {id : FunctionId}
    (isMethod : id ∈ (resolveResiduals settings draft).forest.methods c) (position : Nat) :
    IsLeft settings c id (resolveResiduals settings draft).forest position := by
  have inClass (draft : Draft) (c : ClassId) := reduces_foldl
    (fun id forest => ∀ position, IsLeft settings c id forest position)
    (fun reduces left position => reduces.isLeft (left position))
    (fun draft id => reduces_residuals c id draft) (draft.forest.methods c) draft
  obtain ⟨reduces, left⟩ := reduces_foldl
    (fun c forest => ∀ id ∈ forest.methods c, ∀ position, IsLeft settings c id forest position)
    (fun reduces left id isMethod position =>
      reduces.isLeft (left id ((reduces.takes.methods _).subset isMethod) position))
    (fun draft c => ⟨(inClass draft c).1, fun id isMethod position =>
      (inClass draft c).2 id (((inClass draft c).1.takes.methods c).subset isMethod) position⟩)
    draft.forest.allClasses draft
  have isClass : c ∈ draft.forest.allClasses :=
    Hierarchy.mem_all_iff.2
      (Forest.lt_size_of_mem_methods ((reduces.takes.methods c).subset isMethod))
  exact left c isClass id isMethod position

/-- Every accessor that sizing makes a type of a method name is in sight and found by a keyword of
the method.  If no name in sight has a derived keyword of the method inside a word, a derived
keyword by which one is found stands there as words.  And where the rules come to an end, a buffer
is left without an accessor only if nothing in sight goes by its name, so one without a name only if
nothing in sight is named like a size. -/
theorem resolveBuffers_words (settings : Settings) (draft : Draft) :
    (∀ id, WholeWords settings draft.forest id →
      ∀ accessor ∈ ((reached (resolveBuffers settings draft)).forest.functionAt id).sizers,
        accessor ∈ (draft.forest.functionAt id).sizers ∨
        ∃ c, id ∈ draft.forest.methods c ∧ ∃ configured keyword name,
          Seeks settings draft.forest c id configured keyword ∧
          InSight draft.forest c name accessor ∧ isSizeOf settings keyword name = true ∧
          (configured = false → OccursAsWords keyword name)) ∧
    ∀ final, resolveBuffers settings draft = .ok final → ∀ c, ∀ id ∈ final.forest.methods c,
      ∀ argument ∈ (final.forest.functionAt id).params, argument.isUnsizedBuffer = true →
      ∀ name accessor, InSight final.forest c name accessor →
        isSizeOf settings argument.name name = false := by
  constructor
  · intro id words accessor named
    rcases ((informed_resolveBuffers settings draft).knows id).sizers accessor named with
      old | isMatched
    · exact .inl old
    · obtain ⟨c, isMethod, configured, keyword, name, seeks, inSight, isSize⟩ := isMatched
      refine .inr ⟨c, isMethod, configured, keyword, name, seeks, inSight, isSize,
        fun derived => ?_⟩
      subst derived
      exact words c isMethod keyword seeks name accessor inSight isSize
  · intro final finished c id isMethod argument member isUnsized
    rw [resolveBuffers_eq] at finished
    obtain ⟨answered, -, finished⟩ := exists_ok_of_bind finished
    obtain ⟨drained, -, finished⟩ := exists_ok_of_bind finished
    obtain rfl := Except.ok.inj finished
    obtain ⟨position, present⟩ := List.mem_iff_getElem?.1 member
    exact unsized_iff.1 (isLeft_resolveResiduals _ isMethod position argument present isUnsized)

/-- A class with a method that takes some arrays, and with one that tells a size. -/
def takesBuffers (arrays : List String) (size : String) : Draft :=
  let scalar (kind : Scalar) : ValueType := { ValueType.void with kind := .scalar kind }
  let array (name : String) : Argument :=
    .plain { name, type := { scalar .byte with isArray := true } }
  let toxClass := (Forest.empty.requireClass none "Tox").1
  let stored := [
    { name := "add", cname := "tox_add", params := arrays.map array
      ret := { type := scalar .uint } },
    { name := size, cname := "", params := [], ret := { type := scalar .ulong } }]
  { forest := { toxClass with functions := stored }.modifyClass 0 fun c =>
      { c with methods := [0, 1] } }

theorem wholeWords_takesBuffers :
    WholeWords Settings.default (takesBuffers ["video"] "video_size").forest 0 := by
  intro c _ keyword seeks name accessor inSight isSize
  have video : ∀ name ∈ (takesBuffers ["video"] "video_size").forest.names,
      isSizeOf Settings.default "video" name = true → OccursAsWords "video" name := by
    decide +kernel
  generalize isDerived : false = configured at seeks
  cases seeks with
  | returned needed => exact absurd needed (by decide +kernel)
  | filled applies => exact absurd applies (by decide +kernel)
  | set applies => exact absurd applies (by decide +kernel)
  | parameter => cases isDerived
  | residual isUnsized =>
      have unsized : (unsizedBuffers
          ((takesBuffers ["video"] "video_size").forest.functionAt 0)).map (·.name) =
            ["video"] := by
        decide +kernel
      rw [unsized, List.mem_singleton] at isUnsized
      subst isUnsized
      exact video name inSight.mem_names isSize

/-- What goes by the name of an array is its size. -/
theorem words_takesBuffers :
    WholeWords Settings.default (takesBuffers ["video"] "video_size").forest 0 ∧
    1 ∈ ((reached (resolveBuffers Settings.default
      (takesBuffers ["video"] "video_size"))).forest.functionAt 0).sizers ∧
    ∃ c, 0 ∈ (takesBuffers ["video"] "video_size").forest.methods c ∧ ∃ configured keyword name,
      Seeks Settings.default (takesBuffers ["video"] "video_size").forest c 0 configured keyword ∧
      InSight (takesBuffers ["video"] "video_size").forest c name 1 ∧
      isSizeOf Settings.default keyword name = true ∧
      (configured = false → OccursAsWords keyword name) := by
  have named : 1 ∈ ((reached (resolveBuffers Settings.default
      (takesBuffers ["video"] "video_size"))).forest.functionAt 0).sizers := by decide +kernel
  have unsized : 1 ∉ ((takesBuffers ["video"] "video_size").forest.functionAt 0).sizers := by
    decide +kernel
  refine ⟨wholeWords_takesBuffers, named, ?_⟩
  exact ((resolveBuffers_words Settings.default (takesBuffers ["video"] "video_size")).1 0
    wholeWords_takesBuffers 1 named).resolve_left unsized

/-- The size of a video is taken for that of an identifier, and of an array without a name: the
keywords are derived, and neither stands in the name as a word. -/
theorem inside_takesBuffers :
    (resolveBuffers Settings.default (takesBuffers ["id", ""] "video_size")).toOption.map
      (fun final => (final.forest.functionAt 0).arrays.map fun array =>
        (array.name, array.type.sizeAccessor)) =
      some [("id", some (.getter 1)), ("", some (.getter 1))] ∧
    Seeks Settings.default (takesBuffers ["id", ""] "video_size").forest 0 0 false "id" ∧
    Seeks Settings.default (takesBuffers ["id", ""] "video_size").forest 0 0 false "" ∧
    ¬OccursAsWords "id" "video_size" ∧ ¬OccursAsWords "" "video_size" :=
  ⟨by decide +kernel, .residual (by decide +kernel), .residual (by decide +kernel),
    by decide +kernel, by decide +kernel⟩

end Bindery.Sizing
