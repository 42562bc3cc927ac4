import Bindery.Proofs.Arrivals

/-!
# What becomes of a type

A type may come to name the class of a number handle, and it may learn which function tells its
size.  Nothing else about it ever changes: neither its C spelling nor whether it is a buffer.
-/

namespace Bindery

namespace ValueType

/-- Whether a type is an earlier one but for the class of a number handle and a size accessor. -/
structure Stems (original current : ValueType) : Prop where
  mutable : current.mutable = original.mutable
  isArray : current.isArray = original.isArray
  ctype : current.ctype = original.ctype
  actsAsString : current.actsAsString = original.actsAsString
  kind : current.kind = original.kind ∨
    current.containsNumberHandle = true ∧ ∃ className, current.kind = .reference className
  handle : original.containsNumberHandle = true → current.containsNumberHandle = true

namespace Stems

variable {original middle current : ValueType}

theorem refl (type : ValueType) : type.Stems type :=
  ⟨rfl, rfl, rfl, rfl, .inl rfl, fun handle => handle⟩

theorem trans (first : original.Stems middle) (second : middle.Stems current) :
    original.Stems current where
  mutable := second.mutable.trans first.mutable
  isArray := second.isArray.trans first.isArray
  ctype := second.ctype.trans first.ctype
  actsAsString := second.actsAsString.trans first.actsAsString
  kind := by
    rcases second.kind with same | retyped
    · rw [same]
      rcases first.kind with old | ⟨handle, retyped⟩
      · exact .inl old
      · exact .inr ⟨second.handle handle, retyped⟩
    · exact .inr retyped
  handle := fun handle => second.handle (first.handle handle)

theorem asNumberHandle (type : ValueType) (className : String) :
    type.Stems (type.asNumberHandle className) :=
  ⟨rfl, rfl, rfl, rfl, .inr ⟨rfl, className, rfl⟩, fun _ => rfl⟩

theorem sized (type : ValueType) (sizeAccessor : Option SizeAccessor) :
    type.Stems { type with sizeAccessor } :=
  ⟨rfl, rfl, rfl, rfl, .inl rfl, fun handle => handle⟩

/-- A scalar was the same scalar before. -/
theorem isScalar (stems : original.Stems current) {scalar : Scalar}
    (isScalar : current.isScalar scalar = true) : original.isScalar scalar = true := by
  have kind : current.kind = .scalar scalar := eq_of_beq isScalar
  rcases stems.kind with same | ⟨-, className, retyped⟩
  · rw [ValueType.isScalar, ← same]
    exact isScalar
  · rw [kind] at retyped
    cases retyped

end Stems

end ValueType

/-- Whether every plain parameter of the second function stems from one of the first. -/
def Function.ParamsStem (original current : Function) : Prop :=
  ∀ parameter, .plain parameter ∈ current.params →
    ∃ declared, .plain declared ∈ original.params ∧ declared.type.Stems parameter.type

/-- A list that is changed at one place. -/
theorem forall₂_modify {α : Type} {Changes : α → α → Prop} {change : α → α}
    (refl : ∀ item, Changes item item) {items : List α} {position : Nat}
    (there : ∀ item, items[position]? = some item → Changes item (change item)) :
    List.Forall₂ Changes items (items.modify position change) := by
  induction items generalizing position with
  | nil => simp
  | cons item rest ih =>
      cases position with
      | zero => exact .cons (there item rfl) (List.forall₂_same.2 fun other _ => refl other)
      | succ position => exact .cons (refl item) (ih fun other found => there other found)

theorem exists_of_mem_forall₂ {α β : Type} {Relates : α → β → Prop} {left : List α} {right : List β}
    (pointwise : List.Forall₂ Relates left right) {item : β} (member : item ∈ right) :
    ∃ origin ∈ left, Relates origin item := by
  induction pointwise with
  | nil => cases member
  | @cons origin _ _ _ head _ ih =>
      rcases List.mem_cons.1 member with rfl | later
      · exact ⟨origin, List.mem_cons_self, head⟩
      · obtain ⟨origin, isOrigin, relates⟩ := ih later
        exact ⟨origin, List.mem_cons_of_mem _ isOrigin, relates⟩

theorem forall₂_trans {α : Type} {Relates : α → α → Prop}
    (trans : ∀ first second third, Relates first second → Relates second third →
      Relates first third)
    {first second third : List α}
    (left : List.Forall₂ Relates first second) (right : List.Forall₂ Relates second third) :
    List.Forall₂ Relates first third := by
  induction left generalizing third with
  | nil => exact right
  | cons head _ ih =>
      cases right with
      | cons next rest => exact .cons (trans _ _ _ head next) (ih rest)

/-- Whether an argument stays as it is or its type names the accessor of its size. -/
def Argument.Sized (accessor : SizeAccessor) (before after : Argument) : Prop :=
  after = before ∨ after = before.mapPlain fun parameter =>
    { parameter with type := { parameter.type with sizeAccessor := some accessor } }

theorem Function.forall₂_sized (function : Function) (position : Nat)
    (accessor : SizeAccessor) :
    List.Forall₂ (Argument.Sized accessor) function.params
      (function.mapParameter position fun parameter =>
        { parameter with
          type := { parameter.type with sizeAccessor := some accessor } }).params :=
  forall₂_modify (fun _ => .inl rfl) fun _ _ => .inr rfl

namespace Sizing

variable {settings : Settings} {function : Function} {position : Nat}

theorem mem_of_mem_pairLengths {marker : String} {params : List Argument} {parameter : Parameter}
    (member : .plain parameter ∈ pairLengths marker params) : .plain parameter ∈ params := by
  induction params using pairLengths.induct marker with
  | case1 => exact member
  | case2 data length rest paired ih =>
      rw [pairLengths, if_pos paired] at member
      rcases List.mem_cons.1 member with same | later
      · cases same
      · exact List.mem_cons_of_mem _ (List.mem_cons_of_mem _ (ih later))
  | case3 data length rest apart ih =>
      rw [pairLengths, if_neg apart] at member
      rcases List.mem_cons.1 member with same | later
      · exact same ▸ List.mem_cons_self
      · exact List.mem_cons_of_mem _ (ih later)
  | case4 argument rest noPair ih =>
      rw [pairLengths] at member
      · rcases List.mem_cons.1 member with same | later
        · exact same ▸ List.mem_cons_self
        · exact List.mem_cons_of_mem _ (ih later)
      · exact noPair

/-- What a getter fills is a plain array, and what it returned says at most whether it worked. -/
theorem filledBuffer?_eq_some (found : filledBuffer? settings function = some position) :
    (∃ buffer, function.params[position]? = some (.plain buffer) ∧ buffer.type.isArray = true) ∧
      (function.ret.type.isScalar .void = true ∨ function.ret.type.isScalar .bool = true) := by
  rw [filledBuffer?] at found
  split at found
  · split at found
    · rename_i returns
      obtain ⟨within, isArray, -⟩ := List.findIdx?_eq_some_iff_getElem.1 found
      constructor
      · rw [List.getElem?_eq_getElem within]
        cases isBuffer : function.params[position] with
        | plain buffer => exact ⟨buffer, rfl, by
            simpa [isBuffer, Argument.isPlainArray, Argument.plain?] using isArray⟩
        | buffer data length => simp [isBuffer, Argument.isPlainArray, Argument.plain?] at isArray
      · simpa using returns
    · cases found
  · cases found

theorem promote_eq {buffer : Parameter} (accessor : FunctionId)
    (isBuffer : function.params[position]? = some (.plain buffer)) :
    promote position accessor function =
      { function.dropParameter position with
        ret := { function.ret.replaceBy (buffer.type.withGetter accessor) with
          promotedFrom := some position } } := by
  rw [promote, isBuffer]

end Sizing

/-! ## Parameters through steps -/

/-- Whether every plain parameter of the second list has one in the first that it is related to. -/
def Traces (Relates : Parameter → Parameter → Prop) (original current : List Argument) : Prop :=
  ∀ parameter, .plain parameter ∈ current →
    ∃ former, .plain former ∈ original ∧ Relates former parameter

namespace Traces

variable {Relates First Second : Parameter → Parameter → Prop}
  {original middle current : List Argument}

theorem ofSubset (refl : ∀ parameter, Relates parameter parameter) (kept : current ⊆ original) :
    Traces Relates original current :=
  fun parameter member => ⟨parameter, kept member, refl parameter⟩

theorem trans (join : ∀ former between parameter, First former between →
      Second between parameter → Relates former parameter)
    (first : Traces First original middle) (second : Traces Second middle current) :
    Traces Relates original current := by
  intro parameter member
  obtain ⟨between, isBetween, relatesLater⟩ := second parameter member
  obtain ⟨former, isFormer, relates⟩ := first between isBetween
  exact ⟨former, isFormer, join _ _ _ relates relatesLater⟩

/-- A parameter list that is changed place by place. -/
theorem ofForall₂ {Changes : Argument → Argument → Prop}
    (pointwise : List.Forall₂ Changes original current)
    (each : ∀ argument parameter, Changes argument (.plain parameter) →
      ∃ former, argument = .plain former ∧ Relates former parameter) :
    Traces Relates original current := by
  intro parameter member
  obtain ⟨argument, isArgument, changes⟩ := exists_of_mem_forall₂ pointwise member
  obtain ⟨former, rfl, relates⟩ := each argument parameter changes
  exact ⟨former, isArgument, relates⟩

theorem map (change : Parameter → Parameter) (params : List Argument) :
    Traces (fun former parameter => parameter = change former) params
      (params.map (·.mapPlain change)) := by
  intro parameter member
  obtain ⟨argument, isArgument, same⟩ := List.mem_map.1 member
  cases argument with
  | plain former =>
      cases same
      exact ⟨former, isArgument, rfl⟩
  | buffer data length => cases same

end Traces

/-- Parameters that stay plain learn their size at most, unless they become references. -/
theorem Step.traces {settings : Settings} {kind : MoveKind} {function changed : Function}
    {Relates : Parameter → Parameter → Prop} (step : Step settings kind function changed)
    (refl : ∀ parameter, Relates parameter parameter)
    (sized : ∀ parameter sizeAccessor,
      Relates parameter { parameter with type := { parameter.type with sizeAccessor } })
    (refers : kind = .edit .refer → ∀ {parameter base},
      Text.dropSuffix? parameter.name settings.markers.numberHandle = some base →
      Relates parameter (NumberHandles.asReference base parameter)) :
    Traces Relates function.params changed.params := by
  cases step with
  | descend => exact .ofSubset refl List.eraseIdx_subset
  | edit edited =>
      cases edited with
      | convertError | makeDeallocator | makeMethod => exact .ofSubset refl List.eraseIdx_subset
      | refer pointwise =>
          apply Traces.ofForall₂ pointwise
          rintro argument parameter (same | ⟨former, base, isPlain, isBase, same⟩)
          · exact ⟨parameter, same.symm, refl _⟩
          · cases same
            exact ⟨former, isPlain, refers rfl isBase⟩
      | @promote _ position accessor found =>
          obtain ⟨⟨buffer, isBuffer, -⟩, -⟩ := Sizing.filledBuffer?_eq_some found
          rw [Sizing.promote_eq accessor isBuffer]
          exact .ofSubset refl List.eraseIdx_subset
      | @sizeParameter _ position accessor unsized =>
          apply Traces.ofForall₂ (function.forall₂_sized position accessor)
          rintro argument parameter (same | same)
          · exact ⟨parameter, same.symm, refl _⟩
          · cases argument with
            | plain former =>
                cases same
                exact ⟨former, rfl, sized _ _⟩
            | buffer data length => cases same
      | pair =>
          exact fun parameter member =>
            ⟨parameter, Sizing.mem_of_mem_pairLengths member, refl _⟩
      | dropSuccess =>
          rw [Accessors.params_dropSuccess]
          exact .ofSubset refl (List.Subset.refl _)
      | _ => exact .ofSubset refl (List.Subset.refl _)

theorem Function.ParamsStem.refl (function : Function) : function.ParamsStem function :=
  fun parameter member => ⟨parameter, member, .refl _⟩

theorem Function.ParamsStem.trans {original middle current : Function}
    (first : original.ParamsStem middle) (second : middle.ParamsStem current) :
    original.ParamsStem current :=
  Traces.trans (fun _ _ _ first second => first.trans second) first second

/-- Every step keeps the types of the parameters that stay plain. -/
theorem Step.paramsStem {settings : Settings} {kind : MoveKind} {function changed : Function}
    (step : Step settings kind function changed) : function.ParamsStem changed := by
  have traces : Traces (fun declared parameter => declared.type.Stems parameter.type)
      function.params changed.params :=
    step.traces (fun parameter => .refl parameter.type) (fun parameter => .sized parameter.type)
      fun _ {parameter} _ _ => .asNumberHandle parameter.type _
  exact traces

end Bindery
