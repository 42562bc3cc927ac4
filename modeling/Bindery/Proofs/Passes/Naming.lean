import Bindery.Proofs.Traversal

/-!
# The moves of the passes for members

Properties take their getters and setters off the method lists.  A method list shrinks while it is
gone through, so what a loop knows of the methods to come is that each of them is still there,
unless it has become the setter of an earlier property.
-/

namespace Bindery

namespace Forest

variable {forest : Forest} {c : ClassId} {id : FunctionId}

/-- Only what a change makes of the function that is there matters. -/
theorem modifyFunction_congr {change other : Function → Function}
    (same : change (forest.functionAt id) = other (forest.functionAt id)) :
    forest.modifyFunction id change = forest.modifyFunction id other := by
  have modified : forest.functions.modify id change = forest.functions.modify id other := by
    apply List.ext_getElem?
    intro index
    rw [List.getElem?_modify, List.getElem?_modify]
    by_cases isThis : id = index
    · subst isThis
      rw [Forest.functionAt] at same
      cases found : forest.functions[id]? with
      | none => rfl
      | some function =>
          rw [found] at same
          simpa using same
    · simp [isThis]
  rw [Forest.modifyFunction, Forest.modifyFunction, modified]

theorem modifyFunction_of_eq {change : Function → Function}
    (same : change (forest.functionAt id) = forest.functionAt id) :
    forest.modifyFunction id change = forest := by
  have kept : forest.functions.modify id (fun function => function) = forest.functions :=
    List.modify_id id forest.functions
  calc forest.modifyFunction id change
    _ = forest.modifyFunction id fun function => function := modifyFunction_congr same
    _ = forest := by rw [modifyFunction, kept]

theorem modifyClass_modifyClass (first second : Class → Class) :
    (forest.modifyClass c first).modifyClass c second =
      forest.modifyClass c fun c => second (first c) := by
  simp [modifyClass, List.modify_modify_eq, Function.comp_def]

theorem params_functionAt_rename {renamed : FunctionId} (name : String) :
    ((forest.modifyFunction renamed (·.rename name)).functionAt id).params =
      (forest.functionAt id).params := by
  by_cases same : id = renamed
  · subst same
    by_cases present : id < forest.functionCount
    · rw [functionAt_modifyFunction_self present]
      rfl
    · rw [modifyFunction, List.modify_eq_self (Nat.le_of_not_lt present)]
  · rw [functionAt_modifyFunction_of_ne same]

theorem mem_methods_of_findMethod? {name : String} (found : forest.findMethod? c name = some id) :
    id ∈ forest.methods c :=
  List.mem_of_find?_eq_some found

theorem name_of_findMethod? {name : String} (found : forest.findMethod? c name = some id) :
    (forest.functionAt id).name = name := by
  have isFound := List.find?_some found
  exact beq_iff_eq.1 isFound

end Forest

namespace Corrections

variable (settings : Settings)

/-- What becomes of a function whose return may be configured as a number handle. -/
def retypeReturn (function : Function) : Function :=
  match settings.numberHandleReturns.get? function.name with
  | some className =>
    { function with
      ret := { function.ret with type := function.ret.type.asNumberHandle className } }
  | none => function

theorem makes_retypeHandleReturns :
    Pass.Makes settings {.edit .retype} (Pass.ofTotal (retypeHandleReturns settings)) := by
  refine .ofTotal fun draft sound => moves_forEachMethod (fun draft _ id _ => ?_) sound
  change Moves settings {.edit .retype} draft.forest
    (draft.modifyFunction id (retypeReturn settings)).forest
  cases found : settings.numberHandleReturns.get? (draft.forest.functionAt id).name with
  | some className =>
      have edited : Edit settings .retype (draft.forest.functionAt id)
          (retypeReturn settings (draft.forest.functionAt id)) := by
        rw [retypeReturn, found]
        exact .retype _ className
      exact moves_modifyFunction (by simp) edited
  | none =>
      have same : retypeReturn settings (draft.forest.functionAt id) =
          draft.forest.functionAt id := by
        rw [retypeReturn, found]
      rw [Draft.forest_modifyFunction, Forest.modifyFunction_of_eq same]
      exact .refl _

variable {settings} in
/-- A class stays as it is, or its configured initializer is one of its methods and moves. -/
theorem extractInitializer_cases (draft : Draft) (c : ClassId) :
    (extractInitializer settings c draft).forest = draft.forest ∨
      ∃ name id, settings.defaultInitializers.get? (draft.forest.className c) = some name ∧
        draft.forest.findMethod? c name = some id ∧
        (extractInitializer settings c draft).forest = draft.forest.modifyClass c fun c =>
          { c.removeMethod id with defaultInit := some id } := by
  rw [extractInitializer]
  dsimp only
  cases configured : settings.defaultInitializers.get? (draft.forest.className c) with
  | none => exact .inl rfl
  | some name =>
      dsimp only
      cases found : draft.forest.findMethod? c name with
      | none => exact .inl rfl
      | some id => exact .inr ⟨name, id, rfl, found, rfl⟩

theorem moves_extractInitializer (draft : Draft) (c : ClassId) :
    Moves settings {.takeInitializer} draft.forest
      (extractInitializer settings c draft).forest := by
  rcases extractInitializer_cases draft c with same | ⟨name, id, -, found, taken⟩
  · rw [same]
    exact .refl _
  · rw [taken]
    exact .single (by simp) (.takeInitializer (Forest.mem_methods_of_findMethod? found))

theorem makes_extractInitializers :
    Pass.Makes settings {.takeInitializer} (Pass.ofTotal (extractInitializers settings)) :=
  .ofTotal fun _ sound =>
    moves_forEachClass (fun draft c _ => moves_extractInitializer settings draft c) sound

theorem moves_renameMethod {draft : Draft} {className : String} {names : Renaming}
    {id : FunctionId} (found : settings.renames.get? className = some names) :
    Moves settings {.renameProperties, .edit .rename} draft.forest
      (renameMethod names.functions draft id).forest := by
  unfold renameMethod
  dsimp only
  split
  · rename_i renames
    exact .edit .rename (by simp) (.rename (.configured found renames))
  · exact .refl _

theorem moves_renameMembers {draft : Draft} {c : ClassId} (sound : draft.forest.Sound) :
    Moves settings {.renameProperties, .edit .rename} draft.forest
      (renameMembers settings c draft).forest := by
  rw [renameMembers]
  split
  · exact .refl _
  · rename_i names found
    have properties : Moves settings {.renameProperties, .edit .rename} draft.forest
        (draft.modifyClass c fun c =>
          { c with properties := c.properties.map (renameProperty names.properties) }).forest :=
      .single (by simp) (.renameProperties c names.properties)
    exact properties.trans
      (moves_foldl (fun _ _ _ _ => moves_renameMethod settings found) (properties.sound sound))

theorem makes_applyRenames :
    Pass.Makes settings {.renameProperties, .edit .rename}
      (Pass.ofTotal (applyRenames settings)) :=
  .ofTotal fun _ sound => moves_forEachClass (fun _ _ => moves_renameMembers settings) sound

end Corrections

namespace Accessors

variable {settings : Settings} {kinds : Set MoveKind} {draft : Draft} {c : ClassId}
  {getter setter id : FunctionId} {name : String} {isStatic : Bool}

theorem forest_addProperty :
    (addProperty settings draft c getter name isStatic).forest =
      (draft.forest.modifyFunction getter (·.rename settings.canonical.getter)).modifyClass c
        fun c =>
          { c.removeMethod getter with
            properties := c.properties ++ [{ name, getter, setter := none, isStatic }] } :=
  Forest.modifyClass_modifyClass _ _

theorem moves_addProperty (isMethod : getter ∈ draft.forest.methods c)
    (renames : .edit .rename ∈ kinds) (adds : .addProperty ∈ kinds) :
    Moves settings kinds draft.forest
      (addProperty settings draft c getter name isStatic).forest := by
  have renamed : Moves settings kinds draft.forest
      (draft.forest.modifyFunction getter (·.rename settings.canonical.getter)) :=
    .single renames (.edit (.rename .getter))
  have stays : getter ∈ (draft.forest.modifyFunction getter
      (·.rename settings.canonical.getter)).methods c := isMethod
  rw [forest_addProperty]
  exact renamed.trans (.single adds (.addProperty stays name isStatic))

theorem classAt_addProperty (isMethod : getter ∈ draft.forest.methods c) :
    (addProperty settings draft c getter name isStatic).forest.classAt c =
      { (draft.forest.classAt c).removeMethod getter with
        properties := (draft.forest.classAt c).properties ++
          [{ name, getter, setter := none, isStatic }] } := by
  have valid : c < (draft.forest.modifyFunction getter
      (·.rename settings.canonical.getter)).hierarchy.size :=
    Forest.lt_size_of_mem_methods isMethod
  rw [forest_addProperty, Forest.classAt_modifyClass_self valid]
  rfl

theorem methods_addProperty (isMethod : getter ∈ draft.forest.methods c) :
    (addProperty settings draft c getter name isStatic).forest.methods c =
      (draft.forest.methods c).erase getter := by
  rw [Forest.methods, classAt_addProperty isMethod]
  rfl

theorem params_addProperty :
    ((addProperty settings draft c getter name isStatic).forest.functionAt id).params =
      (draft.forest.functionAt id).params := by
  rw [forest_addProperty, Forest.functionAt_modifyClass, Forest.params_functionAt_rename]

theorem moves_addSetter {front : List Property} {last : Property}
    (isMethod : setter ∈ draft.forest.methods c)
    (isLast : (draft.forest.classAt c).properties = front ++ [last])
    (vacant : last.setter = none) (renames : .edit .rename ∈ kinds)
    (adds : .addSetter ∈ kinds) :
    Moves settings kinds draft.forest (addSetter settings draft c setter).forest :=
  (Moves.single renames (.edit (.rename .setter))).trans
    (.single adds (.addSetter isMethod isLast vacant))

theorem methods_addSetter (isMethod : setter ∈ draft.forest.methods c) :
    (addSetter settings draft c setter).forest.methods c =
      (draft.forest.methods c).erase setter := by
  have valid : c < (draft.modifyFunction setter
      (·.rename settings.canonical.setter)).forest.hierarchy.size :=
    Forest.lt_size_of_mem_methods isMethod
  rw [addSetter, Draft.forest_modifyClass, Forest.methods, Forest.classAt_modifyClass_self valid]
  rfl

theorem params_addSetter :
    ((addSetter settings draft c setter).forest.functionAt id).params =
      (draft.forest.functionAt id).params :=
  Forest.params_functionAt_rename _

/-- What a function has that the pass over accessors folds, and the name of its property. -/
structure Getter (settings : Settings) (function : Function) (name : String) : Prop where
  marked : Text.contains function.name settings.markers.getter = true
  noParams : function.params = []
  isName : Text.replaceAll function.name settings.markers.getter "" = name

/-- What the turn of a method makes of a draft.  A getter becomes a property, and a method of one
parameter that is then still there under the name for its setter becomes that. -/
inductive Folding (settings : Settings) (c : ClassId) (id : FunctionId) (draft : Draft) :
    Draft → Prop
  | skip (unlike : Text.contains (draft.forest.functionAt id).name settings.markers.getter = true →
      (draft.forest.functionAt id).params ≠ []) : Folding settings c id draft draft
  | property {name : String} (getter : Getter settings (draft.forest.functionAt id) name) :
      Folding settings c id draft (addProperty settings draft c id name false)
  | accessors {name : String} {setter : FunctionId}
      (getter : Getter settings (draft.forest.functionAt id) name)
      (isSetter : setter ∈ (addProperty settings draft c id name false).forest.methods c)
      (called : ((addProperty settings draft c id name false).forest.functionAt setter).name =
        Text.replaceAll (draft.forest.functionAt id).name settings.markers.getter
          settings.markers.setter)
      (single : ((addProperty settings draft c id name false).forest.functionAt
        setter).params.length = 1) :
      Folding settings c id draft
        (addSetter settings (addProperty settings draft c id name false) c setter)

theorem folding_foldAccessor (settings : Settings) (c : ClassId) (id : FunctionId) (draft : Draft) :
    Folding settings c id draft (foldAccessor settings c id draft) := by
  rw [foldAccessor]
  dsimp only
  split
  · rename_i skipped
    refine .skip fun marked none => ?_
    simp [marked, none] at skipped
  · rename_i folds
    simp only [Bool.or_eq_true, not_or, Bool.not_eq_true', List.isEmpty_iff,
      Bool.not_eq_false] at folds
    have getter : Getter settings (draft.forest.functionAt id)
        (Text.replaceAll (draft.forest.functionAt id).name settings.markers.getter "") :=
      ⟨folds.1, folds.2, rfl⟩
    split
    · exact .property getter
    · rename_i setter found
      split
      · rename_i single
        exact .accessors getter (Forest.mem_methods_of_findMethod? found)
          (Forest.name_of_findMethod? found) single
      · exact .property getter

/-- The methods to come are different, and each is still a method or takes parameters. -/
def GettersRemain (c : ClassId) (rest : List FunctionId) (forest : Forest) : Prop :=
  rest.Nodup ∧ ∀ id ∈ rest, id ∈ forest.methods c ∨ (forest.functionAt id).params ≠ []

namespace GettersRemain

variable {forest : Forest} {rest : List FunctionId}

theorem start (sound : forest.Sound) (c : ClassId) : GettersRemain c (forest.methods c) forest :=
  ⟨sound.methods_nodup c, fun _ member => .inl member⟩

theorem isMethod (remain : GettersRemain c (id :: rest) forest)
    (getter : Getter settings (forest.functionAt id) name) : id ∈ forest.methods c :=
  (remain.2 id List.mem_cons_self).resolve_right fun some => some getter.noParams

theorem tail (remain : GettersRemain c (id :: rest) forest) : GettersRemain c rest forest :=
  ⟨(List.nodup_cons.1 remain.1).2, fun other member =>
    remain.2 other (List.mem_cons_of_mem _ member)⟩

theorem addProperty (remain : GettersRemain c (id :: rest) draft.forest)
    (isMethod : id ∈ draft.forest.methods c) :
    GettersRemain c rest (addProperty settings draft c id name isStatic).forest := by
  obtain ⟨fresh, different⟩ := List.nodup_cons.1 remain.1
  refine ⟨different, fun other member => ?_⟩
  have distinct : other ≠ id := fun same => fresh (same ▸ member)
  rw [methods_addProperty isMethod, params_addProperty, List.mem_erase_of_ne distinct]
  exact remain.tail.2 other member

/-- A setter leaves the method list, but it takes a parameter. -/
theorem addSetter (remain : GettersRemain c rest draft.forest)
    (isSetter : setter ∈ draft.forest.methods c)
    (single : (draft.forest.functionAt setter).params.length = 1) :
    GettersRemain c rest (addSetter settings draft c setter).forest := by
  refine ⟨remain.1, fun other member => ?_⟩
  rw [methods_addSetter isSetter, params_addSetter]
  by_cases same : other = setter
  · right
    rw [same]
    exact List.ne_nil_of_length_eq_add_one single
  · rw [List.mem_erase_of_ne same]
    exact remain.2 other member

end GettersRemain

theorem moves_foldAccessor {rest : List FunctionId}
    (remain : GettersRemain c (id :: rest) draft.forest) :
    Moves settings {.edit .rename, .addProperty, .addSetter} draft.forest
        (foldAccessor settings c id draft).forest ∧
      GettersRemain c rest (foldAccessor settings c id draft).forest := by
  have folding := folding_foldAccessor settings c id draft
  generalize foldAccessor settings c id draft = folded at folding ⊢
  cases folding with
  | skip => exact ⟨.refl _, remain.tail⟩
  | property getter =>
      have isMethod := remain.isMethod getter
      exact ⟨moves_addProperty isMethod (by simp) (by simp), remain.addProperty isMethod⟩
  | @accessors name setter getter isSetter called single =>
      have isMethod := remain.isMethod getter
      have added : Moves settings {.edit .rename, .addProperty, .addSetter} draft.forest
          (addProperty settings draft c id name false).forest :=
        moves_addProperty isMethod (by simp) (by simp)
      have isLast : ((addProperty settings draft c id name false).forest.classAt c).properties =
          (draft.forest.classAt c).properties ++
            [{ name, getter := id, setter := none, isStatic := false }] := by
        rw [classAt_addProperty isMethod]
      exact ⟨added.trans (moves_addSetter isSetter isLast rfl (by simp) (by simp)),
        (remain.addProperty isMethod).addSetter isSetter single⟩

/-- The methods to come are different and still there. -/
def MethodsRemain (c : ClassId) (rest : List FunctionId) (forest : Forest) : Prop :=
  rest.Nodup ∧ ∀ id ∈ rest, id ∈ forest.methods c

theorem moves_addProperty_remain {rest : List FunctionId}
    (remain : MethodsRemain c (id :: rest) draft.forest) :
    Moves settings {.edit .rename, .addProperty} draft.forest
        (addProperty settings draft c id name isStatic).forest ∧
      MethodsRemain c rest (addProperty settings draft c id name isStatic).forest := by
  obtain ⟨different, still⟩ := remain
  obtain ⟨fresh, different⟩ := List.nodup_cons.1 different
  have isMethod := still id List.mem_cons_self
  refine ⟨moves_addProperty isMethod (by simp) (by simp), different, fun other member => ?_⟩
  have distinct : other ≠ id := fun same => fresh (same ▸ member)
  rw [methods_addProperty isMethod]
  exact (List.mem_erase_of_ne distinct).2 (still other (List.mem_cons_of_mem _ member))

theorem MethodsRemain.start {forest : Forest} (sound : forest.Sound) (c : ClassId) :
    MethodsRemain c (forest.methods c) forest :=
  ⟨sound.methods_nodup c, fun _ member => member⟩

theorem MethodsRemain.tail {forest : Forest} {rest : List FunctionId}
    (remain : MethodsRemain c (id :: rest) forest) : MethodsRemain c rest forest :=
  ⟨(List.nodup_cons.1 remain.1).2, fun other member =>
    remain.2 other (List.mem_cons_of_mem _ member)⟩

theorem moves_foldStatic {rest : List FunctionId}
    (remain : MethodsRemain c (id :: rest) draft.forest) :
    Moves settings {.edit .rename, .addProperty} draft.forest
        (foldStatic settings c id draft).forest ∧
      MethodsRemain c rest (foldStatic settings c id draft).forest := by
  unfold foldStatic
  dsimp only
  split
  · exact moves_addProperty_remain remain
  · exact ⟨.refl _, remain.tail⟩

theorem moves_foldForced {rest : List FunctionId}
    (remain : MethodsRemain c (id :: rest) draft.forest) :
    Moves settings {.edit .rename, .addProperty} draft.forest
        (foldForced settings c id draft).forest ∧
      MethodsRemain c rest (foldForced settings c id draft).forest := by
  unfold foldForced
  dsimp only
  split
  · exact moves_addProperty_remain remain
  · exact ⟨.refl _, remain.tail⟩

variable (settings)

theorem makes_foldAccessors :
    Pass.Makes settings {.edit .rename, .addProperty, .addSetter}
      (Pass.ofTotal (foldAccessors settings)) :=
  .ofTotal fun _ sound => moves_forEachMethod_remaining GettersRemain
    (fun _ c sound => .start sound c)
    (fun _ _ _ _ _ remain => moves_foldAccessor remain) sound

theorem makes_dropSuccessReturns :
    Pass.Makes settings {.edit .dropSuccess} (Pass.ofTotal dropSuccessReturns) :=
  .ofTotal fun _ sound =>
    moves_forEachMethod (fun _ _ _ _ => moves_modifyFunction (by simp) (.dropSuccess _)) sound

theorem makes_foldStatics :
    Pass.Makes settings {.edit .rename, .addProperty} (Pass.ofTotal (foldStatics settings)) :=
  .ofTotal fun _ sound => moves_forEachMethod_remaining MethodsRemain
    (fun _ c sound => .start sound c)
    (fun _ _ _ _ _ remain => moves_foldStatic remain) sound

theorem makes_foldForcedProperties :
    Pass.Makes settings {.edit .rename, .addProperty}
      (Pass.ofTotal (foldForcedProperties settings)) :=
  .ofTotal fun _ sound => moves_forEachMethod_remaining MethodsRemain
    (fun _ c sound => .start sound c)
    (fun _ _ _ _ _ remain => moves_foldForced remain) sound

end Accessors

end Bindery
