import Bindery.Proofs.Narrowing
import Bindery.Proofs.Placements

/-!
# Functions out of reach

A pass goes through the functions that are free or through the methods of classes, and rewrites
those that it comes to.  So a function that is in no such list stays what it is: getters of
properties, allocators and detached accessors are finished for good.
-/

namespace Bindery

variable {settings : Settings} {draft : Draft} {before middle after forest : Forest}
  {c : ClassId} {id other : FunctionId} {α : Type}

namespace Forest

/-- Whether a function is left as it is and put in no list that it was not in before. -/
structure Spares (id : FunctionId) (before after : Forest) : Prop where
  function : after.functionAt id = before.functionAt id
  free : id ∈ after.free → id ∈ before.free
  method : ∀ c, id ∈ after.methods c → id ∈ before.methods c

namespace Spares

theorem refl (id : FunctionId) (forest : Forest) : Spares id forest forest :=
  ⟨rfl, fun isFree => isFree, fun _ isMethod => isMethod⟩

theorem trans (first : Spares id before middle) (second : Spares id middle after) :
    Spares id before after where
  function := second.function.trans first.function
  free := fun isFree => first.free (second.free isFree)
  method := fun c isMethod => first.method c (second.method c isMethod)

theorem modifyFunction (different : id ≠ other) (change : Function → Function) :
    Spares id forest (forest.modifyFunction other change) :=
  ⟨functionAt_modifyFunction_of_ne different, fun isFree => isFree, fun _ isMethod => isMethod⟩

theorem modifyClass {change : Class → Class}
    (keeps : ∀ content : Class, id ∈ (change content).methods → id ∈ content.methods) :
    Spares id forest (forest.modifyClass c change) where
  function := rfl
  free := fun isFree => isFree
  method := by
    intro place isMethod
    rw [methods] at isMethod
    rcases classAt_modifyClass_or forest c change place with same | ⟨rfl, changed⟩
    · rwa [same] at isMethod
    · exact keeps _ (changed ▸ isMethod)

theorem removeMethod (c : ClassId) (other : FunctionId) :
    Spares id forest (forest.removeMethod c other) :=
  .modifyClass fun _ isMethod => List.mem_of_mem_erase isMethod

theorem addMethod (different : id ≠ other) :
    Spares id forest (forest.modifyClass c (·.addMethod other)) := by
  refine .modifyClass fun content isMethod => ?_
  exact (List.mem_append.1 isMethod).resolve_right fun isNew =>
    different (List.mem_singleton.1 isNew)

theorem requireClass (id : FunctionId) (forest : Forest) (parent : Option ClassId) (name : String) :
    Spares id forest (forest.requireClass parent name).1 where
  function := functionAt_requireClass _ _ _ _
  free := fun isFree => isFree
  method := by
    intro place isMethod
    rwa [methods, classAt_requireClass] at isMethod

theorem takeFree (forest : Forest) (other : FunctionId) :
    Spares id forest (forest.takeFree other) :=
  ⟨rfl, fun isFree => List.mem_of_mem_filter isFree, fun _ isMethod => isMethod⟩

theorem addFunction (present : id < forest.functionCount) (function : Function) :
    Spares id forest (forest.addFunction function) :=
  ⟨functionAt_addFunction_of_lt present, fun isFree => isFree, fun _ isMethod => isMethod⟩

theorem moveMethod (different : id ≠ other) (source target : ClassId) :
    Spares id forest (forest.moveMethod source target other) := by
  rw [Forest.moveMethod]
  split
  · exact (removeMethod source other).trans (addMethod different)
  · exact .refl _ _

end Spares

/-- Whether a function is no method of any class. -/
def NoMethod (id : FunctionId) (forest : Forest) : Prop :=
  ∀ c, id ∉ forest.methods c

theorem Spares.noMethod (spares : Spares id before after) (noMethod : before.NoMethod id) :
    after.NoMethod id :=
  fun c isMethod => noMethod c (spares.method c isMethod)

theorem NoMethod.ne (noMethod : forest.NoMethod id) (isMethod : other ∈ forest.methods c) :
    id ≠ other :=
  fun same => noMethod c (same ▸ isMethod)

end Forest

open Forest (Spares NoMethod)

/-! ## Loops -/

/-- A loop of steps that spare a function as long as something holds that sparing it keeps. -/
theorem spares_foldlM (Invariant : Forest → Prop)
    (kept : ∀ {before after : Forest}, Spares id before after → Invariant before → Invariant after)
    {visit : Draft → α → Except Stopped Draft} {items : List α}
    (each : ∀ draft : Draft, ∀ item ∈ items, Invariant draft.forest →
      Spares id draft.forest (reached (visit draft item)).forest)
    (start : Invariant draft.forest) :
    Spares id draft.forest (reached (items.foldlM visit draft)).forest := by
  induction items generalizing draft with
  | nil => exact .refl _ _
  | cons item rest ih =>
      rw [List.foldlM_cons]
      exact reached_bind (each draft item List.mem_cons_self start) fun next first =>
        first.trans (ih (fun draft item member => each draft item
          (List.mem_cons_of_mem _ member)) (kept first start))

theorem spares_foldl (Invariant : Forest → Prop)
    (kept : ∀ {before after : Forest}, Spares id before after → Invariant before → Invariant after)
    {visit : Draft → α → Draft} {items : List α}
    (each : ∀ draft : Draft, ∀ item ∈ items, Invariant draft.forest →
      Spares id draft.forest (visit draft item).forest)
    (start : Invariant draft.forest) :
    Spares id draft.forest (items.foldl visit draft).forest := by
  have total : Spares id draft.forest
      (reached (items.foldlM (fun draft item => .ok (visit draft item)) draft)).forest :=
    spares_foldlM Invariant kept each start
  rw [foldlM_ok] at total
  exact total

theorem spares_tryForEachMethod {step : ClassId → FunctionId → Draft → Except Stopped Draft}
    (each : ∀ (draft : Draft) (c : ClassId) (other : FunctionId), id ≠ other →
      draft.forest.NoMethod id → Spares id draft.forest (reached (step c other draft)).forest)
    (noMethod : draft.forest.NoMethod id) :
    Spares id draft.forest (reached (draft.tryForEachMethod step)).forest :=
  spares_foldlM (NoMethod id) Spares.noMethod (fun _ c _ noMethod =>
    spares_foldlM (NoMethod id) Spares.noMethod (fun draft other isMethod still =>
      each draft c other (noMethod.ne isMethod) still) noMethod) noMethod

theorem spares_forEachMethod {step : ClassId → FunctionId → Draft → Draft}
    (each : ∀ (draft : Draft) (c : ClassId) (other : FunctionId), id ≠ other →
      draft.forest.NoMethod id → Spares id draft.forest (step c other draft).forest)
    (noMethod : draft.forest.NoMethod id) :
    Spares id draft.forest (draft.forEachMethod step).forest :=
  spares_foldl (NoMethod id) Spares.noMethod (fun _ c _ noMethod =>
    spares_foldl (NoMethod id) Spares.noMethod (fun draft other isMethod still =>
      each draft c other (noMethod.ne isMethod) still) noMethod) noMethod

theorem spares_forEachMethod_modify {change : Function → Function}
    (noMethod : draft.forest.NoMethod id) :
    Spares id draft.forest
      (draft.forEachMethod fun _ other draft => draft.modifyFunction other change).forest :=
  spares_forEachMethod (fun _ _ _ different _ => .modifyFunction different change) noMethod

/-! ## Passes over free functions -/

namespace Throwing

theorem spares_convertErrorParameters (settings : Settings) (notFree : id ∉ draft.forest.free) :
    Spares id draft.forest (reached (convertErrorParameters settings draft)).forest := by
  refine spares_foldlM (fun _ => True) (fun _ _ => trivial) (fun draft other isFree _ => ?_) trivial
  have different : id ≠ other := fun same => notFree (same ▸ isFree)
  rw [convertFunction]
  dsimp only
  split
  · exact .refl _ _
  · split
    · exact .refl _ _
    · exact .modifyFunction different _

end Throwing

namespace Hoisting

variable {structs : List String}

theorem spares_hoistAllocator (different : id ≠ other) :
    Spares id draft.forest (hoistAllocator structs settings draft other).forest := by
  rw [forest_hoistAllocator rfl rfl]
  have required := Spares.requireClass id draft.forest none
    (draft.forest.functionAt other).ret.type.name
  split
  · split
    · refine required.trans (.trans (.modifyClass fun content isMethod => ?_)
        (.trans (.takeFree _ other) (.modifyFunction different _)))
      rw [Class.withAlloc] at isMethod
      split at isMethod <;> exact isMethod
    · exact required
  · exact .refl _ _

theorem spares_hoistStructFunction (different : id ≠ other) :
    Spares id draft.forest (hoistStructFunction structs settings draft other).forest := by
  cases takes : structParameter? structs (draft.forest.functionAt other) with
  | none =>
      rw [hoistStructFunction_of_none takes]
      exact .refl _ _
  | some className =>
      rw [forest_hoistStructFunction rfl takes rfl]
      have required := Spares.requireClass id draft.forest none className
      split
      · split
        · refine required.trans (.trans (.modifyClass fun content isMethod => ?_)
            (.trans (.takeFree _ other) (.modifyFunction different _)))
          rw [Class.withDealloc] at isMethod
          split at isMethod <;> exact isMethod
        · exact required
      · exact required.trans (.trans (.addMethod different)
          (.trans (.takeFree _ other) (.modifyFunction different _)))

theorem spares_staticForest {ids : List FunctionId} (fresh : id ∉ ids) (forest : Forest) :
    Spares id forest (staticForest forest ids) := by
  induction ids generalizing forest with
  | nil => exact .refl _ _
  | cons first rest ih =>
      rw [List.mem_cons, not_or] at fresh
      exact (Spares.modifyFunction fresh.1 makeStatic).trans (ih fresh.2 _)

theorem spares_hoistLeftovers (rootClass : String) (notFree : id ∉ draft.forest.free) :
    Spares id draft.forest (hoistLeftovers rootClass draft).forest := by
  generalize isStatic : staticForest draft.forest draft.forest.free = static
  generalize isRequired : static.requireClass none rootClass = required
  have sameFree : required.1.free = draft.forest.free := by
    rw [← isRequired, ← isStatic]
    exact free_staticForest _ _
  have made : Spares id draft.forest static := isStatic ▸ spares_staticForest notFree _
  have requires : Spares id static required.1 := isRequired ▸ .requireClass id static none rootClass
  have adopts : Spares id required.1 (required.1.modifyClass required.2
      fun c => { c with methods := c.methods ++ required.1.free }) := by
    refine .modifyClass fun content isMethod => ?_
    exact (List.mem_append.1 isMethod).resolve_right (sameFree ▸ notFree)
  rw [forest_hoistLeftovers isStatic isRequired]
  refine made.trans (requires.trans (adopts.trans ?_))
  exact ⟨rfl, fun isFree => (nomatch isFree), fun _ isMethod => isMethod⟩

theorem spares_hoistAllocators (notFree : id ∉ draft.forest.free) :
    Spares id draft.forest (hoistAllocators structs settings draft).forest :=
  spares_foldl (fun _ => True) (fun _ _ => trivial) (fun _ _ isFree _ =>
    spares_hoistAllocator fun same => notFree (same ▸ isFree)) trivial

theorem spares_hoistStructFunctions (notFree : id ∉ draft.forest.free) :
    Spares id draft.forest (hoistStructFunctions structs settings draft).forest :=
  spares_foldl (fun _ => True) (fun _ _ => trivial) (fun _ _ isFree _ =>
    spares_hoistStructFunction fun same => notFree (same ▸ isFree)) trivial

theorem spares_hoist {rootClass : String} {header : HeaderDeclarations}
    (notFree : id ∉ draft.forest.free) :
    Spares id draft.forest (Conversion.hoist settings rootClass header draft).forest := by
  have allocators : Spares id draft.forest
      (hoistAllocators header.structs settings draft).forest := spares_hoistAllocators notFree
  have stillNotFree := fun isFree => notFree (allocators.free isFree)
  have structFunctions : Spares id (hoistAllocators header.structs settings draft).forest
      (hoistStructFunctions header.structs settings
        (hoistAllocators header.structs settings draft)).forest :=
    spares_hoistStructFunctions stillNotFree
  exact allocators.trans (structFunctions.trans (spares_hoistLeftovers rootClass
    fun isFree => stillNotFree (structFunctions.free isFree)))

end Hoisting

/-! ## Passes over methods -/

namespace Hoisting

theorem spares_stripClassPrefixes (classes : List ClassId) (noMethod : draft.forest.NoMethod id) :
    Spares id draft.forest (stripClassPrefixes classes draft).forest :=
  spares_foldl (NoMethod id) Spares.noMethod (fun _ _ _ noMethod =>
    spares_foldl (NoMethod id) Spares.noMethod (fun _ _ isMethod _ =>
      .modifyFunction (noMethod.ne isMethod) _) noMethod) noMethod

end Hoisting

namespace NumberHandles

theorem spares_relocate {found : Match} (different : id ≠ found.function) :
    Spares id draft.forest (relocate settings draft found).forest := by
  rw [relocate]
  dsimp only
  split
  · exact .modifyFunction different _
  · have required : Spares id draft.forest
        ((draft.requireClass (some found.c) (Identifier.snakeToPascal found.base)).1.modifyFunction
          found.function (·.dropParameter 0)).forest := by
      rw [Draft.forest_modifyFunction, Draft.forest_requireClass]
      exact (Spares.requireClass id _ _ _).trans (.modifyFunction different _)
    split
    · refine required.trans (.trans (.modifyClass fun content isMethod => ?_)
        (.moveMethod different _ _))
      exact isMethod
    · exact required

theorem spares_round (settings : Settings) (noMethod : draft.forest.NoMethod id) :
    Spares id draft.forest (round settings draft).1.forest := by
  have relocates : Spares id draft.forest (relocateMethods settings draft).1.forest := by
    refine spares_foldl (fun _ => True) (fun _ _ => trivial) (fun _ found member _ => ?_) trivial
    refine spares_relocate fun same => ?_
    exact noMethod.ne (mem_findMatches_iff.1 member).1 same
  exact relocates.trans (Hoisting.spares_stripClassPrefixes _ (relocates.noMethod noMethod))

end NumberHandles

theorem Grouping.spares_settleHandles (settings : Settings) (noMethod : draft.forest.NoMethod id) :
    Spares id draft.forest (reached (settleHandles settings draft)).forest :=
  kept_settleHandles settings (fun _ spares =>
    spares.trans (NumberHandles.spares_round settings (spares.noMethod noMethod))) (.refl _ _)

namespace Listeners

theorem spares_listen (settings : Settings) (signature : FunctionDeclaration)
    (present : id < forest.functionCount) :
    Spares id forest (listen settings forest signature) := by
  have adds : Spares id forest (forest.addFunction
      ((signature.intake settings).rename settings.canonical.callback)) :=
    .addFunction present _
  refine adds.trans (.trans (.requireClass id _ none (listenerName signature)) ?_)
  refine .modifyClass fun content isMethod => ?_
  exact (List.mem_append.1 isMethod).resolve_right fun isNew =>
    Nat.ne_of_lt present (List.mem_singleton.1 isNew)

theorem spares_foldl_listen (settings : Settings) (signatures : List FunctionDeclaration)
    (present : id < forest.functionCount) :
    Spares id forest (signatures.foldl (listen settings) forest) := by
  induction signatures generalizing forest with
  | nil => exact .refl _ _
  | cons signature rest ih =>
      have grows := (move_listen settings forest signature).functionCount_le
      exact (spares_listen settings signature present).trans
        (ih (Nat.lt_of_lt_of_le present grows))

theorem spares_extract (settings : Settings) (typedefs : List TypedefDeclaration)
    (present : id < draft.forest.functionCount) :
    Spares id draft.forest (extract settings typedefs draft).1.forest :=
  forest_extract ▸ spares_foldl_listen settings _ present

end Listeners

namespace Sizing

/-- A rule tells no function but the one that it comes to, and takes nothing in. -/
theorem Resolves.spares {kinds : Set MoveKind}
    (resolves : Resolves settings kinds c other before after) (different : id ≠ other) :
    Spares id before after := by
  cases resolves with
  | skip => exact .refl _ _
  | @tell kind keyword accessor taken change tells sought found takes told =>
      have leaves : Spares id before taken := by
        rcases takes with rfl | ⟨-, -, -, rfl⟩
        · exact .refl _ _
        · have removed : Spares id before (before.removeMethod c accessor) :=
            .removeMethod c accessor
          exact ⟨removed.function, removed.free, removed.method⟩
      exact leaves.trans (.modifyFunction different _)

variable (noMethod : draft.forest.NoMethod id)

include noMethod

theorem spares_resolveReturns :
    Spares id draft.forest (reached (resolveReturns settings draft)).forest :=
  spares_tryForEachMethod (fun _ _ _ different _ => resolves_resolveReturn.spares different)
    noMethod

theorem spares_resolveFilledBuffers :
    Spares id draft.forest (reached (resolveFilledBuffers settings draft)).forest :=
  spares_tryForEachMethod (fun _ _ _ different _ => resolves_resolveFilled.spares different)
    noMethod

theorem spares_resolveSetters : Spares id draft.forest (resolveSetters settings draft).forest :=
  spares_forEachMethod (fun _ _ _ different _ => resolves_resolveSetter.spares different) noMethod

theorem spares_resolveOverrides :
    Spares id draft.forest (resolveOverrides settings draft).forest :=
  spares_forEachMethod (fun _ _ _ different _ => resolves_resolveOverride.spares different)
    noMethod

theorem spares_resolveResiduals :
    Spares id draft.forest (resolveResiduals settings draft).forest :=
  spares_forEachMethod (fun _ _ _ different _ =>
    spares_foldl (fun _ => True) (fun _ _ => trivial)
      (fun _ _ _ _ => resolves_resolveResidual.spares different) trivial) noMethod

end Sizing

namespace Corrections

theorem spares_extractInitializers :
    Spares id draft.forest (extractInitializers settings draft).forest := by
  refine spares_foldl (fun _ => True) (fun _ _ => trivial) (fun draft c _ _ => ?_) trivial
  rcases extractInitializer_cases draft c with same | ⟨name, method, -, -, taken⟩
  · rw [same]
    exact .refl _ _
  · rw [taken]
    exact .modifyClass fun _ isMethod => List.mem_of_mem_erase isMethod

theorem spares_applyRenames (settings : Settings) (noMethod : draft.forest.NoMethod id) :
    Spares id draft.forest (applyRenames settings draft).forest := by
  refine spares_foldl (NoMethod id) Spares.noMethod (fun draft c _ noMethod => ?_) noMethod
  rw [renameMembers]
  split
  · exact .refl _ _
  · rename_i names _
    have properties : Spares id draft.forest (draft.modifyClass c fun c =>
        { c with properties := c.properties.map (renameProperty names.properties) }).forest :=
      .modifyClass fun _ isMethod => isMethod
    refine properties.trans (spares_foldl (NoMethod id) Spares.noMethod
      (fun draft other isMethod still => ?_) (properties.noMethod noMethod))
    rw [renameMethod]
    split
    · exact .modifyFunction ((properties.noMethod noMethod).ne isMethod) _
    · exact .refl _ _

end Corrections

namespace Accessors

theorem spares_addProperty {name : String} {isStatic : Bool} (different : id ≠ other) :
    Spares id draft.forest (addProperty settings draft c other name isStatic).forest := by
  rw [forest_addProperty]
  exact (Spares.modifyFunction different _).trans
    (.modifyClass fun _ isMethod => List.mem_of_mem_erase isMethod)

theorem spares_foldAccessor (different : id ≠ other) (noMethod : draft.forest.NoMethod id) :
    Spares id draft.forest (foldAccessor settings c other draft).forest := by
  have folding := folding_foldAccessor settings c other draft
  generalize foldAccessor settings c other draft = folded at folding ⊢
  cases folding with
  | skip => exact .refl _ _
  | property => exact spares_addProperty different
  | @accessors name setter getter isSetter called single =>
      have added : Spares id draft.forest (addProperty settings draft c other name false).forest :=
        spares_addProperty different
      have isOther : id ≠ setter := (added.noMethod noMethod).ne isSetter
      exact added.trans (.trans (.modifyFunction isOther _)
        (.modifyClass fun _ isMethod => List.mem_of_mem_erase isMethod))

theorem spares_foldStatic (different : id ≠ other) :
    Spares id draft.forest (foldStatic settings c other draft).forest := by
  rw [foldStatic]
  split
  · exact spares_addProperty different
  · exact .refl _ _

theorem spares_foldForced (different : id ≠ other) :
    Spares id draft.forest (foldForced settings c other draft).forest := by
  rw [foldForced]
  split
  · exact spares_addProperty different
  · exact .refl _ _

variable (noMethod : draft.forest.NoMethod id)

include noMethod

theorem spares_foldAccessors : Spares id draft.forest (foldAccessors settings draft).forest :=
  spares_forEachMethod (fun _ _ _ different still => spares_foldAccessor different still) noMethod

theorem spares_foldStatics : Spares id draft.forest (foldStatics settings draft).forest :=
  spares_forEachMethod (fun _ _ _ different _ => spares_foldStatic different) noMethod

theorem spares_foldForcedProperties :
    Spares id draft.forest (foldForcedProperties settings draft).forest :=
  spares_forEachMethod (fun _ _ _ different _ => spares_foldForced different) noMethod

end Accessors

end Bindery
