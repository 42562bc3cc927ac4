import Bindery.Proofs.HandleKinds
import Bindery.Proofs.Hearing
import Bindery.Proofs.Words

/-!
# Accessors that several buffers share

A static function is in sight of every class, so that any number of buffers can be sized by it.  A
search takes what it finds off the class of the buffer by its name only, static or not.  So a static
function with no marker of accessors in its name is never taken away, and as long as the settings do
not ask for its name it stays a method, or becomes a static property, for all buffers to come.
-/

namespace Bindery

open Sizing

variable {settings : Settings} {kind : MoveKind} {kinds : Set MoveKind} {draft : Draft}
  {before after forest : Forest} {c place : ClassId} {id other : FunctionId}
  {name className : String} {function changed : Function} {entry : FunctionId × Bool}

/-- What the buffers of all classes can share, by the name that a search goes by: a static method,
or the getter of a static property. -/
inductive Forest.Shared (forest : Forest) : String → FunctionId → Prop
  | method {c : ClassId} {id : FunctionId} (isMethod : id ∈ forest.methods c)
      (isStatic : (forest.functionAt id).isStatic = true) :
      Shared forest (forest.functionAt id).name id
  | property {c : ClassId} {property : Property}
      (isProperty : property ∈ (forest.classAt c).properties)
      (isStatic : property.isStatic = true) : Shared forest property.name property.getter

/-- Whether a function is shared under some name. -/
def Forest.Shares (id : FunctionId) (forest : Forest) : Prop :=
  ∃ name, forest.Shared name id

/-- Whether the settings ask for a function in no class that has it as a method. -/
def Forest.NoneClaims (settings : Settings) (id : FunctionId) (forest : Forest) : Prop :=
  ∀ c ∈ forest.allClasses, id ∈ forest.methods c →
    Unclaimed settings (forest.className c) (forest.functionAt id).name

instance : Decidable (forest.NoneClaims settings id) :=
  inferInstanceAs (Decidable (∀ _ ∈ _, _))

/-- Whether all that was taken off its class has a marker of accessors in its name. -/
def Forest.DetachesMarked (settings : Settings) (forest : Forest) : Prop :=
  ∀ entry ∈ forest.detached, isAccessorName settings (forest.functionAt entry.1).name = true

namespace Forest

theorem shares_iff : forest.Shares id ↔
    (∃ c, id ∈ forest.methods c ∧ (forest.functionAt id).isStatic = true) ∨
      ∃ c, (id, true) ∈ forest.folds c := by
  constructor
  · rintro ⟨name, shared⟩
    cases shared with
    | method isMethod isStatic => exact .inl ⟨_, isMethod, isStatic⟩
    | property isProperty isStatic =>
        exact .inr ⟨_, mem_folds_iff.2 ⟨_, isProperty, rfl, isStatic⟩⟩
  · rintro (⟨c, isMethod, isStatic⟩ | ⟨c, folded⟩)
    · exact ⟨_, .method isMethod isStatic⟩
    · obtain ⟨property, isProperty, rfl, isStatic⟩ := mem_folds_iff.1 folded
      exact ⟨_, .property isProperty isStatic⟩

theorem Shared.inSight (shared : forest.Shared name id) (c : ClassId) :
    InSight forest c name id := by
  cases shared with
  | method isMethod isStatic => exact .method isMethod isStatic
  | property isProperty isStatic => exact .property isProperty isStatic

theorem NoneClaims.of_mem_methods (unclaimed : forest.NoneClaims settings id)
    (isMethod : id ∈ forest.methods c) :
    Unclaimed settings (forest.className c) (forest.functionAt id).name :=
  unclaimed c (Hierarchy.mem_all_iff.2 (lt_size_of_mem_methods isMethod)) isMethod

end Forest

/-! ## What moves keep -/

theorem Step.isStatic_of_isStatic (step : Step settings kind function changed)
    (isStatic : function.isStatic = true) : changed.isStatic = true := by
  by_cases settled : kind ∈ settledKinds
  · rw [(step.throws_eq settled).2, isStatic]
  · cases step with
    | descend => exact isStatic
    | edit edited =>
        cases edited with
        | convertError | makeMethod => exact isStatic
        | makeAllocator | makeDeallocator | makeStatic => rfl
        | _ => simp [settledKinds] at settled

namespace Move

/-- A method that moves to a class further down stays a method. -/
theorem exists_method (move : Move settings kind before after) (roams : kind ∈ roamingKinds)
    (isMethod : id ∈ before.methods c) : ∃ place, id ∈ after.methods place := by
  by_cases descends : kind = .descend
  · subst descends
    cases move with
    | @descend _ outer inner moved first rest isMoved valid isInner leading marked =>
        have different : outer ≠ inner := Nat.ne_of_lt (Hierarchy.parent_lt isInner)
        by_cases isThis : id = moved
        · subst isThis
          refine ⟨inner, ?_⟩
          rw [Forest.methods, Forest.classAt_descend_inner isMoved different valid]
          exact List.mem_append_right _ List.mem_cons_self
        · refine ⟨c, ?_⟩
          rw [Forest.methods] at isMethod ⊢
          by_cases isInnerClass : c = inner
          · subst isInnerClass
            rw [Forest.classAt_descend_inner isMoved different valid]
            exact List.mem_append_left _ isMethod
          · by_cases isOuterClass : c = outer
            · subst isOuterClass
              rw [Forest.classAt_descend_outer isMoved different]
              exact Stands.mem_removeMethod isThis isMethod
            · rwa [Forest.classAt_descend_of_ne isMoved different _ isOuterClass isInnerClass]
  · have stays : kind ∈ stayingKinds := by simpa [stayingKinds, roamingKinds, descends] using roams
    exact ⟨c, move.mem_methods stays isMethod⟩

theorem mem_folds (move : Move settings kind before after) (folded : entry ∈ before.folds c) :
    entry ∈ after.folds c := by
  by_cases adds : kind = .addProperty
  · subst adds
    cases move with
    | @addProperty _ owner getter isMethod name isStatic =>
        rw [Forest.folds] at folded ⊢
        rcases before.classAt_modifyClass_or owner (fun content =>
            { content.removeMethod getter with
              properties :=
                content.properties ++ [{ name, getter, setter := none, isStatic }] }) c with
          same | ⟨-, changed⟩
        · rwa [same]
        · rw [changed, List.map_append]
          exact List.mem_append_left _ folded
  · rwa [move.folds_eq adds]

/-- Nothing else detaches anything. -/
theorem detached_subset (move : Move settings kind before after) (keeps : kind ≠ .detach) :
    after.detached ⊆ before.detached :=
  fun _ isDetached => (move.mem_detached isDetached).resolve_right fun detaches => keeps detaches.1

end Move

namespace Moves

theorem exists_method (moves : Moves settings kinds before after) (roams : kinds ⊆ roamingKinds)
    (isMethod : id ∈ before.methods c) : ∃ place, id ∈ after.methods place := by
  induction moves with
  | refl => exact ⟨c, isMethod⟩
  | tail _ last ih =>
      obtain ⟨kind, allowed, move⟩ := last
      obtain ⟨place, still⟩ := ih
      exact move.exists_method (roams allowed) still

theorem mem_folds (moves : Moves settings kinds before after) (folded : entry ∈ before.folds c) :
    entry ∈ after.folds c := by
  induction moves with
  | refl => exact folded
  | tail _ last ih =>
      obtain ⟨kind, -, move⟩ := last
      exact move.mem_folds ih

theorem detached_subset (moves : Moves settings kinds before after) (keeps : .detach ∉ kinds) :
    after.detached ⊆ before.detached := by
  induction moves with
  | refl => exact List.Subset.refl _
  | tail _ last ih =>
      obtain ⟨kind, allowed, move⟩ := last
      exact List.Subset.trans (move.detached_subset fun same => keeps (same ▸ allowed)) ih

/-- A shared function can only be lost where it stops being a method. -/
theorem shares (moves : Moves settings kinds before after) (sound : before.Sound)
    (shares : before.Shares id)
    (stays : ∀ c, id ∈ before.methods c → (before.functionAt id).isStatic = true →
      (∃ place, id ∈ after.methods place) ∨ after.Shares id) : after.Shares id := by
  rcases Forest.shares_iff.1 shares with ⟨c, isMethod, isStatic⟩ | ⟨c, folded⟩
  · rcases stays c isMethod isStatic with ⟨place, still⟩ | done
    · refine Forest.shares_iff.2 (.inl ⟨place, still, ?_⟩)
      exact moves.functionAt_induction (·.isStatic = true) (sound.lt_of_mem_methods isMethod)
        isStatic fun _ step => step.isStatic_of_isStatic
    · exact done
  · exact Forest.shares_iff.2 (.inr ⟨c, moves.mem_folds folded⟩)

end Moves

/-! ## What the rules for buffers keep -/

namespace Sizing

variable {step : ClassId → FunctionId → Draft → Except Stopped Draft} {pass : Pass}

theorem takes_of_resolves (resolves : Resolves settings kinds c id before after) :
    Takes (fun name => isAccessorName settings name = true) before after := by
  cases resolves with
  | skip => exact .refl _
  | tell _ _ _ takes told =>
      rcases takes with rfl | ⟨-, -, marked, rfl⟩
      · exact .modifyFunction told.retains.name told.retains.isStatic
      · exact (Takes.detachMethod marked).trans
          (.modifyFunction told.retains.name told.retains.isStatic)

/-- What the rules do when they come to a method, in the order of the rules. -/
def steps (settings : Settings) : List (ClassId → FunctionId → Draft → Except Stopped Draft) :=
  [ resolveReturn settings,
    resolveFilled settings,
    fun c id draft => .ok (resolveSetter settings c id draft),
    fun c id draft => .ok (resolveOverride settings c id draft),
    fun _ id draft => .ok <| draft.modifyFunction id fun function =>
      { function with params := pairLengths settings.markers.length function.params },
    fun c id draft => .ok <| (List.range (draft.forest.functionAt id).params.length).foldl
      (resolveResidual settings c id) draft ]

/-- The pass that takes a step for every method. -/
def everyMethod (step : ClassId → FunctionId → Draft → Except Stopped Draft) : Pass :=
  fun draft => draft.tryForEachMethod step

theorem passes_eq_steps (settings : Settings) :
    passes settings = (steps settings).map everyMethod := by
  have total (step : ClassId → FunctionId → Draft → Draft) :
      everyMethod (fun c id draft => .ok (step c id draft)) =
        Pass.ofTotal fun draft => draft.forEachMethod step :=
    funext fun draft => tryForEachMethod_ok step draft
  simp only [steps, List.map_cons, List.map_nil, total]
  rfl

theorem takes_of_mem_steps (isStep : step ∈ steps settings) (draft : Draft) (c : ClassId)
    (id : FunctionId) :
    Takes (fun name => isAccessorName settings name = true) draft.forest
      (reached (step c id draft)).forest := by
  simp only [steps, List.mem_cons, List.not_mem_nil, or_false] at isStep
  rcases isStep with rfl | rfl | rfl | rfl | rfl | rfl
  · exact takes_of_resolves resolves_resolveReturn
  · exact takes_of_resolves resolves_resolveFilled
  · exact takes_of_resolves resolves_resolveSetter
  · exact takes_of_resolves resolves_resolveOverride
  · exact .modifyFunction rfl rfl
  · refine kept_foldl (fun forest _ takes => takes.trans ?_) (.refl _)
    exact takes_of_resolves resolves_resolveResidual

theorem takes_of_mem_passes (member : pass ∈ passes settings) (draft : Draft) :
    Takes (fun name => isAccessorName settings name = true) draft.forest
      (reached (pass draft)).forest := by
  rw [passes_eq_steps] at member
  obtain ⟨step, isStep, rfl⟩ := List.mem_map.1 member
  exact kept_tryForEachMethod
    (fun draft c id takes => takes.trans (takes_of_mem_steps isStep draft c id)) (.refl _)

/-- A shared function that the settings do not ask for is not taken away. -/
theorem Takes.shared (takes : Takes (fun name => isAccessorName settings name = true) before after)
    (shared : before.Shared name id) (unclaimed : before.NoneClaims settings id) :
    after.Shared name id := by
  cases shared with
  | @method c id isMethod isStatic =>
      have stays : id ∈ after.methods c := by
        by_contra isGone
        have marked := (takes.gone c id isMethod isGone).1
        simp [(unclaimed.of_mem_methods isMethod).unmarked] at marked
      rw [← takes.isStatic] at isStatic
      rw [← takes.name]
      exact .method stays isStatic
  | property isProperty isStatic =>
      rw [← takes.properties] at isProperty
      exact .property isProperty isStatic

/-- A draft with which one of the rules comes to a method. -/
inductive TurnOf (settings : Settings) (start : Draft) (c : ClassId) (id : FunctionId)
    (turn : Draft) : Prop
  | intro {front back : List (ClassId → FunctionId → Draft → Except Stopped Draft)}
      {step : ClassId → FunctionId → Draft → Except Stopped Draft} {entered : Draft}
      (isStep : steps settings = front ++ step :: back)
      (enters : Pass.run (front.map everyMethod) start = .ok entered)
      (comes : ComesTo step entered c id turn)

theorem TurnOf.takes {start turn : Draft} (isTurn : TurnOf settings start c id turn) :
    Takes (fun name => isAccessorName settings name = true) start.forest turn.forest := by
  obtain @⟨front, back, step, entered, isStep, enters, comes⟩ := isTurn
  have toEntry : Takes (fun name => isAccessorName settings name = true) start.forest
      (reached (.ok entered)).forest := by
    rw [← enters]
    refine Pass.kept_run (fun pass member draft takes => takes.trans ?_) (.refl _)
    apply takes_of_mem_passes
    rw [passes_eq_steps, isStep, List.map_append]
    exact List.mem_append_left _ member
  have isRule : step ∈ steps settings := by simp [isStep]
  exact comes.kept
    (fun draft c id takes => takes.trans (takes_of_mem_steps isRule draft c id)) toEntry

end Sizing

/-! ## What passes keep -/

namespace Accessors

theorem isStatic_addProperty {isStatic : Bool} :
    ((addProperty settings draft c other name isStatic).forest.functionAt id).isStatic =
      (draft.forest.functionAt id).isStatic := by
  rw [forest_addProperty, Forest.functionAt_modifyClass]
  by_cases isThis : id = other
  · subst isThis
    rcases draft.forest.functionAt_modifyFunction_or id (·.rename settings.canonical.getter) with
      renamed | ⟨absent, still⟩
    · rw [renamed]
      rfl
    · rw [still, absent]
  · rw [Forest.functionAt_modifyFunction_of_ne isThis]

/-- A static property has the method for its getter that it takes off the class. -/
theorem shares_addProperty (shares : draft.forest.Shares id) :
    (addProperty settings draft place other name true).forest.Shares id := by
  have content (c : ClassId) :
      (addProperty settings draft place other name true).forest.classAt c = draft.forest.classAt c ∨
        (addProperty settings draft place other name true).forest.classAt c =
          { (draft.forest.classAt c).removeMethod other with
            properties := (draft.forest.classAt c).properties ++
              [{ name, getter := other, setter := none, isStatic := true }] } := by
    rw [forest_addProperty]
    exact ((draft.forest.modifyFunction other _).classAt_modifyClass_or place _ c).imp_right
      And.right
  rw [Forest.shares_iff] at shares ⊢
  rw [isStatic_addProperty]
  rcases shares with ⟨c, isMethod, isStatic⟩ | ⟨c, folded⟩
  · rcases content c with same | added
    · exact .inl ⟨c, by rwa [Forest.methods, same], isStatic⟩
    · by_cases isThis : id = other
      · refine .inr ⟨c, ?_⟩
        simp [Forest.folds, added, isThis]
      · refine .inl ⟨c, ?_, isStatic⟩
        rw [Forest.methods, added]
        exact Stands.mem_removeMethod isThis isMethod
  · refine .inr ⟨c, ?_⟩
    rw [Forest.folds] at folded ⊢
    rcases content c with same | added
    · rwa [same]
    · rw [added, List.map_append]
      exact List.mem_append_left _ folded

/-- A static method without parameters becomes a static property. -/
theorem shares_foldStatic (shares : draft.forest.Shares id) :
    (foldStatic settings place other draft).forest.Shares id := by
  unfold foldStatic
  dsimp only
  split
  · exact shares_addProperty shares
  · exact shares

end Accessors

namespace Pass

variable {pass : Pass}

/-- Whether a function that is shared, and that the settings do not ask for, still is shared after a
pass, wherever the pass ends. -/
def KeepsShared (settings : Settings) (pass : Pass) : Prop :=
  ∀ (draft : Draft) (id : FunctionId), draft.forest.Sound → draft.forest.Shares id →
    draft.forest.NoneClaims settings id → (reached (pass draft)).forest.Shares id

/-- A pass after which every method still is one. -/
theorem Makes.keepsShared (makes : pass.Makes settings kinds) (roams : kinds ⊆ roamingKinds) :
    pass.KeepsShared settings := fun draft _ sound shares _ =>
  (makes draft sound).shares sound shares fun _ isMethod _ =>
    .inl ((makes draft sound).exists_method roams isMethod)

/-- A pass that takes methods by their names. -/
theorem Makes.keepsShared_of_stands (makes : pass.Makes settings kinds)
    (keeps : ∀ {draft : Draft} {className name : String} {c : ClassId} {id : FunctionId},
      Unclaimed settings className name → Stands className name true c id draft.forest →
      Stands className name true c id (reached (pass draft)).forest) :
    pass.KeepsShared settings := by
  intro draft id sound shares unclaimed
  refine (makes draft sound).shares sound shares fun c isMethod isStatic => .inl ⟨c, ?_⟩
  have stands : Stands _ _ true c id draft.forest := ⟨rfl, isMethod, rfl, isStatic⟩
  exact (keeps (unclaimed.of_mem_methods isMethod) stands).isMethod

end Pass

namespace Conversion

variable {rootClass : String} {header : HeaderDeclarations} {pass : Pass}

/-- What a pass of a header does to methods: it is a rule for buffers, which may detach some, it
takes some to be members of their classes, or it lets all of them be methods. -/
inductive PassKind (settings : Settings) : Pass → Prop
  | sizes {pass : Pass} (isRule : pass ∈ Sizing.passes settings) : PassKind settings pass
  | initializes : PassKind settings (Pass.ofTotal (Corrections.extractInitializers settings))
  | foldsAccessors : PassKind settings (Pass.ofTotal (Accessors.foldAccessors settings))
  | foldsStatics : PassKind settings (Pass.ofTotal (Accessors.foldStatics settings))
  | foldsForced : PassKind settings (Pass.ofTotal (Accessors.foldForcedProperties settings))
  | roams {pass : Pass} (makes : pass.Makes settings roamingKinds) : PassKind settings pass

theorem passKind_of_mem_passes (member : pass ∈ passes settings rootClass header) :
    PassKind settings pass := by
  have roams {pass : Pass} {kinds : Set MoveKind} (makes : pass.Makes settings kinds)
      (roaming : kinds ⊆ roamingKinds) : PassKind settings pass := .roams (makes.mono roaming)
  simp only [passes, Grouping.passes, Accessors.passes, List.mem_append, List.mem_cons,
    List.not_mem_nil, or_false, or_assoc] at member
  rcases member with rfl | rfl | rfl | rfl | rfl | rfl | rfl | rfl | rfl | rfl | rfl | isRule |
    rfl | rfl | rfl | rfl | rfl | rfl | rfl | rfl
  · exact roams (.ofNote fun _ => rfl) (Set.empty_subset _)
  · exact roams (makes_takeEnums settings header.enums) (by simp [roamingKinds])
  · exact roams (makes_takeFunctions settings header.functions) (by simp [roamingKinds])
  · exact roams (Throwing.makes_convertErrorParameters settings) (by simp [roamingKinds])
  · exact roams (Hoisting.makes_hoistAllocators settings header.structs)
      (by simp [roamingKinds, Set.subset_def])
  · exact roams (Hoisting.makes_hoistStructFunctions settings header.structs)
      (by simp [roamingKinds, Set.subset_def])
  · exact roams (Hoisting.makes_hoistLeftovers settings rootClass)
      (by simp [roamingKinds, Set.subset_def])
  · exact roams (Grouping.makes_stripRootPrefixes settings) (by simp [roamingKinds])
  · exact roams (Grouping.makes_settleHandles settings)
      (by simp [roamingKinds, NumberHandles.roundKinds, Set.subset_def])
  · exact roams (Listeners.makes_extract settings header.typedefs) (by simp [roamingKinds])
  · exact roams (NumberHandles.makes_convertLeftoverParameters settings) (by simp [roamingKinds])
  · exact .sizes isRule
  · exact roams (Corrections.makes_retypeHandleReturns settings) (by simp [roamingKinds])
  · exact .initializes
  · exact .foldsAccessors
  · exact roams (Accessors.makes_dropSuccessReturns settings) (by simp [roamingKinds])
  · exact .foldsStatics
  · exact .foldsForced
  · exact roams (Corrections.makes_applyRenames settings) (by simp [roamingKinds, Set.subset_def])
  · exact roams (.ofNote fun _ => rfl) (Set.empty_subset _)

namespace PassKind

/-- Only the rules for buffers detach methods. -/
theorem makes (isKind : PassKind settings pass) :
    pass ∈ Sizing.passes settings ∨ pass.Makes settings {kind | kind ≠ .detach} := by
  cases isKind with
  | sizes isRule => exact .inl isRule
  | initializes =>
      exact .inr ((Corrections.makes_extractInitializers settings).mono (by simp))
  | foldsAccessors =>
      exact .inr ((Accessors.makes_foldAccessors settings).mono (by simp [Set.subset_def]))
  | foldsStatics =>
      exact .inr ((Accessors.makes_foldStatics settings).mono (by simp [Set.subset_def]))
  | foldsForced =>
      exact .inr ((Accessors.makes_foldForcedProperties settings).mono (by simp [Set.subset_def]))
  | roams makes =>
      refine .inr (makes.mono fun kind roaming isDetach => ?_)
      simp [roamingKinds, isDetach] at roaming

theorem keepsShared (isKind : PassKind settings pass) : pass.KeepsShared settings := by
  cases isKind with
  | sizes isRule =>
      intro draft id _ shares unclaimed
      obtain ⟨name, shared⟩ := shares
      exact ⟨name, (takes_of_mem_passes isRule draft).shared shared unclaimed⟩
  | initializes =>
      exact (Corrections.makes_extractInitializers settings).keepsShared_of_stands
        fun unclaimed stands =>
          kept_foldl (fun _ _ stands => stands.extractInitializer unclaimed) stands
  | foldsAccessors =>
      exact (Accessors.makes_foldAccessors settings).keepsShared_of_stands
        fun unclaimed stands =>
          kept_forEachMethod (fun _ _ _ stands => stands.foldAccessor unclaimed) stands
  | foldsStatics =>
      exact fun _ _ _ shares _ =>
        kept_forEachMethod (fun _ _ _ => Accessors.shares_foldStatic) shares
  | foldsForced =>
      exact (Accessors.makes_foldForcedProperties settings).keepsShared_of_stands
        fun unclaimed stands =>
          kept_forEachMethod (fun _ _ _ stands => stands.foldForced unclaimed) stands
  | roams makes => exact makes.keepsShared (Set.Subset.refl _)

end PassKind

/-- What is taken off a class in a pass has a marker in its name, and what was taken off before
rests. -/
theorem detachesMarked_of_mem_passes (member : pass ∈ passes settings rootClass header)
    (draft : Draft) (sound : draft.forest.Sound) (marked : draft.forest.DetachesMarked settings) :
    (reached (pass draft)).forest.DetachesMarked settings := by
  intro entry isDetached
  rcases (passKind_of_mem_passes member).makes with isRule | makes
  · have takes := takes_of_mem_passes isRule draft
    rw [takes.name]
    rcases takes.taken entry isDetached with earlier | isMarked
    · exact marked entry earlier
    · exact isMarked
  · have earlier := (makes draft sound).detached_subset (by simp) isDetached
    have rests := sound.rests (Forest.mem_owners_of_detached earlier) nofun nofun
    rw [(leavesResting_of_mem_passes pass member draft entry.1 sound rests).2.function]
    exact marked entry earlier

/-! ## From one state to those that come after it -/

theorem detachesMarked_between (headers : List HeaderDeclarations) (count : Nat) :
    (between settings headers rootClass header count).forest.DetachesMarked settings := by
  have start : Forest.empty.Closed ∧ Forest.empty.DetachesMarked settings :=
    ⟨Forest.closed_empty, fun _ isDetached => nomatch isDetached⟩
  refine (@kept_between settings rootClass header
    (fun forest => forest.Closed ∧ forest.DetachesMarked settings) ?_ start headers count).2
  intro rootClass header pass member draft holds
  exact ⟨closes_of_mem_passes pass member draft holds.1,
    detachesMarked_of_mem_passes member draft holds.1.sound holds.2⟩

/-- The next state is that after the next pass, unless an earlier one gave up. -/
theorem between_succ (settings : Settings) (headers : List HeaderDeclarations) (rootClass : String)
    (header : HeaderDeclarations) (count : Nat) :
    between settings headers rootClass header (count + 1) =
        between settings headers rootClass header count ∨
      ∃ pass ∈ passes settings rootClass header,
        between settings headers rootClass header (count + 1) =
          reached (pass (between settings headers rootClass header count)) := by
  rw [between, List.take_add_one, Pass.run_append]
  cases next : (passes settings rootClass header)[count]? with
  | none =>
      left
      rw [between]
      cases Pass.run ((passes settings rootClass header).take count) (goOn settings headers {}) <;>
        rfl
  | some pass =>
      rw [between]
      cases Pass.run ((passes settings rootClass header).take count) (goOn settings headers {}) with
      | error stopped => exact .inl rfl
      | ok draft =>
          refine .inr ⟨pass, List.mem_of_getElem? next, ?_⟩
          change reached (pass draft >>= Pass.run []) = reached (pass draft)
          cases pass draft <;> rfl

theorem shares_between_add {headers : List HeaderDeclarations} {count more : Nat}
    (shares : (between settings headers rootClass header count).forest.Shares id)
    (unclaimed : ∀ step < more,
      (between settings headers rootClass header (count + step)).forest.NoneClaims settings id) :
    (between settings headers rootClass header (count + more)).forest.Shares id := by
  induction more with
  | zero => exact shares
  | succ more ih =>
      have earlier := ih fun step fewer => unclaimed step (Nat.lt_succ_of_lt fewer)
      rcases between_succ settings headers rootClass header (count + more) with
        same | ⟨pass, member, next⟩
      · rw [← Nat.add_assoc, same]
        exact earlier
      · rw [← Nat.add_assoc, next]
        exact (passKind_of_mem_passes member).keepsShared _ id (sound_between headers _) earlier
          (unclaimed more (Nat.lt_succ_self more))

theorem shares_between_of_goOn {headers : List HeaderDeclarations}
    (shares : (goOn settings headers {}).forest.Shares id)
    (unclaimed : ∀ step,
      (between settings headers rootClass header step).forest.NoneClaims settings id)
    (count : Nat) :
    (between settings headers rootClass header count).forest.Shares id := by
  have start : (between settings headers rootClass header 0).forest.Shares id := shares
  rw [← Nat.zero_add count]
  exact shares_between_add start fun step _ => unclaimed (0 + step)

/-- The states of a conversion from one of them on: those after more passes of the header, and,
where it has a root class, those between the passes of the headers that follow. -/
inductive ComesAfter (settings : Settings) (headers : List HeaderDeclarations) (rootClass : String)
    (header : HeaderDeclarations) (count : Nat) (rest : List HeaderDeclarations) : Draft → Prop
  | passes (more : Nat) : ComesAfter settings headers rootClass header count rest
      (between settings headers rootClass header (count + more))
  | headers {front : List HeaderDeclarations} {last : HeaderDeclarations} {lastRoot : String}
      (isRoot : settings.rootClass? header.file = some rootClass)
      (isFront : front ++ [last] <+: rest)
      (isLastRoot : settings.rootClass? last.file = some lastRoot)
      (later : Nat) : ComesAfter settings headers rootClass header count rest
        (between settings (headers ++ header :: front) lastRoot last later)

section Later

variable {headers rest : List HeaderDeclarations} {count : Nat}
  (shares : (between settings headers rootClass header count).forest.Shares id)
  (unclaimed : ∀ later,
    ComesAfter settings headers rootClass header count rest later →
    later.forest.NoneClaims settings id)

include shares unclaimed

/-- The headers that follow start with what is left of the one before them. -/
theorem shares_goOn (isRoot : settings.rootClass? header.file = some rootClass)
    (front : List HeaderDeclarations) (isFront : front <+: rest) :
    (goOn settings (headers ++ header :: front) {}).forest.Shares id := by
  induction front using List.reverseRecOn with
  | nil =>
      have done := @between_of_length_le settings rootClass header isRoot headers
        (count + (passes settings rootClass header).length) (Nat.le_add_left _ _)
      rw [← done]
      exact shares_between_add shares fun step _ => unclaimed _ (.passes step)
  | append_singleton front last ih =>
      have earlier := ih ((List.prefix_append front [last]).trans isFront)
      rw [← List.cons_append, ← List.append_assoc]
      cases isLastRoot : settings.rootClass? last.file with
      | none =>
          rw [goOn_append]
          change (reached (processHeader settings _ last)).forest.Shares id
          rw [processHeader, isLastRoot]
          exact earlier
      | some lastRoot =>
          rw [← between_of_length_le isLastRoot _ (Nat.le_refl _)]
          exact shares_between_of_goOn earlier
            (fun step => unclaimed _ (.headers isRoot isFront isLastRoot step)) _

theorem shares_after {later : Draft}
    (isAfter : ComesAfter settings headers rootClass header count rest later) :
    later.forest.Shares id := by
  cases isAfter with
  | passes more => exact shares_between_add shares fun step _ => unclaimed _ (.passes step)
  | @headers front last lastRoot isRoot isFront isLastRoot later =>
      have start := shares_goOn shares unclaimed isRoot front
        ((List.prefix_append front [last]).trans isFront)
      exact shares_between_of_goOn start
        (fun step => unclaimed _ (.headers isRoot isFront isLastRoot step)) later

end Later

/-- Between any two passes, after headers that failed as well, all that was taken off a class has a
marker of accessors in its name, so that no static function without one ever is.  A function that is
shared, and that the settings do not ask for in the states that come after, is shared in all of
them.  And whatever class a buffer was sized for before, when the next one is to be sized, such a
function is shared still, and no search that it goes by comes to nothing. -/
theorem shares_between (settings : Settings) (headers : List HeaderDeclarations)
    (rootClass : String) (header : HeaderDeclarations) (count : Nat) :
    let state := between settings headers rootClass header count
    state.forest.DetachesMarked settings ∧
    (∀ id rest, state.forest.Shares id →
      (∀ later, ComesAfter settings headers rootClass header count rest later →
        later.forest.NoneClaims settings id) →
      ∀ later, ComesAfter settings headers rootClass header count rest later →
        later.forest.Shares id) ∧
    ∀ name id, state.forest.Shared name id → state.forest.NoneClaims settings id →
      ∀ c other turn, TurnOf settings state c other turn →
        turn.forest.Shared name id ∧ ∀ keyword, isSizeOf settings keyword name = true →
          ∃ accessor, accessor? settings turn.forest keyword c turn.forest.allClasses =
            some accessor := by
  refine ⟨detachesMarked_between headers count, ?_, ?_⟩
  · intro id rest shares unclaimed later isAfter
    exact shares_after shares unclaimed isAfter
  · intro name id shared unclaimed c other turn isTurn
    have still := isTurn.takes.shared shared unclaimed
    exact ⟨still, fun keyword isSize => (still.inSight c).exists_accessor? isSize⟩

/-- Two classes with a key each, and a function that tells the size of any key. -/
def keysOfGroups (sizeName : String) : HeaderDeclarations where
  file := "tox.h"
  functions := [
    { name := "tox_get_key"
      returnType := { name := "void" }
      parameters := [
        { name := "tox", type := { name := "Tox", isPointer := true } },
        { name := "key", type := { name := "uint8_t", isPointer := true } }] },
    { name := "tox_group_get_key"
      returnType := { name := "void" }
      parameters := [
        { name := "group", type := { name := "Tox_Group", isPointer := true } },
        { name := "key", type := { name := "uint8_t", isPointer := true } }] },
    { name := sizeName
      returnType := { name := "size_t" }
      parameters := [{ name := "kind", type := { name := "uint32_t" } }] }]
  structs := ["Tox", "Tox_Group"]

theorem noneClaims_keysOfGroups (more : Nat) :
    (between Settings.default [] "Tox" (keysOfGroups "tox_key_size") (11 + more)).forest.NoneClaims
      Settings.default 2 := by
  have isRoot : Settings.default.rootClass? (keysOfGroups "tox_key_size").file = some "Tox" := by
    decide +kernel
  have early : ∀ step ∈ List.range 15,
      (between Settings.default [] "Tox" (keysOfGroups "tox_key_size")
        (11 + step)).forest.NoneClaims Settings.default 2 := by decide +kernel
  by_cases isEarly : more < 15
  · exact early more (List.mem_range.2 isEarly)
  · have done {count : Nat} (all : 25 ≤ count) :
        between Settings.default [] "Tox" (keysOfGroups "tox_key_size") count =
          goOn Settings.default [keysOfGroups "tox_key_size"] {} :=
      between_of_length_le isRoot [] all
    rw [done (by omega), ← done (Nat.le_refl 25)]
    exact early 14 (by decide)

/-- The key of the group comes after that of the instance, and the function that tells the size of
any key, and does not get it by its name, is found for both. -/
theorem shares_keySize :
    let state := between Settings.default [] "Tox" (keysOfGroups "tox_key_size") 11
    (∀ more, (between Settings.default [] "Tox" (keysOfGroups "tox_key_size")
      (11 + more)).forest.Shares 2) ∧
    ∃ turn, TurnOf Settings.default state 1 1 turn ∧
      (turn.forest.functionAt 0).ret.type.sizeAccessor = some (.getter 2) ∧
      ∃ accessor, accessor? Settings.default turn.forest "key" 1 turn.forest.allClasses =
        some accessor := by
  intro state
  obtain ⟨-, lasts, finds⟩ :=
    shares_between Settings.default [] "Tox" (keysOfGroups "tox_key_size") 11
  have isMethod : 2 ∈ state.forest.methods 0 := by decide +kernel
  have isStatic : (state.forest.functionAt 2).isStatic = true := by decide +kernel
  have isName : (state.forest.functionAt 2).name = "key_size" := by decide +kernel
  have shared : state.forest.Shared "key_size" 2 := isName ▸ .method isMethod isStatic
  have unclaimed : state.forest.NoneClaims Settings.default 2 := noneClaims_keysOfGroups 0
  constructor
  · intro more
    refine lasts 2 [] ⟨"key_size", shared⟩ (fun later isAfter => ?_) _ (.passes more)
    cases isAfter with
    | passes more => exact noneClaims_keysOfGroups more
    | headers _ isFront => simp at isFront
  · obtain ⟨⟨entered, turn⟩, ran, told⟩ := exists_ok_of_told
      (fun drafts : Draft × Draft => decide (drafts.1.forest.allClasses = [0, 1] ∧
        drafts.2.forest.methods 1 = [1] ∧
        (drafts.2.forest.functionAt 0).ret.type.sizeAccessor = some (.getter 2)))
      (show (Pass.run [everyMethod (resolveReturn Settings.default)] state >>= fun entered =>
          [0].foldlM (fun draft d => (draft.forest.methods d).foldlM
            (fun draft id => resolveFilled Settings.default d id draft) draft) entered >>=
          fun turn => .ok (entered, turn)).toOption.map _ = some true by decide +kernel)
    obtain ⟨classes, methods, served⟩ := of_decide_eq_true told
    obtain ⟨first, enters, ran⟩ := exists_ok_of_bind ran
    obtain ⟨second, comes, same⟩ := exists_ok_of_bind ran
    obtain ⟨rfl, rfl⟩ := Prod.mk.inj (Except.ok.inj same)
    have isFirst : steps Settings.default =
        [resolveReturn Settings.default] ++ resolveFilled Settings.default ::
          (steps Settings.default).drop 2 := rfl
    have isTurn : TurnOf Settings.default state 1 1 second :=
      .intro isFirst enters (@ComesTo.intro _ _ _ _ _ [0] [] [] [] _ classes comes methods rfl)
    refine ⟨second, isTurn, served, ?_⟩
    exact (finds "key_size" 2 shared unclaimed 1 1 second isTurn).2 "key" (by decide +kernel)

/-- Where the function gets the size by its name, the key of the instance takes it away, static as
it is, and the conversion ends for want of a size of the key of the group. -/
theorem detached_keySize :
    (∃ entry ∈ (between Settings.default [] "Tox" (keysOfGroups "tox_get_key_size")
        25).forest.detached,
      ((between Settings.default [] "Tox" (keysOfGroups "tox_get_key_size")
        25).forest.functionAt entry.1).isStatic = true) ∧
    ∃ stopped,
      processHeader Settings.default {} (keysOfGroups "tox_get_key_size") = .error stopped ∧
      stopped.cause = .convention (.missingSizeAccessor "ToxGroup" "get_key" ["key"]) :=
  ⟨by decide +kernel, exists_error_of_told Stopped.cause (by decide +kernel)⟩

end Conversion

end Bindery
