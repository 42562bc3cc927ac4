import Bindery.Proofs.Hearing

/-!
# What listeners consist of

A listener is a class at the top that is found by the name of its callback or made for it, so two
callbacks of one name share a listener, and so do a listener and a struct whose names agree once
they are converted.  Nothing that arrives for another name ever comes to it, and the callbacks that
arrive for it stay.
-/

namespace Bindery

variable {settings : Settings} {kind : MoveKind} {kinds : Set MoveKind} {draft final : Draft}
  {before after forest : Forest} {c : ClassId} {id : FunctionId} {slot old : Slot}
  {hierarchy older newer : Hierarchy} {name : String}

/-! ## Classes at the top -/

/-- A class at the top of the given name. -/
structure Hierarchy.TopClass (hierarchy : Hierarchy) (name : String) (c : ClassId) : Prop where
  valid : c < hierarchy.size
  isRoot : hierarchy.parent? c = none
  named : hierarchy.name c = name

namespace Hierarchy.TopClass

theorem grow (top : older.TopClass name c) (growth : older.Extends newer) :
    newer.TopClass name c where
  valid := Nat.lt_of_lt_of_le top.valid growth.size_le
  isRoot := (growth.parent?_eq top.valid).trans top.isRoot
  named := (growth.name_eq top.valid).trans top.named

theorem unique {left right : ClassId} (isLeft : hierarchy.TopClass name left)
    (isRight : hierarchy.TopClass name right) : left = right :=
  Hierarchy.eq_of_parent?_of_name isLeft.valid isRight.valid
    (isLeft.isRoot.trans isRight.isRoot.symm) (isLeft.named.trans isRight.named.symm)

theorem require (hierarchy : Hierarchy) (name : String) :
    (hierarchy.require none name).1.TopClass name (hierarchy.require none name).2 where
  valid := Hierarchy.snd_require_lt name (by simp)
  isRoot := Hierarchy.parent?_require name (by simp)
  named := Hierarchy.name_require name (by simp)

end Hierarchy.TopClass

/-! ## Flags -/

namespace Move

/-- Only the making of a listener flags a class, and no flag is taken off. -/
theorem isCallback_cases (move : Move settings kind before after) (c : ClassId) :
    (after.classAt c).isCallback = (before.classAt c).isCallback ∨
      kind = .listen ∧ (after.classAt c).isCallback = true := by
  rcases move.classAt_step c with same | step
  · exact .inl (congrArg Class.isCallback same)
  · generalize before.classAt c = content at step ⊢
    generalize after.classAt c = changed at step ⊢
    cases step with
    | listen => exact .inr ⟨rfl, rfl⟩
    | allocate | deallocate | arrive =>
        obtain ⟨isCallback, handle, defaultInit, properties, methods⟩ := content
        left
        cases handle with
        | none => rfl
        | some handle => cases handle <;> rfl
    | _ => exact .inl rfl

end Move

namespace Moves

theorem isCallback_eq (moves : Moves settings kinds before after) (listens : .listen ∉ kinds)
    (c : ClassId) : (after.classAt c).isCallback = (before.classAt c).isCallback := by
  induction moves with
  | refl => rfl
  | tail _ last ih =>
      obtain ⟨kind, allowed, move⟩ := last
      rcases move.isCallback_cases c with same | ⟨rfl, -⟩
      · exact same.trans ih
      · exact absurd allowed listens

theorem isCallback (moves : Moves settings kinds before after)
    (flagged : (before.classAt c).isCallback = true) : (after.classAt c).isCallback = true := by
  induction moves with
  | refl => exact flagged
  | tail _ last ih =>
      obtain ⟨kind, -, move⟩ := last
      rcases move.isCallback_cases c with same | ⟨-, flagged⟩
      · exact same.trans ih
      · exact flagged

end Moves

namespace Listeners

section Listen

variable (settings) (forest) (signature : FunctionDeclaration)

theorem classAt_listen_self {c : ClassId}
    (isListener : c = (forest.hierarchy.require none (listenerName signature)).2) :
    (listen settings forest signature).classAt c =
      { (forest.classAt c).addMethod forest.functionCount with isCallback := true } := by
  let added := forest.addFunction
    ((signature.intake settings).rename settings.canonical.callback)
  have valid : c < (added.requireClass none (listenerName signature)).1.hierarchy.size :=
    isListener ▸ Hierarchy.snd_require_lt _ (by simp)
  subst isListener
  have changed := @Forest.classAt_modifyClass_self _ _ (fun c =>
    { c.addMethod forest.functionCount with isCallback := true }) valid
  rw [Forest.classAt_requireClass] at changed
  exact changed

theorem classAt_listen_of_ne {c : ClassId}
    (different : c ≠ (forest.hierarchy.require none (listenerName signature)).2) :
    (listen settings forest signature).classAt c = forest.classAt c := by
  let added := forest.addFunction
    ((signature.intake settings).rename settings.canonical.callback)
  have same : (listen settings forest signature).classAt c =
      (added.requireClass none (listenerName signature)).1.classAt c :=
    Forest.classAt_modifyClass_of_ne different
  rw [same, Forest.classAt_requireClass]
  rfl

/-- The listener of a callback has its function as a method. -/
theorem exists_listener : ∃ c,
    (listen settings forest signature).hierarchy.TopClass (listenerName signature) c ∧
      ((listen settings forest signature).classAt c).isCallback = true ∧
      forest.functionCount ∈ (listen settings forest signature).methods c := by
  refine ⟨_, .require forest.hierarchy (listenerName signature), ?_⟩
  rw [Forest.methods, classAt_listen_self settings forest signature rfl]
  exact ⟨rfl, List.mem_append_right _ (List.mem_singleton_self _)⟩

/-- No other class is flagged. -/
theorem topClass_of_isCallback
    (flagged : ((listen settings forest signature).classAt c).isCallback = true)
    (unflagged : (forest.classAt c).isCallback = false) :
    (listen settings forest signature).hierarchy.TopClass (listenerName signature) c := by
  by_cases same : c = (forest.hierarchy.require none (listenerName signature)).2
  · rw [same]
    exact .require forest.hierarchy (listenerName signature)
  · rw [classAt_listen_of_ne settings forest signature same, unflagged] at flagged
    cases flagged

end Listen

/-- The functions of callbacks come one after the other, each to the listener of its own. -/
theorem exists_listener_foldl {signatures : List FunctionDeclaration} {position : Nat}
    {signature : FunctionDeclaration} (isCallback : signatures[position]? = some signature) :
    ∃ c, (signatures.foldl (listen settings) forest).hierarchy.TopClass
        (listenerName signature) c ∧
      forest.functionCount + position ∈
        (signatures.foldl (listen settings) forest).methods c := by
  induction signatures generalizing forest position with
  | nil => cases isCallback
  | cons first rest ih =>
      cases position with
      | zero =>
          obtain rfl := Option.some.inj isCallback
          obtain ⟨c, top, -, isMethod⟩ := exists_listener settings forest first
          have later := moves_foldl_listen settings (listen settings forest first) rest
          exact ⟨c, top.grow later.hierarchy_extends,
            later.mem_methods (by simp [stayingKinds]) isMethod⟩
      | succ position =>
          have found := @ih (listen settings forest first) position isCallback
          rw [(move_listen settings forest first).functionCount_eq] at found
          rwa [Nat.add_comm position 1, ← Nat.add_assoc]

/-- Whether the classes that are flagged are the listeners of the given callbacks. -/
structure FlagsListeners (signatures : List FunctionDeclaration) (forest : Forest) : Prop where
  named : ∀ c, (forest.classAt c).isCallback = true →
    ∃ signature ∈ signatures, forest.hierarchy.TopClass (listenerName signature) c
  flagged : ∀ signature ∈ signatures, ∃ c,
    forest.hierarchy.TopClass (listenerName signature) c ∧
      (forest.classAt c).isCallback = true

namespace FlagsListeners

variable {signatures : List FunctionDeclaration}

theorem moves (flagged : FlagsListeners signatures before)
    (moves : Moves settings kinds before after) (listens : .listen ∉ kinds) :
    FlagsListeners signatures after where
  named := by
    intro c isCallback
    rw [moves.isCallback_eq listens] at isCallback
    obtain ⟨signature, member, top⟩ := flagged.named c isCallback
    exact ⟨signature, member, top.grow moves.hierarchy_extends⟩
  flagged := by
    intro signature member
    obtain ⟨c, top, isCallback⟩ := flagged.flagged signature member
    exact ⟨c, top.grow moves.hierarchy_extends, moves.isCallback isCallback⟩

theorem listen (settings : Settings) (flagged : FlagsListeners signatures forest)
    (signature : FunctionDeclaration) :
    FlagsListeners (signatures ++ [signature]) (listen settings forest signature) where
  named := by
    intro c isCallback
    cases before : (forest.classAt c).isCallback with
    | true =>
        obtain ⟨earlier, member, top⟩ := flagged.named c before
        exact ⟨earlier, List.mem_append_left _ member,
          top.grow (move_listen settings forest signature).hierarchy_extends⟩
    | false =>
        exact ⟨signature, List.mem_append_right _ (List.mem_singleton_self _),
          topClass_of_isCallback settings forest signature isCallback before⟩
  flagged := by
    intro earlier member
    rcases List.mem_append.1 member with old | isLast
    · obtain ⟨c, top, isCallback⟩ := flagged.flagged earlier old
      have moves := Moves.single (Set.mem_singleton _) (move_listen settings forest signature)
      exact ⟨c, top.grow moves.hierarchy_extends, moves.isCallback isCallback⟩
    · obtain rfl := List.mem_singleton.1 isLast
      obtain ⟨c, top, isCallback, -⟩ := exists_listener settings forest earlier
      exact ⟨c, top, isCallback⟩

theorem foldl (settings : Settings) (flagged : FlagsListeners signatures forest)
    (more : List FunctionDeclaration) :
    FlagsListeners (signatures ++ more) (more.foldl (Listeners.listen settings) forest) := by
  induction more generalizing signatures forest with
  | nil => rwa [List.append_nil]
  | cons signature rest ih =>
      have next := ih (flagged.listen settings signature)
      rwa [List.append_assoc] at next

end FlagsListeners

end Listeners

/-! ## Where functions end up -/

/-- Whether a slot is not the free one, and if it belongs to a class at the top, that class has the
given name. -/
def Slot.Heads (hierarchy : Hierarchy) (name : String) (slot : Slot) : Prop :=
  slot ≠ .free ∧
    ∀ c, slot.home? = some c → hierarchy.parent? c = none → hierarchy.name c = name

/-- From class to class, functions only go down. -/
theorem SlotStep.heads (step : SlotStep hierarchy kind old slot)
    (heads : old.Heads hierarchy name) : slot.Heads hierarchy name := by
  obtain ⟨notFree, named⟩ := heads
  cases step with
  | stay => exact ⟨notFree, named⟩
  | allocate | deallocate | adopt | adoptAll => exact absurd rfl notFree
  | descend isInner =>
      refine ⟨nofun, fun c isHome isRoot => ?_⟩
      obtain rfl := Option.some.inj isHome
      rw [isInner] at isRoot
      cases isRoot
  | _ => exact ⟨nofun, named⟩

theorem Moves.heads (moves : Moves settings kinds before after) (sound : before.Sound)
    (present : id < before.functionCount)
    (start : ∀ slot, (id, slot) ∈ before.owners → slot.Heads before.hierarchy name) :
    ∀ slot, (id, slot) ∈ after.owners → slot.Heads after.hierarchy name :=
  moves.slot_induction (fun hierarchy slot => slot.Heads hierarchy name) sound present start
    (fun growth valid heads => ⟨heads.1, fun c isHome isRoot => by
      rw [growth.name_eq (valid c isHome)]
      exact heads.2 c isHome (growth.isRoot isRoot)⟩)
    (fun _ step heads => step.heads heads)

namespace Conversion

open Listeners NumberHandles

/-- The classes that the functions of a header go to, in the order in which they come, with the
signatures of those that are callbacks. -/
def destinations (settings : Settings) (header : HeaderDeclarations) :
    List (String × Option FunctionDeclaration) :=
  (Intake.functions settings header.functions).map
      (fun function => (Hoisting.destination header.structs settings
        ((settings.rootClass? header.file).getD "")
        (Throwing.withoutError settings function), none))
    ++ (callbacks settings header).map fun signature => (listenerName signature, some signature)

theorem length_destinations (header : HeaderDeclarations) :
    (destinations settings header).length = (arrivals settings header).length := by
  simp [destinations, arrivals, callbacks]

/-- Whether no parameter of a callback ends in the marker of number handles twice over. -/
def SinglyMarked (settings : Settings) (signature : FunctionDeclaration) : Prop :=
  ∀ parameter, .plain parameter ∈ (signature.intake settings).params →
    Text.endsWith parameter.name
      (settings.markers.numberHandle ++ settings.markers.numberHandle) = false

instance (settings : Settings) (signature : FunctionDeclaration) :
    Decidable (SinglyMarked settings signature) :=
  decidable_of_iff (∀ argument ∈ (signature.intake settings).params, ∀ parameter ∈ argument.plain?,
      Text.endsWith parameter.name
        (settings.markers.numberHandle ++ settings.markers.numberHandle) = false)
    ⟨fun each parameter member => each _ member parameter rfl,
      fun each _ member parameter isPlain =>
        each parameter (Argument.plain?_eq_some_iff.1 isPlain ▸ member)⟩

/-- What is known of a function by what arrived in its place: a class at the top that owns it has
the name that it was meant for, and a callback is a method of that class unless the settings or its
parameters take it away. -/
structure Landed (settings : Settings) (entry : String × Option FunctionDeclaration)
    (id : FunctionId) (forest : Forest) : Prop where
  heads : ∀ slot, (id, slot) ∈ forest.owners → slot.Heads forest.hierarchy entry.1
  cname : ∀ signature ∈ entry.2, (forest.functionAt id).cname = signature.name
  hears : ∀ signature ∈ entry.2, KeepsCallback settings (listenerName signature) →
    SinglyMarked settings signature → ∃ c,
      forest.hierarchy.TopClass (listenerName signature) c ∧
        Hears settings (listenerName signature) c id forest ∧
        TakesNoNumber settings (forest.functionAt id)

section Turn

variable {done : List HeaderDeclarations} {header : HeaderDeclarations} {rootClass : String}
  {start : Draft} {entry : String × Option FunctionDeclaration} {position : Nat}
  (turn : Turn settings done header rootClass start final)

include turn

theorem landed_old (present : id < start.forest.functionCount)
    (landed : Landed settings entry id start.forest) : Landed settings entry id final.forest := by
  obtain ⟨course, -⟩ := exists_course turn.finished
  have sound := turn.sound
  have moves := course.moves_final_of_start sound
  constructor
  · exact moves.heads sound present landed.heads
  · intro signature isSource
    exact moves.functionAt_induction (fun function => function.cname = signature.name) present
      (landed.cname signature isSource) fun _ step same => step.cname_eq.trans same
  · intro signature isSource keeps marked
    obtain ⟨c, top, hears, none⟩ := landed.hears signature isSource keeps marked
    exact ⟨c, top.grow moves.hierarchy_extends,
      course.hears_final sound keeps
        (course.hears_listened_of_old sound keeps turn.accounted.free hears none),
      none.moves moves present⟩

theorem landed_function {declared : Function}
    (isDeclared : (Intake.functions settings header.functions)[position]? = some declared) :
    Landed settings (Hoisting.destination header.structs settings
        ((settings.rootClass? header.file).getD "") (Throwing.withoutError settings declared), none)
      (start.forest.functionCount + position) final.forest := by
  obtain ⟨course, -⟩ := exists_course turn.finished
  have sound := turn.sound
  obtain ⟨isFree, throws, isFunction⟩ := course.converted_at turn.accounted.free isDeclared
  refine ⟨?_, nofun, nofun⟩
  rw [turn.isRoot, Option.getD_some]
  refine (course.moves_settled sound).heads (course.sound_hoisted sound)
    (course.present_hoisted sound isFree) fun slot owned => ?_
  obtain ⟨home, -, isHome, -, named⟩ :=
    (course.fits_hoisted sound turn.accounted.roots isFree isFunction owned).home
  refine ⟨?_, fun c isOther _ => ?_⟩
  · rintro rfl
    cases isHome
  · obtain rfl := Option.some.inj (isHome.symm.trans isOther)
    exact named

theorem landed_callback {signature : FunctionDeclaration}
    (isCallback : (callbacks settings header)[position]? = some signature) :
    Landed settings (listenerName signature, some signature)
      (start.forest.functionCount +
        ((Intake.functions settings header.functions).length + position)) final.forest := by
  obtain ⟨course, -⟩ := exists_course turn.finished
  have sound := turn.sound
  have soundListened := course.sound_listened sound
  obtain ⟨present, isListener⟩ := course.functionAt_listened isCallback
  obtain ⟨c, top, isMethod⟩ : ∃ c,
      course.listened.forest.hierarchy.TopClass (listenerName signature) c ∧
        course.placed.forest.functionCount + position ∈ course.listened.forest.methods c := by
    have listened : course.listened.forest =
        (callbacks settings header).foldl (listen settings) course.placed.forest := forest_extract
    rw [listened]
    exact exists_listener_foldl isCallback
  rw [← Nat.add_assoc, ← course.functionCount_placed sound]
  generalize course.placed.forest.functionCount + position = id at present isListener isMethod ⊢
  have moves := course.moves_listened_final sound
  constructor
  · refine moves.heads soundListened present fun slot owned => ?_
    obtain rfl := soundListened.slot_unique owned (Forest.mem_owners_of_method isMethod)
    refine ⟨nofun, fun home isHome _ => ?_⟩
    obtain rfl := Option.some.inj isHome
    exact top.named
  · rintro source ⟨⟩
    refine moves.functionAt_induction (fun function => function.cname = signature.name) present
      ?_ fun _ step same => step.cname_eq.trans same
    rw [isListener]
    rfl
  · rintro source ⟨⟩ keeps marked
    have hears : Hears settings (listenerName signature) c id course.listened.forest :=
      ⟨top.named, isMethod, by rw [isListener]; rfl, by rw [isListener]; rfl⟩
    refine ⟨c, top.grow moves.hierarchy_extends, course.hears_final sound keeps hears, ?_⟩
    intro parameter member
    obtain ⟨former, isFormer, same⟩ := course.traces_referTo sound isMethod parameter member
    have isName : parameter.name = (referTo settings former).name := by
      change parameter.unsized.name = (referTo settings former).unsized.name
      rw [same]
    -- A reference has lost one marker, so it ends in the marker only if two were there.
    rw [isName, endsWith_referTo]
    rw [isListener] at isFormer
    exact marked former isFormer

theorem landed_new (isEntry : (destinations settings header)[position]? = some entry) :
    Landed settings entry (start.forest.functionCount + position) final.forest := by
  rcases arrival_cases isEntry with ⟨declared, isDeclared, rfl⟩ |
    ⟨signature, later, isCallback, rfl, rfl⟩
  · exact landed_function turn isDeclared
  · exact landed_callback turn isCallback

end Turn

variable {declarations : DeclarationSet} {result : Result}

theorem landed_convert (converted : convert settings declarations = .ok result)
    {entry : String × Option FunctionDeclaration}
    (isEntry : (declarations.headers.flatMap (destinations settings))[id]? = some entry) :
    Landed settings entry id result.draft.forest :=
  @arrival_induction settings declarations result _ (destinations settings)
    (fun _ => Landed settings) length_destinations landed_old landed_new converted id entry isEntry

theorem flagsListeners_next {done : List HeaderDeclarations} {header : HeaderDeclarations}
    {rootClass : String} {start : Draft}
    (turn : Turn settings done header rootClass start final)
    (flagged : FlagsListeners (done.flatMap (callbacks settings)) start.forest) :
    FlagsListeners ((done ++ [header]).flatMap (callbacks settings)) final.forest := by
  obtain ⟨course, -⟩ := exists_course turn.finished
  have sound := turn.sound
  have before : Moves settings {kind | kind ≠ .listen} start.forest course.placed.forest := by
    apply Moves.trans ((course.moves_hoisted_of_start sound).mono _)
    apply (course.moves_placed sound).mono _
    all_goals simp [takeKinds, hoistKinds, handleKinds, Set.subset_def]
  have after : Moves settings {kind | kind ≠ .listen} course.listened.forest final.forest := by
    apply (course.moves_final_of_listened sound).mono
    simp [referKinds, promoteKinds, sizeKinds, memberKinds, Set.subset_def]
  have isForest : course.listened.forest =
      (callbacks settings header).foldl (listen settings) course.placed.forest := forest_extract
  have listened := (flagged.moves before (by simp)).foldl settings (callbacks settings header)
  rw [← isForest] at listened
  rw [List.flatMap_append, List.flatMap_singleton]
  exact listened.moves after (by simp)

/-- The classes that are flagged are the listeners of all callbacks. -/
theorem flagsListeners_convert (converted : convert settings declarations = .ok result) :
    FlagsListeners (declarations.headers.flatMap (callbacks settings)) result.draft.forest :=
  turn_induction (fun done => FlagsListeners (done.flatMap (callbacks settings)))
    ⟨fun _ flagged => (nomatch flagged), fun _ member => (nomatch member)⟩
    flagsListeners_next converted

theorem listenerName_of_mem_destinations {headers : List HeaderDeclarations}
    {entry : String × Option FunctionDeclaration} {signature : FunctionDeclaration}
    (member : entry ∈ headers.flatMap (destinations settings))
    (isSource : entry.2 = some signature) : entry.1 = listenerName signature := by
  obtain ⟨header, -, member⟩ := List.mem_flatMap.1 member
  rcases List.mem_append.1 member with isFunction | isCallback
  · obtain ⟨function, -, rfl⟩ := List.mem_map.1 isFunction
    cases isSource
  · obtain ⟨source, -, rfl⟩ := List.mem_map.1 isCallback
    cases isSource
    rfl

theorem filterMap_destinations (headers : List HeaderDeclarations) :
    (headers.flatMap (destinations settings)).filterMap (·.2) =
      headers.flatMap (callbacks settings) := by
  rw [List.filterMap_flatMap]
  congr 1
  funext header
  simp [destinations, List.filterMap_append, List.filterMap_map]

/-- The names of the callbacks that share the listener of the given name. -/
def callbackNames (settings : Settings) (headers : List HeaderDeclarations) (className : String) :
    List String :=
  ((headers.flatMap (callbacks settings)).filter (listenerName · = className)).map (·.name)

/-- Whether nothing but callbacks arrives for the class of a name. -/
def OnlyCallbacks (settings : Settings) (headers : List HeaderDeclarations) (className : String) :
    Prop :=
  ∀ entry ∈ headers.flatMap (destinations settings), entry.1 = className →
    ∃ signature ∈ entry.2, SinglyMarked settings signature

instance (settings : Settings) (headers : List HeaderDeclarations) (className : String) :
    Decidable (OnlyCallbacks settings headers className) :=
  inferInstanceAs (Decidable (∀ entry ∈ headers.flatMap (destinations settings),
    entry.1 = className → ∃ signature ∈ entry.2, SinglyMarked settings signature))

/-- What stands at the places of a list where something holds, in any order of the places. -/
theorem perm_map_of_positions {α β : Type} {entries : List α} {ids : List Nat} {keep : α → Bool}
    {tell : Nat → β} {told : α → β} (once : ids.Nodup)
    (places : ∀ id, id ∈ ids ↔ ∃ entry, entries[id]? = some entry ∧ keep entry = true)
    (same : ∀ id entry, entries[id]? = some entry → keep entry = true → tell id = told entry) :
    (ids.map tell).Perm ((entries.filter keep).map told) := by
  let kept := entries.zipIdx.filter (keep ·.1)
  have onceKept : (kept.map (·.2)).Nodup := by
    have sublist : (kept.map (·.2)).Sublist (entries.zipIdx.map (·.2)) :=
      List.filter_sublist.map _
    rw [List.zipIdx_map_snd] at sublist
    exact sublist.nodup List.nodup_range'
  have positions : ids.Perm (kept.map (·.2)) := by
    refine (List.perm_ext_iff_of_nodup once onceKept).2 fun id => ?_
    simp [kept, places, List.mk_mem_zipIdx_iff_getElem?]
  have entriesKept : entries.filter keep = kept.map (·.1) := by
    conv_lhs => rw [← List.zipIdx_map_fst 0 entries, List.filter_map]
    rfl
  refine (positions.map tell).trans (List.Perm.of_eq ?_)
  rw [entriesKept, List.map_map, List.map_map]
  refine List.map_congr_left fun entry member => ?_
  obtain ⟨isEntry, isKept⟩ := List.mem_filter.1 member
  exact same entry.2 entry.1 (List.mk_mem_zipIdx_iff_getElem?.1 isEntry) isKept

/-- The callbacks among entries of which those of one name are callbacks. -/
theorem map_filter_entries {entries : List (String × Option FunctionDeclaration)}
    {className : String}
    (named : ∀ entry ∈ entries, ∀ signature ∈ entry.2, entry.1 = listenerName signature)
    (only : ∀ entry ∈ entries, entry.1 = className → entry.2.isSome = true) :
    (entries.filter (·.1 = className)).map (fun entry => (entry.2.map (·.name)).getD "") =
      ((entries.filterMap (·.2)).filter (listenerName · = className)).map (·.name) := by
  induction entries with
  | nil => rfl
  | cons entry rest ih =>
      have ih := ih (fun entry member => named entry (List.mem_cons_of_mem _ member))
        fun entry member => only entry (List.mem_cons_of_mem _ member)
      obtain ⟨name, source⟩ := entry
      cases source with
      | none =>
          have other : name ≠ className := fun same => by
            cases only (name, none) List.mem_cons_self same
          simp [other, ih]
      | some signature =>
          obtain rfl : name = listenerName signature := named _ List.mem_cons_self signature rfl
          by_cases here : listenerName signature = className
          · simp [here, ih]
          · simp [here, ih]

section Owners

variable (converted : convert settings declarations = .ok result)

include converted

/-- A class at the top owns nothing that did not arrive for its name. -/
theorem exists_destination (isRoot : result.draft.forest.hierarchy.parent? c = none)
    (owned : (id, slot) ∈ result.draft.forest.owners) (isHome : slot.home? = some c) :
    ∃ source, (declarations.headers.flatMap (destinations settings))[id]? =
      some (result.draft.forest.className c, source) := by
  obtain ⟨⟨name, source⟩, isEntry⟩ :=
    exists_tag_of_mem_owners length_destinations converted owned
  obtain rfl : result.draft.forest.className c = name :=
    ((landed_convert converted isEntry).heads slot owned).2 c isHome isRoot
  exact ⟨source, isEntry⟩

variable (valid : c < result.draft.forest.hierarchy.size)
  (isRoot : result.draft.forest.hierarchy.parent? c = none)
  (keeps : KeepsCallback settings (result.draft.forest.className c))

include valid isRoot keeps

/-- A callback that arrives for a class at the top is a method of it. -/
theorem mem_methods_of_callback {signature : FunctionDeclaration}
    (isEntry : (declarations.headers.flatMap (destinations settings))[id]? =
      some (result.draft.forest.className c, some signature))
    (marked : SinglyMarked settings signature) : id ∈ result.draft.forest.methods c := by
  have isName : result.draft.forest.className c = listenerName signature :=
    listenerName_of_mem_destinations (List.mem_of_getElem? isEntry) rfl
  obtain ⟨home, top, hears, -⟩ :=
    (landed_convert converted isEntry).hears signature rfl (isName ▸ keeps) marked
  obtain rfl := top.unique ⟨valid, isRoot, isName⟩
  exact hears.isMethod

variable (only : OnlyCallbacks settings declarations.headers (result.draft.forest.className c))

include only

theorem mem_methods_iff_of_onlyCallbacks :
    id ∈ result.draft.forest.methods c ↔
      ∃ source, (declarations.headers.flatMap (destinations settings))[id]? =
        some (result.draft.forest.className c, source) := by
  constructor
  · exact fun isMethod =>
      exists_destination converted isRoot (Forest.mem_owners_of_method isMethod) rfl
  · rintro ⟨source, isEntry⟩
    obtain ⟨signature, isSource, marked⟩ := only _ (List.mem_of_getElem? isEntry) rfl
    obtain rfl : source = some signature := isSource
    exact mem_methods_of_callback converted valid isRoot keeps isEntry marked

/-- The methods of a class for which only callbacks arrive. -/
theorem perm_callbackNames :
    ((result.draft.forest.methods c).map fun id => (result.draft.forest.functionAt id).cname).Perm
      (callbackNames settings declarations.headers (result.draft.forest.className c)) := by
  rw [callbackNames, ← filterMap_destinations, ← map_filter_entries
    (fun _ member _ => listenerName_of_mem_destinations member)]
  · refine perm_map_of_positions ((sound_convert converted).methods_nodup c) (fun id => ?_) ?_
    · rw [mem_methods_iff_of_onlyCallbacks converted valid isRoot keeps only]
      constructor
      · exact fun ⟨source, isEntry⟩ => ⟨_, isEntry, decide_eq_true rfl⟩
      · rintro ⟨⟨name, source⟩, isEntry, isName⟩
        obtain rfl := of_decide_eq_true isName
        exact ⟨source, isEntry⟩
    · rintro id ⟨name, source⟩ isEntry isName
      obtain ⟨signature, isSource, -⟩ :=
        only _ (List.mem_of_getElem? isEntry) (of_decide_eq_true isName)
      obtain rfl : source = some signature := isSource
      exact (landed_convert converted isEntry).cname signature rfl
  · intro entry member isName
    obtain ⟨signature, isSource, -⟩ := only entry member isName
    rw [isSource]
    rfl

theorem properties_eq_nil_of_onlyCallbacks :
    (result.draft.forest.classAt c).properties = [] := by
  apply List.eq_nil_iff_forall_not_mem.2
  intro property member
  have owned : (property.getter, .getter c property.name) ∈ result.draft.forest.owners :=
    Forest.mem_owners_of_class (Class.mem_owners_of_getter member)
  have isMethod := (mem_methods_iff_of_onlyCallbacks converted valid isRoot keeps only).2
    (exists_destination converted isRoot owned rfl)
  cases (sound_convert converted).slot_unique owned (Forest.mem_owners_of_method isMethod)

end Owners

/-- A class that is flagged stands at the top, is the listener of a callback, and owns nothing that
did not arrive for its name.  Unless the settings or its parameters take it away, every callback
that arrives for it is one of its methods.  If nothing but such callbacks arrives, it has no
properties, and its methods are all callbacks that share it, so that there is one method exactly if
one typedef is named for it. -/
theorem methods_listener_convert (converted : convert settings declarations = .ok result)
    (isListener : (result.draft.forest.classAt c).isCallback = true) :
    (∃ signature ∈ declarations.headers.flatMap (callbacks settings),
      result.draft.forest.hierarchy.TopClass (listenerName signature) c) ∧
    (∀ id slot, (id, slot) ∈ result.draft.forest.owners → slot.home? = some c →
      ∃ source, (declarations.headers.flatMap (destinations settings))[id]? =
        some (result.draft.forest.className c, source)) ∧
    (KeepsCallback settings (result.draft.forest.className c) →
      (∀ id signature, (declarations.headers.flatMap (destinations settings))[id]? =
          some (result.draft.forest.className c, some signature) →
        SinglyMarked settings signature → id ∈ result.draft.forest.methods c) ∧
      (OnlyCallbacks settings declarations.headers (result.draft.forest.className c) →
        (result.draft.forest.classAt c).properties = [] ∧
        ((result.draft.forest.methods c).map
          fun id => (result.draft.forest.functionAt id).cname).Perm
            (callbackNames settings declarations.headers (result.draft.forest.className c)) ∧
        ∀ name, callbackNames settings declarations.headers (result.draft.forest.className c) =
            [name] ↔
          ∃ id, result.draft.forest.methods c = [id] ∧
            (result.draft.forest.functionAt id).cname = name)) := by
  obtain ⟨source, isSource, top⟩ := (flagsListeners_convert converted).named c isListener
  refine ⟨⟨source, isSource, top⟩,
    fun id slot owned isHome => exists_destination converted top.isRoot owned isHome,
    fun keeps => ⟨fun id signature isEntry marked =>
      mem_methods_of_callback converted top.valid top.isRoot keeps isEntry marked,
    fun only => ⟨properties_eq_nil_of_onlyCallbacks converted top.valid top.isRoot keeps only,
      ?_⟩⟩⟩
  have methods := perm_callbackNames converted top.valid top.isRoot keeps only
  refine ⟨methods, fun name => ⟨fun single => ?_, ?_⟩⟩
  · rw [single] at methods
    obtain ⟨id, isOnly, cname⟩ := List.map_eq_singleton_iff.1 (List.perm_singleton.1 methods)
    exact ⟨id, isOnly, cname⟩
  · rintro ⟨id, isOnly, cname⟩
    rw [isOnly, List.map_singleton, cname] at methods
    exact (List.singleton_perm.1 methods).symm

/-- A header with a callback for the names of friends. -/
def nameCallback : HeaderDeclarations where
  file := "tox.h"
  typedefs := [{
    name := "tox_friend_name_cb"
    target := .function { name := "void" } [
      { name := "tox", type := { name := "Tox", isPointer := true } },
      { name := "friend_number", type := { name := "uint32_t" } },
      { name := "user_data", type := { name := "void", isPointer := true } }] }]

theorem methods_nameCallback :
    ∃ result, convert Settings.default { headers := [nameCallback] } = .ok result ∧
      (result.draft.forest.classAt 1).isCallback = true ∧
      KeepsCallback Settings.default "ToxFriendNameCb" ∧
      OnlyCallbacks Settings.default [nameCallback] "ToxFriendNameCb" ∧
      (result.draft.forest.classAt 1).properties = [] ∧
      ∃ id, result.draft.forest.methods 1 = [id] ∧
        (result.draft.forest.functionAt id).cname = "tox_friend_name_cb" := by
  obtain ⟨result, converted, known⟩ := exists_converted
    (fun result => decide ((result.draft.forest.classAt 1).isCallback = true ∧
      result.draft.forest.className 1 = "ToxFriendNameCb"))
    (show (convert Settings.default { headers := [nameCallback] }).toOption.map _ = some true by
      decide +kernel)
  obtain ⟨isListener, named⟩ := of_decide_eq_true known
  have keeps := keepsCallback_default "ToxFriendNameCb"
  have only : OnlyCallbacks Settings.default [nameCallback] "ToxFriendNameCb" := by decide +kernel
  obtain ⟨-, -, told⟩ := methods_listener_convert converted isListener
  obtain ⟨noProperties, -, single⟩ := (told (named ▸ keeps)).2 (named ▸ only)
  refine ⟨result, converted, isListener, keeps, only, noProperties,
    (single "tox_friend_name_cb").1 ?_⟩
  rw [named]
  decide +kernel

/-- The second header adds a second method to the listener that the first one has made. -/
theorem methods_nameCallbackTwice :
    ∃ result, convert Settings.default { headers := [nameCallback, nameCallback] } = .ok result ∧
      (result.draft.forest.classAt 1).isCallback = true ∧
      result.draft.forest.methods 1 = [0, 1] ∧
      (result.draft.forest.functionAt 0).cname = "tox_friend_name_cb" ∧
      (result.draft.forest.functionAt 1).cname = "tox_friend_name_cb" := by
  obtain ⟨result, converted, known⟩ := exists_converted
    (fun result => decide ((result.draft.forest.classAt 1).isCallback = true ∧
      result.draft.forest.methods 1 = [0, 1] ∧
      (result.draft.forest.functionAt 0).cname = "tox_friend_name_cb" ∧
      (result.draft.forest.functionAt 1).cname = "tox_friend_name_cb"))
    (show (convert Settings.default { headers := [nameCallback, nameCallback] }).toOption.map _ =
      some true by decide +kernel)
  exact ⟨result, converted, of_decide_eq_true known⟩

end Conversion

end Bindery
