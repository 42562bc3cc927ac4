import Bindery.Proofs.Fillings
import Bindery.Settings.Defaults

/-!
# Who is left without an owner

No function is ever held twice.  One can be lost, though, where a slot that is filled already gets
another function: the allocator or deallocator of a class that has one, or the default initializer
of a class that a header before has initialized.  A conversion ends without violations exactly if
none of this happens, and for the first two that can be read off the declarations.
-/

namespace Bindery

variable {settings : Settings} {draft final : Draft} {c : ClassId}

/-! ## Default initializers -/

/-- Only default initialization puts anything into the slot for it. -/
theorem Moves.defaultInit_eq_none {kinds : Set MoveKind} {before after : Forest}
    (moves : Moves settings kinds before after) (keeps : .takeInitializer ∉ kinds)
    (start : ∀ c, (before.classAt c).defaultInit = none) (c : ClassId) :
    (after.classAt c).defaultInit = none := by
  induction moves with
  | refl => exact start c
  | @tail between final _ last ih =>
      obtain ⟨kind, allowed, move⟩ := last
      rcases move.classAt_step c with same | step
      · rw [same]
        exact ih
      · generalize between.classAt c = content, final.classAt c = changed at step ih ⊢
        cases step with
        | takeInitializer isMethod => exact absurd allowed keeps
        | allocate isRoot vacant isFree =>
            rw [Class.withAlloc]
            split <;> exact ih
        | deallocate isRoot vacant isFree =>
            rw [Class.withDealloc]
            split <;> exact ih
        | _ => exact ih

namespace Corrections

/-- The method that initializes a class by default, if it is configured and there. -/
def initializer? (settings : Settings) (forest : Forest) (c : ClassId) : Option FunctionId :=
  (settings.defaultInitializers.get? (forest.className c)).bind (forest.findMethod? c)

/-- Whether a class that is initialized already would be initialized again. -/
def displaces (settings : Settings) (forest : Forest) (c : ClassId) : Bool :=
  (forest.classAt c).defaultInit.isSome && (initializer? settings forest c).isSome

theorem forest_extractInitializer (c : ClassId) :
    (extractInitializer settings c draft).forest =
      match initializer? settings draft.forest c with
      | some id => draft.forest.modifyClass c fun c =>
          { c.removeMethod id with defaultInit := some id }
      | none => draft.forest := by
  rw [extractInitializer, initializer?]
  dsimp only
  cases settings.defaultInitializers.get? (draft.forest.className c) with
  | none => rfl
  | some name =>
      dsimp only [Option.bind_some]
      cases draft.forest.findMethod? c name <;> rfl

/-- The initializer that a class loses to another one. -/
def displaced? (settings : Settings) (forest : Forest) (c : ClassId) : Option FunctionId :=
  (initializer? settings forest c).bind fun _ => (forest.classAt c).defaultInit

theorem held_extractInitializer (c : ClassId) :
    (extractInitializer settings c draft).forest.held +
        ↑(displaced? settings draft.forest c).toList = draft.forest.held := by
  rw [forest_extractInitializer, displaced?]
  cases isInitializer : initializer? settings draft.forest c with
  | none => simp
  | some id =>
      obtain ⟨name, -, found⟩ := Option.bind_eq_some_iff.1 isInitializer
      have isMethod := Forest.mem_methods_of_findMethod? found
      have taken : { (draft.forest.classAt c).removeMethod id with
          defaultInit := some id : Class }.held + ↑(draft.forest.classAt c).defaultInit.toList =
          (draft.forest.classAt c).held := Class.held_takeInitializer isMethod
      have balance := Forest.held_modifyClass (Forest.lt_size_of_mem_methods isMethod)
        fun c => { c.removeMethod id with defaultInit := some id }
      rw [← taken, ← add_assoc, add_right_comm] at balance
      exact add_right_cancel balance

theorem lost_extractInitializer (sound : draft.forest.Sound) :
    (extractInitializer settings c draft).forest.lost = 0 ↔
      draft.forest.lost = 0 ∧ displaces settings draft.forest c = false := by
  have counted : (extractInitializer settings c draft).forest.functionCount =
      draft.forest.functionCount := by
    rw [forest_extractInitializer]
    split <;> rfl
  rw [Forest.lost_of_held_add sound _ counted (held_extractInitializer c), displaces, displaced?]
  cases initializer? settings draft.forest c with
  | none => simp
  | some id =>
      cases (draft.forest.classAt c).defaultInit with
      | none => simp
      | some old => simp

/-- Initializing one class leaves the others and all functions as they are. -/
theorem displaces_extractInitializer {other : ClassId} (different : other ≠ c) :
    displaces settings (extractInitializer settings c draft).forest other =
      displaces settings draft.forest other := by
  rw [forest_extractInitializer]
  split
  · rename_i id _
    have content : (draft.forest.modifyClass c fun c =>
        { c.removeMethod id with defaultInit := some id }).classAt other =
        draft.forest.classAt other := Forest.classAt_modifyClass_of_ne different
    unfold displaces initializer? Forest.findMethod? Forest.methods
    rw [content]
    rfl
  · rfl

theorem lost_foldl_extractInitializer {classes : List ClassId} (different : classes.Nodup)
    (sound : draft.forest.Sound) :
    (classes.foldl (fun draft c => extractInitializer settings c draft) draft).forest.lost = 0 ↔
      draft.forest.lost = 0 ∧ ∀ c ∈ classes, displaces settings draft.forest c = false := by
  induction classes generalizing draft with
  | nil => simp
  | cons c rest ih =>
      obtain ⟨fresh, different⟩ := List.nodup_cons.1 different
      have moves := moves_extractInitializer settings draft c
      have kept : ∀ other ∈ rest,
          displaces settings (extractInitializer settings c draft).forest other =
            displaces settings draft.forest other := by
        intro other member
        apply displaces_extractInitializer
        exact fun same => fresh (same ▸ member)
      rw [List.foldl_cons, ih different (moves.sound sound), lost_extractInitializer sound,
        List.forall_mem_cons, and_assoc]
      refine and_congr_right fun _ => and_congr_right fun _ => ?_
      exact forall₂_congr fun other member => by rw [kept other member]

theorem lost_extractInitializers (sound : draft.forest.Sound) :
    (extractInitializers settings draft).forest.lost = 0 ↔
      draft.forest.lost = 0 ∧
        ∀ c < draft.forest.hierarchy.size, displaces settings draft.forest c = false := by
  have loop := @lost_foldl_extractInitializer settings draft draft.forest.allClasses
    draft.forest.hierarchy.nodup_all sound
  simp only [Forest.allClasses, Hierarchy.mem_all_iff] at loop
  exact loop

end Corrections

/-! ## Names -/

theorem filterMap_range' {α β : Type} (items : List α) (start : Nat) {left : Nat → Option β}
    {right : α → Option β}
    (same : ∀ position item, items[position]? = some item →
      left (start + position) = right item) :
    (List.range' start items.length).filterMap left = items.filterMap right := by
  induction items generalizing start with
  | nil => rfl
  | cons item rest ih =>
      have first : left start = right item := same 0 item rfl
      have later := ih (start + 1) fun position item isItem => by
        rw [Nat.add_assoc, Nat.add_comm 1 position]
        exact same (position + 1) item isItem
      rw [List.length_cons, List.range'_succ, List.filterMap_cons, List.filterMap_cons, first,
        later]

namespace Conversion

/-- The classes that the functions of a header allocate, in order. -/
def allocatedNames (settings : Settings) (header : HeaderDeclarations) : List String :=
  (Intake.functions settings header.functions).filterMap
    (Hoisting.allocated? header.structs settings)

/-- The classes that the functions of a header deallocate, in order, where no function counts that
allocates a class. -/
def deallocatedNames (settings : Settings) (header : HeaderDeclarations) : List String :=
  (Intake.functions settings header.functions).filterMap fun function =>
    if Hoisting.isAllocator header.structs settings function then none
    else Hoisting.deallocated? header.structs settings (Throwing.withoutError settings function)

/-- A place in a list that was extended is the new end or one of the old places. -/
theorem concat_eq_append_cons {α : Type} {done front rest : List α} {last item : α}
    (split : done ++ [last] = front ++ item :: rest) :
    (rest = [] ∧ done = front ∧ last = item) ∨
      ∃ earlier, rest = earlier ++ [last] ∧ done = front ++ item :: earlier := by
  rcases List.eq_nil_or_concat rest with rfl | ⟨earlier, final, rfl⟩
  · obtain ⟨same, sameLast⟩ := List.append_inj' split rfl
    exact .inl ⟨rfl, same, List.singleton_inj.1 sameLast⟩
  · rw [List.concat_eq_append, ← List.cons_append, ← List.append_assoc] at split
    obtain ⟨same, sameLast⟩ := List.append_inj' split rfl
    exact .inr ⟨earlier, by rw [List.concat_eq_append, sameLast], same⟩

/-- Whether no header initializes a class by default that a header before has initialized. -/
def KeepsInitializers (settings : Settings) (headers : List HeaderDeclarations) : Prop :=
  ∀ earlier header later rootClass draft reached,
    headers = earlier ++ header :: later →
    settings.rootClass? header.file = some rootClass →
    earlier.foldlM (processHeader settings) {} = .ok draft →
    Pass.run (beforeInitializers settings rootClass header) draft = .ok reached →
    ∀ c < reached.forest.hierarchy.size,
      Corrections.displaces settings reached.forest c = false

theorem keepsInitializers_concat {done : List HeaderDeclarations} {header : HeaderDeclarations}
    {rootClass : String} {reached : Draft}
    (isRoot : settings.rootClass? header.file = some rootClass)
    (processed : done.foldlM (processHeader settings) {} = .ok draft)
    (runs : Pass.run (beforeInitializers settings rootClass header) draft = .ok reached) :
    KeepsInitializers settings (done ++ [header]) ↔
      KeepsInitializers settings done ∧
        ∀ c < reached.forest.hierarchy.size,
          Corrections.displaces settings reached.forest c = false := by
  constructor
  · intro keeps
    constructor
    · intro earlier between later root before between_reached isSplit
      apply keeps earlier between (later ++ [header])
      rw [isSplit]
      simp
    · exact keeps done header [] rootClass draft reached rfl isRoot processed runs
  · rintro ⟨keeps, last⟩ earlier between later root before betweenReached isSplit isRoot' before_ok
      run_ok
    obtain ⟨rfl, rfl, rfl⟩ | ⟨front, rfl, rfl⟩ := concat_eq_append_cons isSplit
    · obtain rfl := Option.some.inj (isRoot.symm.trans isRoot')
      obtain rfl := Except.ok.inj (processed.symm.trans before_ok)
      obtain rfl := Except.ok.inj (runs.symm.trans run_ok)
      exact last
    · exact keeps earlier between front root before betweenReached rfl isRoot' before_ok run_ok

/-! ## One header -/

namespace Course

variable {rootClass : String} {header : HeaderDeclarations} {start : Draft}
  (course : Course settings rootClass header start final)

/-- The draft in which the allocators have their slots. -/
def allocated : Draft :=
  Hoisting.hoistAllocators header.structs settings course.converted

/-- The draft in which all functions of known structs have their places. -/
def membered : Draft :=
  Hoisting.hoistStructFunctions header.structs settings course.allocated

theorem filterMap_allocated (noneFree : start.forest.free = []) :
    (course.converted.forest.free.filterMap fun id =>
        Hoisting.allocated? header.structs settings (course.converted.forest.functionAt id)) =
      allocatedNames settings header := by
  obtain ⟨free, -, -, converts⟩ := course.converted_spec noneFree
  rw [free]
  apply filterMap_range'
  intro position function isFunction
  rw [(converts position function isFunction).eq_withoutError, Throwing.withoutError_eq]
  rfl

theorem filterMap_deallocated (noneFree : start.forest.free = [])
    (hoists : Hoisting.Hoists .alloc (Hoisting.allocated? header.structs settings)
      (Hoisting.allocator? header.structs settings) course.converted.forest.free
      course.converted.forest course.allocated.forest) :
    (course.allocated.forest.free.filterMap fun id =>
        Hoisting.deallocated? header.structs settings (course.allocated.forest.functionAt id)) =
      deallocatedNames settings header := by
  obtain ⟨free, -, -, converts⟩ := course.converted_spec noneFree
  have stays : (course.allocated.forest.free.filterMap fun id =>
      Hoisting.deallocated? header.structs settings (course.allocated.forest.functionAt id)) =
      course.converted.forest.free.filterMap fun id =>
        if Hoisting.isAllocator header.structs settings (course.converted.forest.functionAt id)
        then none
        else Hoisting.deallocated? header.structs settings
          (course.converted.forest.functionAt id) := by
    rw [hoists.free, List.filterMap_filter]
    apply List.filterMap_congr
    intro id member
    rw [hoists.functionAt, if_pos member]
    by_cases allocates : Hoisting.isAllocator header.structs settings
        (course.converted.forest.functionAt id)
    · simp [member, Hoisting.allocator?, allocates]
    · simp [Hoisting.allocator?, allocates]
  rw [stays, free]
  apply filterMap_range'
  intro position function isFunction
  rw [(converts position function isFunction).eq_withoutError]
  have sameAllocator : Hoisting.isAllocator header.structs settings
      (Throwing.withoutError settings function) =
      Hoisting.isAllocator header.structs settings function := by
    rw [Throwing.withoutError_eq]
    rfl
  exact congrArg (fun allocates : Bool => if allocates then none
    else Hoisting.deallocated? header.structs settings (Throwing.withoutError settings function))
    sameAllocator

variable (sound : start.forest.Sound) (noneFree : start.forest.free = [])
  (roots : start.forest.RootsHold)

include sound

theorem sound_allocated : course.allocated.forest.Sound :=
  ((Hoisting.makes_hoistAllocators settings header.structs course.converted
    (course.sound_converted sound))).sound (course.sound_converted sound)

theorem sound_membered : course.membered.forest.Sound :=
  ((Hoisting.makes_hoistStructFunctions settings header.structs course.allocated
    (course.sound_allocated sound))).sound (course.sound_allocated sound)

include roots

theorem gains_converted (slot : RootSlot) :
    Gains slot [] start.forest course.converted.forest := by
  have taken : Gains slot [] start.forest course.taken.forest :=
    .ofMoves (course.moves_taken sound) (by simp [takeKinds, MoveKind.evicts]) sound roots
  exact taken.trans (.ofMoves (course.moves_converted sound) (by simp [MoveKind.evicts])
    (course.sound_taken sound) taken.roots)

theorem hoists_allocated :
    Hoisting.Hoists .alloc (Hoisting.allocated? header.structs settings)
      (Hoisting.allocator? header.structs settings) course.converted.forest.free
      course.converted.forest course.allocated.forest :=
  Hoisting.hoists_hoistAllocators header.structs settings (course.sound_converted sound)
    (course.gains_converted sound roots .alloc).roots

theorem hoists_membered :
    Hoisting.Hoists .dealloc (Hoisting.deallocated? header.structs settings)
      (Hoisting.member? header.structs settings) course.allocated.forest.free
      course.allocated.forest course.membered.forest :=
  Hoisting.hoists_hoistStructFunctions header.structs settings (course.sound_allocated sound)
    (course.hoists_allocated sound roots).gains.roots

theorem gains_sized (slot : RootSlot) :
    Gains slot [] course.membered.forest course.sized.forest := by
  have leftovers : Gains slot [] course.membered.forest course.hoisted.forest :=
    .ofMoves
      (Hoisting.makes_hoistLeftovers settings rootClass course.membered
        (course.sound_membered sound))
      (by simp [MoveKind.evicts]) (course.sound_membered sound)
      (course.hoists_membered sound roots).gains.roots
  have placed : Gains slot [] course.hoisted.forest course.placed.forest :=
    .ofMoves (course.moves_placed sound) (by simp [handleKinds, MoveKind.evicts])
      (course.sound_hoisted sound) leftovers.roots
  have listened : Gains slot [] course.placed.forest course.listened.forest :=
    .ofMoves (course.moves_listened sound) (by simp [MoveKind.evicts])
      (course.sound_placed sound) placed.roots
  have handled : Gains slot [] course.listened.forest course.handled.forest :=
    .ofMoves (course.moves_handled sound) (by simp [referKinds, MoveKind.evicts])
      (course.sound_listened sound) listened.roots
  have promoted : Gains slot [] course.handled.forest course.promoted.forest :=
    .ofMoves (course.moves_promoted sound) (by simp [promoteKinds, MoveKind.evicts])
      (course.sound_handled sound) handled.roots
  have sized : Gains slot [] course.promoted.forest course.sized.forest :=
    .ofMoves (course.moves_sized sound) (by simp [sizeKinds, MoveKind.evicts])
      (course.sound_promoted sound) promoted.roots
  exact leftovers.trans (placed.trans (listened.trans (handled.trans (promoted.trans sized))))

theorem gains_final (slot : RootSlot) :
    (∀ name, final.forest.Fills slot name ↔ course.sized.forest.Fills slot name) ∧
      (final.forest.lost = 0 ↔ course.sized.forest.lost = 0 ∧
        ∀ c < course.sized.forest.hierarchy.size,
          Corrections.displaces settings course.sized.forest c = false) ∧
      final.forest.RootsHold := by
  have initialized := (course.moves_initialized sound).preserves
    (fun forest => forest.RootsHold ∧
      ∀ name, forest.Fills slot name ↔ course.sized.forest.Fills slot name)
    (course.sound_sized sound)
    ⟨(course.gains_sized sound roots slot).roots, fun _ => Iff.rfl⟩
    (fun allowed move _ kept => by
      obtain rfl := Set.mem_singleton_iff.1 allowed
      have other : MoveKind.takeInitializer ≠ slot.move := by cases slot <;> nofun
      exact ⟨move.rootsHold kept.1, fun name => (move.fills_iff slot other).trans (kept.2 name)⟩)
  have ended : Gains slot [] course.initialized.forest final.forest :=
    .ofMoves (course.moves_final sound) (by simp [memberKinds, MoveKind.evicts])
      (course.sound_initialized sound) initialized.2.1
  refine ⟨fun name => ?_, ?_, ended.roots⟩
  · rw [ended.fills, ← initialized.2.2]
    simp
  · have nothingMore : final.forest.lost = 0 ↔ course.initialized.forest.lost = 0 := by
      rw [ended.lost]
      simp
    exact nothingMore.trans (Corrections.lost_extractInitializers (course.sound_sized sound))

include course

include noneFree

theorem fills_alloc_final (name : String) :
    final.forest.Fills .alloc name ↔
      name ∈ allocatedNames settings header ∨ start.forest.Fills .alloc name := by
  have allocated := (course.gains_converted sound roots .alloc).trans
    (course.hoists_allocated sound roots).gains
  rw [course.filterMap_allocated noneFree, List.nil_append] at allocated
  have untouched : course.membered.forest.Fills .alloc name ↔
      course.allocated.forest.Fills .alloc name :=
    (course.hoists_membered sound roots).gains.other name
  rw [(course.gains_final sound roots .alloc).1, (course.gains_sized sound roots .alloc).fills,
    ← allocated.fills, untouched]
  simp

theorem fills_dealloc_final (name : String) :
    final.forest.Fills .dealloc name ↔
      name ∈ deallocatedNames settings header ∨ start.forest.Fills .dealloc name := by
  have hoists := course.hoists_allocated sound roots
  have membered := (course.hoists_membered sound roots).gains
  rw [course.filterMap_deallocated noneFree hoists] at membered
  have untouched : course.allocated.forest.Fills .dealloc name ↔
      start.forest.Fills .dealloc name :=
    (hoists.gains.other name).trans
      (((course.gains_converted sound roots .dealloc).fills name).trans (by simp))
  rw [(course.gains_final sound roots .dealloc).1, (course.gains_sized sound roots .dealloc).fills,
    membered.fills, untouched]
  simp

/-- What it takes for a header to lose nothing. -/
theorem lost_final_eq_zero_iff :
    final.forest.lost = 0 ↔ start.forest.lost = 0 ∧
      ((allocatedNames settings header).Nodup ∧
        ∀ name ∈ allocatedNames settings header, ¬ start.forest.Fills .alloc name) ∧
      ((deallocatedNames settings header).Nodup ∧
        ∀ name ∈ deallocatedNames settings header, ¬ start.forest.Fills .dealloc name) ∧
      ∀ c < course.sized.forest.hierarchy.size,
        Corrections.displaces settings course.sized.forest c = false := by
  have hoists := course.hoists_allocated sound roots
  have allocated := (course.gains_converted sound roots .alloc).trans hoists.gains
  rw [course.filterMap_allocated noneFree, List.nil_append] at allocated
  have membered := (course.hoists_membered sound roots).gains.trans
    (course.gains_sized sound roots .dealloc)
  rw [course.filterMap_deallocated noneFree hoists, List.append_nil] at membered
  have untouched (name : String) : course.allocated.forest.Fills .dealloc name ↔
      start.forest.Fills .dealloc name :=
    (hoists.gains.other name).trans
      (((course.gains_converted sound roots .dealloc).fills name).trans (by simp))
  rw [(course.gains_final sound roots .alloc).2.1, membered.lost, allocated.lost]
  simp only [untouched]
  tauto

end Course

/-! ## All headers -/

/-- What the headers that are done have filled, and what it took for them to lose nothing. -/
structure Accounted (settings : Settings) (done : List HeaderDeclarations) (draft : Draft) :
    Prop where
  processed : done.foldlM (processHeader settings) {} = .ok draft
  free : draft.forest.free = []
  roots : draft.forest.RootsHold
  allocated : ∀ name, draft.forest.Fills .alloc name ↔
    name ∈ done.flatMap (allocatedNames settings)
  deallocated : ∀ name, draft.forest.Fills .dealloc name ↔
    name ∈ done.flatMap (deallocatedNames settings)
  lost : draft.forest.lost = 0 ↔
    (done.flatMap (allocatedNames settings)).Nodup ∧
      (done.flatMap (deallocatedNames settings)).Nodup ∧ KeepsInitializers settings done

theorem accounted_nil : Accounted settings [] {} where
  processed := rfl
  free := rfl
  roots := fun _ _ => rfl
  allocated := by
    intro name
    constructor
    · rintro ⟨c, -, -, filled⟩
      cases filled
    · intro member
      cases member
  deallocated := by
    intro name
    constructor
    · rintro ⟨c, -, -, filled⟩
      cases filled
    · intro member
      cases member
  lost := by
    have keeps : KeepsInitializers settings [] := by
      intro earlier header later _ _ _ isSplit
      simp at isSplit
    simp [keeps, Forest.lost, Forest.functionCount, Forest.empty]

theorem nodup_flatMap_concat {names : HeaderDeclarations → List String}
    {done : List HeaderDeclarations} {header : HeaderDeclarations} :
    ((done ++ [header]).flatMap names).Nodup ↔
      (done.flatMap names).Nodup ∧ (names header).Nodup ∧
        ∀ name ∈ names header, name ∉ done.flatMap names := by
  rw [List.flatMap_append, List.flatMap_singleton, List.nodup_append']
  exact and_congr_right fun _ => and_congr_right fun _ => List.disjoint_right

theorem Accounted.concat {done : List HeaderDeclarations} {header : HeaderDeclarations}
    {rootClass : String} (accounted : Accounted settings done draft)
    (isRoot : settings.rootClass? header.file = some rootClass) (sound : draft.forest.Sound)
    (finished : Pass.run (passes settings rootClass header) draft = .ok final) :
    Accounted settings (done ++ [header]) final := by
  obtain ⟨course, runs⟩ := exists_course finished
  have free := accounted.free
  have roots := accounted.roots
  constructor
  case processed =>
    rw [List.foldlM_append, accounted.processed]
    have processes : processHeader settings draft header = .ok final := by
      rw [processHeader, isRoot]
      exact finished
    simp [processes, bind, Except.bind, pure, Except.pure]
  case free => exact course.free_final sound
  case roots => exact (course.gains_final sound roots .alloc).2.2
  case allocated =>
    intro name
    rw [course.fills_alloc_final sound free roots, accounted.allocated]
    simp [or_comm]
  case deallocated =>
    intro name
    rw [course.fills_dealloc_final sound free roots, accounted.deallocated]
    simp [or_comm]
  case lost =>
    rw [course.lost_final_eq_zero_iff sound free roots, accounted.lost, nodup_flatMap_concat,
      nodup_flatMap_concat, keepsInitializers_concat isRoot accounted.processed runs]
    simp only [accounted.allocated, accounted.deallocated]
    tauto

/-- No class is initialized before the first header looks for initializers. -/
theorem defaultInit_beforeInitializers {rootClass : String} {header : HeaderDeclarations}
    (runs : Pass.run (beforeInitializers settings rootClass header) {} = .ok final) (c : ClassId) :
    (final.forest.classAt c).defaultInit = none := by
  have moves := (makes_beforeInitializers settings rootClass header).ok runs Forest.sound_empty
  exact moves.defaultInit_eq_none (by simp) (fun _ => rfl) c

/-- One header alone initializes no class twice. -/
theorem keepsInitializers_singleton (header : HeaderDeclarations) :
    KeepsInitializers settings [header] := by
  intro earlier between later rootClass draft reached isSplit isRoot processed runs c valid
  obtain rfl : earlier = [] := by
    cases earlier with
    | nil => rfl
    | cons first rest => simp at isSplit
  obtain rfl := Except.ok.inj processed
  rw [Corrections.displaces, defaultInit_beforeInitializers runs c]
  rfl

theorem accounted_convert {declarations : DeclarationSet} {result : Result}
    (converted : convert settings declarations = .ok result) :
    ∃ draft, result.draft.forest = draft.forest ∧ draft.forest.Sound ∧
      Accounted settings declarations.headers draft := by
  obtain ⟨draft, same, -, sound, accounted⟩ := convert_induction (Accounted settings)
    accounted_nil (fun isRoot sound accounted finished => accounted.concat isRoot sound finished)
    converted
  exact ⟨draft, same, sound, accounted⟩

/-- No function is ever held twice, and none is left without an owner exactly if no class is
allocated or deallocated by two functions and no class is initialized by two headers. -/
theorem ownershipViolations_convert {declarations : DeclarationSet} {result : Result}
    (converted : convert settings declarations = .ok result) :
    (∀ id, (result.draft.forest.owners.map (·.1)).count id ≤ 1) ∧
      (result.draft.forest.ownershipViolations = [] ↔
        (declarations.headers.flatMap (allocatedNames settings)).Nodup ∧
        (declarations.headers.flatMap (deallocatedNames settings)).Nodup ∧
        KeepsInitializers settings declarations.headers) := by
  obtain ⟨draft, same, sound, accounted⟩ := accounted_convert converted
  rw [same]
  constructor
  · intro id
    rw [← Multiset.coe_count, Forest.coe_owners]
    exact Multiset.nodup_iff_count_le_one.1 sound.once id
  · rw [sound.ownershipViolations_eq_nil_iff]
    exact accounted.lost

/-- A class with one allocator and one deallocator. -/
def pairedAllocator : DeclarationSet where
  headers := [{
    file := "tox.h"
    functions := [
      { name := "tox_new", returnType := { name := "Tox", isPointer := true } },
      { name := "tox_kill"
        returnType := { name := "void" }
        parameters := [{ name := "tox", type := { name := "Tox", isPointer := true } }] }]
    structs := ["Tox"] }]

theorem ownershipViolations_pairedAllocator :
    ∃ result, convert Settings.default pairedAllocator = .ok result ∧
      result.draft.forest.ownershipViolations = [] := by
  obtain ⟨result, converted, -⟩ := exists_converted (fun _ => ())
    (show (convert Settings.default pairedAllocator).toOption.map _ = some () by decide +kernel)
  refine ⟨result, converted, (ownershipViolations_convert converted).2.2 ⟨?_, ?_, ?_⟩⟩
  · decide +kernel
  · decide +kernel
  · exact keepsInitializers_singleton _

/-- A class with two functions that are named like allocators. -/
def secondAllocator : DeclarationSet where
  headers := [{
    file := "tox.h"
    functions := [
      { name := "tox_new", returnType := { name := "Tox", isPointer := true } },
      { name := "tox_new_copy", returnType := { name := "Tox", isPointer := true } }]
    structs := ["Tox"] }]

/-- The second allocator pushes out the first, which is then held by nothing. -/
theorem ownershipViolations_secondAllocator :
    ∃ result, convert Settings.default secondAllocator = .ok result ∧
      result.draft.forest.ownershipViolations = [0] :=
  exists_converted (fun result => result.draft.forest.ownershipViolations) (by decide +kernel)

end Conversion

end Bindery
