import Bindery.Proofs.Owners
import Bindery.Proofs.Ownership

/-!
# Where the functions of a header are placed

The hoisting passes give every function of a header a slot of a top class, and what they take off
its parameters tells which: functions that take a known struct first lose it and go to the class
of that struct, and all others keep their parameters.
-/

namespace Bindery

variable {settings : Settings} {structs : List String} {forest : Forest} {draft final : Draft}
  {id new : FunctionId} {c : ClassId} {function : Function} {slot : Slot} {rootClass : String}

namespace Hoisting

/-- The class of the struct that a function is hoisted to and loses.  Allocators lose none. -/
def object? (structs : List String) (settings : Settings) (function : Function) :
    Option String :=
  if isAllocator structs settings function then none else structParameter? structs function

/-- The class that a function is hoisted to: that of what it allocates, that of the struct that it
takes first, or else the root class. -/
def destination (structs : List String) (settings : Settings) (rootClass : String)
    (function : Function) : String :=
  if isAllocator structs settings function then function.ret.type.name
  else (structParameter? structs function).getD rootClass

theorem destination_of_object? {rootClass className : String}
    (isObject : object? structs settings function = some className) :
    destination structs settings rootClass function = className := by
  rw [object?] at isObject
  rw [destination]
  split at isObject
  · cases isObject
  · rename_i noAllocator
    rw [if_neg noAllocator, isObject, Option.getD_some]

/-- What becomes of a function that is hoisted. -/
def place (structs : List String) (settings : Settings) (function : Function) : Function :=
  if isAllocator structs settings function then makeAllocator settings function
  else (member? structs settings function).getD (makeStatic function)

/-- The parameters of a function but for the struct that it loses. -/
def withoutObject (structs : List String) (settings : Settings) (function : Function) :
    List Argument :=
  match object? structs settings function with
  | some _ => function.params.eraseIdx 0
  | none => function.params

/-- Whether a function becomes a method of the struct that it takes first. -/
def isInstance (structs : List String) (settings : Settings) (function : Function) : Bool :=
  (object? structs settings function).isSome && !isDeallocatorName settings function.name

/-- Placing a function changes its name, and beyond that only what is taken off its parameters and
whether it is static: it stays so, or becomes so unless it is a method of a struct. -/
theorem place_eq (structs : List String) (settings : Settings) (function : Function) :
    place structs settings function =
      { function with
        name := (place structs settings function).name
        params := withoutObject structs settings function
        isStatic := function.isStatic || !isInstance structs settings function } := by
  rw [place, withoutObject, isInstance, object?, member?]
  by_cases allocates : isAllocator structs settings function
  · simp [allocates, makeAllocator]
  · cases structParameter? structs function with
    | none => simp [allocates, makeStatic]
    | some className =>
        by_cases deallocates : isDeallocatorName settings function.name
        · simp [allocates, deallocates, makeDeallocator, Function.dropParameter]
        · simp [allocates, deallocates, Function.dropParameter]

/-- Whether a slot is one that the function may be hoisted to. -/
structure Fits (structs : List String) (settings : Settings) (rootClass : String)
    (function : Function) (hierarchy : Hierarchy) (slot : Slot) : Prop where
  home : ∃ c < hierarchy.size, slot.home? = some c ∧ hierarchy.parent? c = none ∧
    hierarchy.name c = destination structs settings rootClass function
  deallocator : (object? structs settings function).isSome = true →
    isDeallocatorName settings function.name = true → ∃ c, slot = .dealloc c

theorem Fits.mono {older newer : Hierarchy}
    (fits : Fits structs settings rootClass function older slot) (growth : older.Extends newer) :
    Fits structs settings rootClass function newer slot := by
  obtain ⟨c, valid, isHome, isRoot, named⟩ := fits.home
  refine ⟨⟨c, Nat.lt_of_lt_of_le valid growth.size_le, isHome, ?_, ?_⟩, fits.deallocator⟩
  · rw [growth.parent?_eq valid]
    exact isRoot
  · rw [growth.name_eq valid]
    exact named

/-- Whether a function that is still free is as it should be, and one that is not has a slot that
fits. -/
structure Placing (structs : List String) (settings : Settings) (rootClass : String)
    (function : Function) (Waits : Function → Prop) (id : FunctionId) (forest : Forest) : Prop where
  waits : id ∈ forest.free → Waits (forest.functionAt id)
  fits : ∀ slot, (id, slot) ∈ forest.owners →
    slot = .free ∨ Fits structs settings rootClass function forest.hierarchy slot

namespace Placing

variable {Waits : Function → Prop}

theorem require (placing : Placing structs settings rootClass function Waits id forest)
    (parent : Option ClassId) (name : String) :
    Placing structs settings rootClass function Waits id (forest.requireClass parent name).1 where
  waits := placing.waits
  fits := by
    intro slot owned
    have before : (id, slot) ∈ forest.owners := by
      rw [Forest.mem_owners_iff] at owned ⊢
      simp only [Forest.classAt_requireClass] at owned
      exact owned
    exact (placing.fits slot before).imp_right
      fun fits => fits.mono (forest.hierarchy.extends_require parent name)

/-- A function is taken off the free list, changed, and put into the slot of a class. -/
theorem put {change : Class → Class} {edit : Function → Function} {target : Slot}
    (placing : Placing structs settings rootClass function Waits id forest)
    (brings : ∀ content : Class, (change content).owners c ⊆ (new, target) :: content.owners c)
    (fits : new = id → Fits structs settings rootClass function forest.hierarchy target) :
    Placing structs settings rootClass function Waits id
      (((forest.modifyClass c change).takeFree new).modifyFunction new edit) where
  waits := by
    intro isFree
    obtain ⟨wasFree, different⟩ : id ∈ forest.free ∧ id ≠ new := by
      simpa [Forest.takeFree, Forest.modifyFunction, Forest.modifyClass] using isFree
    rw [Forest.functionAt_modifyFunction_of_ne different]
    exact placing.waits wasFree
  fits := by
    intro slot owned
    rcases Forest.mem_owners_iff.1 owned with ⟨-, isSlot⟩ | isDetached | ⟨place, inClass⟩
    · exact .inl isSlot
    · exact placing.fits slot (Forest.mem_owners_iff.2 (.inr (.inl isDetached)))
    · rcases Forest.classAt_modifyClass_or forest c change place with same | ⟨rfl, changed⟩
      · have inForest : (id, slot) ∈ (forest.classAt place).owners place := same ▸ inClass
        exact placing.fits slot (Forest.mem_owners_of_class inForest)
      · have inChanged : (id, slot) ∈ (change (forest.classAt place)).owners place :=
          changed ▸ inClass
        rcases List.mem_cons.1 (brings _ inChanged) with isNew | old
        · cases isNew
          exact .inr (fits rfl)
        · exact placing.fits slot (Forest.mem_owners_of_class old)

end Placing

/-- What stays free is what nothing becomes of. -/
theorem Hoists.mem_free_iff {root : RootSlot} {named? : Function → Option String}
    {taken? : Function → Option Function} {before after : Forest}
    (hoists : Hoists root named? taken? before.free before after) :
    id ∈ after.free ↔ id ∈ before.free ∧ taken? (before.functionAt id) = none := by
  rw [hoists.free, List.mem_filter]
  apply and_congr_right
  intro isFree
  simp [isFree]

/-! ## One function at a time -/

theorem placing_hoistAllocator (roots : draft.forest.RootsHold)
    (placing : Placing structs settings rootClass function (· = function) id draft.forest)
    (isFree : new ∈ draft.forest.free) :
    Placing structs settings rootClass function (· = function) id
      (hoistAllocator structs settings draft new).forest := by
  rw [forest_hoistAllocator_of_roots roots rfl]
  by_cases allocates : isAllocator structs settings (draft.forest.functionAt new)
  · rw [if_pos allocates]
    apply (placing.require none _).put
    · exact fun content => RootSlot.owners_fill_subset .alloc new content
    · rintro rfl
      have isFunction := placing.waits isFree
      rw [isFunction] at allocates
      have noObject : object? structs settings function = none := if_pos allocates
      constructor
      · refine ⟨_, Hierarchy.snd_require_lt _ (by simp), rfl,
          Hierarchy.parent?_require _ (by simp), ?_⟩
        rw [destination, if_pos allocates, ← isFunction]
        exact Hierarchy.name_require _ (by simp)
      · simp [noObject]
  · rw [if_neg allocates]
    exact placing

/-- What is known of a function that waits for its class or has got it, once all allocators have
theirs. -/
def IsMember (structs : List String) (settings : Settings) (function current : Function) : Prop :=
  current = function ∧ isAllocator structs settings function = false

theorem placing_hoistStructFunction (roots : draft.forest.RootsHold)
    (placing : Placing structs settings rootClass function (IsMember structs settings function) id
      draft.forest)
    (isFree : new ∈ draft.forest.free) :
    Placing structs settings rootClass function (IsMember structs settings function) id
      (hoistStructFunction structs settings draft new).forest := by
  cases takes : structParameter? structs (draft.forest.functionAt new) with
  | none =>
      rw [hoistStructFunction_of_none takes]
      exact placing
  | some className =>
      have fits {target : Slot} (isHome : target.home? =
            some (draft.forest.requireClass none className).2)
          (deallocator : isDeallocatorName settings (draft.forest.functionAt new).name = true →
            target = .dealloc (draft.forest.requireClass none className).2) (same : new = id) :
          Fits structs settings rootClass function
            (draft.forest.requireClass none className).1.hierarchy target := by
        subst same
        obtain ⟨isFunction, noAllocator⟩ := placing.waits isFree
        rw [isFunction] at takes deallocator
        have isObject : object? structs settings function = some className := by
          rw [object?, noAllocator]
          exact takes
        constructor
        · refine ⟨_, Hierarchy.snd_require_lt _ (by simp), isHome,
            Hierarchy.parent?_require _ (by simp), ?_⟩
          rw [destination_of_object? isObject]
          exact Hierarchy.name_require _ (by simp)
        · exact fun _ deallocates => ⟨_, deallocator deallocates⟩
      rw [forest_hoistStructFunction_of_roots roots takes rfl]
      by_cases deallocates : isDeallocatorName settings (draft.forest.functionAt new).name
      · rw [if_pos deallocates]
        apply (placing.require none className).put
        · exact fun content => RootSlot.owners_fill_subset .dealloc new content
        · exact fits rfl fun _ => rfl
      · rw [if_neg deallocates]
        apply (placing.require none className).put
        · exact fun content => Class.owners_addMethod_subset content new
        · exact fits rfl fun deallocates' => absurd deallocates' deallocates

/-- A loop over free functions keeps what each of its steps keeps. -/
theorem foldl_free {Invariant : Forest → Prop} {step : Draft → FunctionId → Draft}
    {kinds : Set MoveKind} {ids : List FunctionId}
    (each : ∀ draft new, draft.forest.RootsHold → new ∈ draft.forest.free →
      Invariant draft.forest → Invariant (step draft new).forest)
    (moves : ∀ draft id rest, FreeRemain (id :: rest) draft.forest →
      Moves settings kinds draft.forest (step draft id).forest ∧
        FreeRemain rest (step draft id).forest)
    (sound : draft.forest.Sound) (roots : draft.forest.RootsHold)
    (remain : FreeRemain ids draft.forest) (start : Invariant draft.forest) :
    Invariant (ids.foldl step draft).forest := by
  induction ids generalizing draft with
  | nil => exact start
  | cons new rest ih =>
      obtain ⟨made, remaining⟩ := moves draft new rest remain
      obtain ⟨nextSound, nextRoots⟩ := made.preserves Forest.RootsHold sound roots
        fun _ move _ roots => move.rootsHold roots
      exact ih nextSound nextRoots remaining (each draft new roots remain.isFree start)

/-! ## What is left over -/

theorem functionAt_staticForest (forest : Forest) (ids : List FunctionId)
    (present : id < forest.functionCount) :
    (staticForest forest ids).functionAt id =
      if id ∈ ids then makeStatic (forest.functionAt id) else forest.functionAt id := by
  induction ids generalizing forest with
  | nil => rfl
  | cons first rest ih =>
      have stillPresent : id < (forest.modifyFunction first makeStatic).functionCount := by
        rw [Forest.functionCount_modifyFunction]
        exact present
      calc
        (staticForest forest (first :: rest)).functionAt id =
            if id ∈ rest then makeStatic ((forest.modifyFunction first makeStatic).functionAt id)
            else (forest.modifyFunction first makeStatic).functionAt id :=
          ih (forest.modifyFunction first makeStatic) stillPresent
        _ = if id ∈ first :: rest then makeStatic (forest.functionAt id)
            else forest.functionAt id := by
          by_cases same : id = first
          · subst same
            rw [Forest.functionAt_modifyFunction_self present, if_pos List.mem_cons_self]
            exact ite_self _
          · rw [Forest.functionAt_modifyFunction_of_ne same]
            simp [same]

/-- What is still free is static and a method of the root class afterwards. -/
theorem functionAt_hoistLeftovers (rootClass : String) (present : id < draft.forest.functionCount) :
    (hoistLeftovers rootClass draft).forest.functionAt id =
      if id ∈ draft.forest.free then makeStatic (draft.forest.functionAt id)
      else draft.forest.functionAt id := by
  rw [forest_hoistLeftovers rfl rfl, ← functionAt_staticForest _ _ present]
  rfl

theorem placing_staticForest {needed : Prop}
    (placing : Placing structs settings rootClass function (fun _ => needed) id forest)
    (ids : List FunctionId) :
    Placing structs settings rootClass function (fun _ => needed) id (staticForest forest ids) := by
  induction ids generalizing forest with
  | nil => exact placing
  | cons first rest ih => exact ih ⟨placing.waits, placing.fits⟩

theorem fits_hoistLeftovers
    (placing : Placing structs settings rootClass function
      (fun _ => object? structs settings function = none ∧
        destination structs settings rootClass function = rootClass) id draft.forest)
    (owned : (id, slot) ∈ (hoistLeftovers rootClass draft).forest.owners) :
    Fits structs settings rootClass function (hoistLeftovers rootClass draft).forest.hierarchy
      slot := by
  generalize isStatic : staticForest draft.forest draft.forest.free = static
  generalize isRequired : static.requireClass none rootClass = required
  have static_placing := isStatic ▸ placing_staticForest placing draft.forest.free
  have placing := isRequired ▸ static_placing.require none rootClass
  rw [forest_hoistLeftovers isStatic isRequired] at owned ⊢
  have fits (inRequired : (id, slot) ∈ required.1.owners) (isHome : slot.home? ≠ none) :
      Fits structs settings rootClass function required.1.hierarchy slot := by
    rcases placing.fits slot inRequired with rfl | fits
    · exact absurd rfl isHome
    · exact fits
  -- Only the root class is given anything, and what it is given was free.
  rcases Forest.mem_owners_iff.1 owned with ⟨isFree, -⟩ | ⟨c, isDetached, rfl⟩ | ⟨place, inClass⟩
  · cases isFree
  · apply fits (Forest.mem_owners_of_detached isDetached)
    nofun
  · have isHome := Class.home?_of_mem_owners inClass
    rcases Forest.classAt_modifyClass_or required.1 required.2
      (fun c => { c with methods := c.methods ++ required.1.free }) place with same | ⟨rfl, changed⟩
    · have old : (id, slot) ∈ (required.1.classAt place).owners place := same ▸ inClass
      apply fits (Forest.mem_owners_of_class old)
      simp [isHome]
    · have split : (id, slot) ∈ (required.1.classAt required.2).owners required.2 ++
          required.1.free.map (·, Slot.method required.2) := by
        rw [← Class.owners_addMethods]
        exact changed ▸ inClass
      rcases List.mem_append.1 split with old | isNew
      · apply fits (Forest.mem_owners_of_class old)
        simp [isHome]
      · obtain ⟨new, isFree, same⟩ := List.mem_map.1 isNew
        cases same
        obtain ⟨noObject, isRoot⟩ := placing.waits isFree
        constructor
        · refine ⟨required.2, ?_, rfl, ?_, ?_⟩
          · exact isRequired ▸ Hierarchy.snd_require_lt _ (by simp)
          · exact isRequired ▸ Hierarchy.parent?_require _ (by simp)
          · rw [isRoot]
            exact isRequired ▸ Hierarchy.name_require rootClass (by simp)
        · simp [noObject]

end Hoisting

namespace Conversion.Course

open Hoisting

variable {rootClass : String} {header : HeaderDeclarations} {start : Draft}

variable (course : Course settings rootClass header start final)

variable (sound : start.forest.Sound) (roots : start.forest.RootsHold)
  (isFree : id ∈ course.converted.forest.free)
  (isFunction : course.converted.forest.functionAt id = function)

include sound roots isFree isFunction

/-- What becomes of a function that is free before the hoisting passes. -/
theorem functionAt_hoisted :
    course.hoisted.forest.functionAt id = place header.structs settings function := by
  have allocates := course.hoists_allocated sound roots
  have takes := course.hoists_membered sound roots
  have present : id < course.membered.forest.functionCount := by
    have convertedSound := course.sound_converted sound
    have allocated := makes_hoistAllocators settings header.structs course.converted convertedSound
    have membered := makes_hoistStructFunctions settings header.structs course.allocated
      (course.sound_allocated sound)
    exact Nat.lt_of_lt_of_le (convertedSound.lt_of_mem_free isFree)
      (Nat.le_trans allocated.functionCount_le membered.functionCount_le)
  have left := functionAt_hoistLeftovers rootClass present
  have tookStruct := takes.functionAt id
  have tookAllocator := allocates.functionAt id
  rw [if_pos isFree, isFunction] at tookAllocator
  by_cases allocator : isAllocator header.structs settings function
  -- An allocator is gone from the free list before the other two passes look at it.
  · have isTaken : allocator? header.structs settings function =
        some (makeAllocator settings function) := by
      rw [allocator?, if_pos allocator]
    have notWaiting : id ∉ course.allocated.forest.free := by
      rw [allocates.mem_free_iff, isFunction, isTaken]
      simp
    have notLeft : id ∉ course.membered.forest.free := by
      rw [takes.mem_free_iff]
      exact fun waits => notWaiting waits.1
    rw [if_neg notLeft, tookStruct, if_neg notWaiting, tookAllocator, isTaken] at left
    rw [place, if_pos allocator]
    exact left
  -- Any other function comes to the second pass as it came to the first.
  · have untaken : allocator? header.structs settings function = none := by
      rw [allocator?, if_neg allocator]
    have waits : id ∈ course.allocated.forest.free := by
      rw [allocates.mem_free_iff, isFunction]
      exact ⟨isFree, untaken⟩
    have waiting : course.allocated.forest.functionAt id = function := by
      rw [tookAllocator, untaken]
      rfl
    rw [if_pos waits, waiting] at tookStruct
    have isLeft : id ∈ course.membered.forest.free ↔
        member? header.structs settings function = none := by
      rw [takes.mem_free_iff, waiting]
      exact and_iff_right waits
    simp only [isLeft, tookStruct] at left
    rw [place, if_neg allocator]
    apply left.trans
    cases member? header.structs settings function <;> rfl

/-- The slot that such a function has after the hoisting passes. -/
theorem fits_hoisted (owned : (id, slot) ∈ course.hoisted.forest.owners) :
    Fits header.structs settings rootClass function course.hoisted.forest.hierarchy slot := by
  have convertedSound := course.sound_converted sound
  have allocates := course.hoists_allocated sound roots
  have takes := course.hoists_membered sound roots
  -- Each pass hands on where the function can be and what it looks like while it waits.
  have converted : Placing header.structs settings rootClass function (· = function) id
      course.converted.forest := by
    refine ⟨fun _ => isFunction, fun slot owned => .inl ?_⟩
    exact convertedSound.slot_unique owned (Forest.mem_owners_of_free isFree)
  have allocated : Placing header.structs settings rootClass function (· = function) id
      course.allocated.forest :=
    foldl_free (fun _ _ roots isFree placing => placing_hoistAllocator roots placing isFree)
      (fun _ _ _ => moves_hoistAllocator) convertedSound
      (course.gains_converted sound roots .alloc).roots (.start convertedSound) converted
  have notAllocator (waits : id ∈ course.allocated.forest.free) :
      isAllocator header.structs settings function = false := by
    obtain ⟨-, untaken⟩ := allocates.mem_free_iff.1 waits
    simpa [isFunction, allocator?] using untaken
  have membered : Placing header.structs settings rootClass function
      (IsMember header.structs settings function) id course.membered.forest :=
    foldl_free (fun _ _ roots isFree placing => placing_hoistStructFunction roots placing isFree)
      (fun _ _ _ => moves_hoistStructFunction) (course.sound_allocated sound)
      allocates.gains.roots (.start (course.sound_allocated sound))
      ⟨fun waits => ⟨allocated.waits waits, notAllocator waits⟩, allocated.fits⟩
  have leftOver (isLeft : id ∈ course.membered.forest.free) :
      object? header.structs settings function = none ∧
        destination header.structs settings rootClass function = rootClass := by
    obtain ⟨waits, untaken⟩ := takes.mem_free_iff.1 isLeft
    rw [allocated.waits waits, member?, Option.map_eq_none_iff] at untaken
    rw [object?, destination, notAllocator waits, untaken]
    exact ⟨rfl, rfl⟩
  exact fits_hoistLeftovers ⟨leftOver, membered.fits⟩ owned

end Conversion.Course

end Bindery
