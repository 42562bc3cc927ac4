import Bindery.Proofs.Calls
import Bindery.Proofs.Resting
import Bindery.Proofs.Turns

/-!
# Functions that make and destroy objects

Hoisting puts allocators and deallocators into the slots that their class has for them, where no
later pass comes to them, and every other function of a header becomes a method.  A function that
is no method once its header has been hoisted is therefore what it was then ever after, and of all
others nothing is known but that passes have come to them as methods.
-/

namespace Bindery

variable {settings : Settings} {kind : MoveKind} {kinds : Set MoveKind} {draft final : Draft}
  {before after forest : Forest} {c : ClassId} {id : FunctionId} {slot old : Slot}

/-- Whether a slot is one for the function that makes or destroys the object of a class. -/
def Slot.isRootSlot : Slot → Bool
  | alloc _ | dealloc _ => true
  | _ => false

/-- Once a function has left the free list it keeps to such slots or to the others. -/
theorem SlotStep.isRootSlot_eq {hierarchy : Hierarchy} (step : SlotStep hierarchy kind old slot)
    (notFree : old ≠ .free) : slot ≠ .free ∧ slot.isRootSlot = old.isRootSlot := by
  cases step with
  | stay => exact ⟨notFree, rfl⟩
  | allocate | deallocate | adopt | adoptAll => exact absurd rfl notFree
  | _ => exact ⟨nofun, rfl⟩

theorem Forest.mem_methods_of_mem_owners (owned : (id, .method c) ∈ forest.owners) :
    id ∈ forest.methods c := by
  rcases Forest.mem_owners_iff.1 owned with ⟨-, isSlot⟩ | ⟨home, -, isSlot⟩ | ⟨home, inClass⟩
  · cases isSlot
  · cases isSlot
  · obtain ⟨isMethod, rfl⟩ : id ∈ (forest.classAt home).methods ∧ c = home := by
      simpa [Class.mem_owners_iff] using inClass
    exact isMethod

/-- The kinds of moves that let a method be one. -/
def roamingKinds : Set MoveKind :=
  {kind | kind ∉ ({.detach, .takeInitializer, .addProperty, .addSetter} : Set MoveKind)}

theorem Move.exists_method_of_listen (move : Move settings .listen before after) :
    ∃ c, before.functionCount ∈ after.methods c := by
  cases move with
  | listen function name =>
      refine ⟨((before.addFunction function).requireClass none name).2, ?_⟩
      rw [Forest.methods, Forest.classAt_modifyClass_self (Hierarchy.snd_require_lt name (by simp))]
      simp [Class.addMethod]

namespace Moves

/-- The slot of a function comes from one that it had before, and from one of its sort unless it was
free. -/
theorem slot_before (moves : Moves settings kinds before after)
    (present : id < before.functionCount) (owned : (id, slot) ∈ after.owners) :
    ∃ old, (id, old) ∈ before.owners ∧
      (old ≠ .free → slot ≠ .free ∧ slot.isRootSlot = old.isRootSlot) := by
  induction moves generalizing slot with
  | refl => exact ⟨slot, owned, fun notFree => ⟨notFree, rfl⟩⟩
  | tail earlier last ih =>
      obtain ⟨kind, -, move⟩ := last
      have still := Nat.lt_of_lt_of_le present (functionCount_le earlier)
      obtain ⟨middle, wasOwned, step⟩ := move.slot_step still owned
      obtain ⟨old, isFirst, keeps⟩ := ih wasOwned
      refine ⟨old, isFirst, fun notFree => ?_⟩
      obtain ⟨stillNotFree, same⟩ := keeps notFree
      obtain ⟨endsNotFree, alsoSame⟩ := step.isRootSlot_eq stillNotFree
      exact ⟨endsNotFree, alsoSame.trans same⟩

/-- A method stays one where methods only go from class to class. -/
theorem staysMethod (moves : Moves settings kinds before after) (roams : kinds ⊆ roamingKinds)
    (sound : before.Sound) (isMethod : id ∈ before.methods c) :
    ∀ slot, (id, slot) ∈ after.owners → ∃ c, slot = .method c := by
  apply moves.slot_induction (fun _ slot => ∃ c, slot = .method c) sound
    (sound.lt_of_mem_methods isMethod)
  · exact fun slot owned => ⟨c, sound.slot_unique owned (Forest.mem_owners_of_method isMethod)⟩
  · exact fun _ _ isMethod => isMethod
  · rintro hierarchy kind old slot allowed step ⟨c, rfl⟩
    cases step with
    | stay => exact ⟨c, rfl⟩
    | descend => exact ⟨_, rfl⟩
    | _ => exact absurd (roams allowed) (by simp [roamingKinds])

/-- The functions of listeners are methods. -/
theorem slot_of_listen (moves : Moves settings {.listen} before after) (sound : before.Sound)
    (absent : before.functionCount ≤ id) :
    ∀ slot, (id, slot) ∈ after.owners → ∃ c, slot = .method c := by
  refine (moves.preserves
    (fun forest => ∀ slot, (id, slot) ∈ forest.owners → ∃ c, slot = .method c) sound
    (fun slot owned => absurd (sound.lt_of_mem_owners owned) (Nat.not_lt.2 absent))
    (fun {kind first second} allowed move sound fits slot owned => ?_)).2
  obtain rfl := Set.mem_singleton_iff.1 allowed
  have soundAfter := move.sound sound
  have count : second.functionCount = first.functionCount + 1 := move.functionCount_eq
  rcases Nat.lt_succ_iff_lt_or_eq.1 (count ▸ soundAfter.lt_of_mem_owners owned) with old | rfl
  · obtain ⟨old, wasOwned, step⟩ := move.slot_step old owned
    obtain ⟨c, rfl⟩ := fits old wasOwned
    cases step with
    | stay => exact ⟨c, rfl⟩
  · obtain ⟨c, isMethod⟩ := move.exists_method_of_listen
    exact ⟨c, soundAfter.slot_unique owned (Forest.mem_owners_of_method isMethod)⟩

end Moves

namespace Conversion

open Hoisting

variable {rootClass : String} {header : HeaderDeclarations} {start : Draft}
  {declared function : Function} {position : Nat}

namespace Course

variable (course : Course settings rootClass header start final)

/-- What is known of a declared function when functions are about to be hoisted. -/
theorem converted_at (noneFree : start.forest.free = [])
    (isDeclared : (Intake.functions settings header.functions)[position]? = some declared) :
    start.forest.functionCount + position ∈ course.converted.forest.free ∧
      ∃ throws, course.converted.forest.functionAt (start.forest.functionCount + position) =
        { Throwing.withoutError settings declared with throws } := by
  obtain ⟨free, -, -, converts⟩ := course.converted_spec noneFree
  refine ⟨?_, _, (converts position declared isDeclared).eq_withoutError⟩
  rw [free, List.mem_range'_1]
  exact ⟨Nat.le_add_right _ _,
    Nat.add_lt_add_left (List.getElem?_eq_some_iff.1 isDeclared).1 _⟩

/-- The listeners of a header stand after its functions. -/
theorem functionAt_listened {signature : FunctionDeclaration}
    (isCallback : (callbacks settings header)[position]? = some signature) :
    course.placed.forest.functionCount + position < course.listened.forest.functionCount ∧
      course.listened.forest.functionAt (course.placed.forest.functionCount + position) =
        (signature.intake settings).rename settings.canonical.callback := by
  have functions : course.listened.forest.functions = course.placed.forest.functions ++
      (callbacks settings header).map fun signature =>
        (signature.intake settings).rename settings.canonical.callback := functions_extract
  constructor
  · have counted := congrArg List.length functions
    rw [List.length_append, List.length_map] at counted
    exact Nat.lt_of_lt_of_eq
      (Nat.add_lt_add_left (List.getElem?_eq_some_iff.1 isCallback).1 _) counted.symm
  · rw [Forest.functionCount, Forest.functionAt_of_append functions, List.getElem?_map, isCallback]
    rfl

theorem free_hoisted : course.hoisted.forest.free = [] := by
  rw [hoisted, hoist, forest_hoistLeftovers rfl rfl]

variable (sound : start.forest.Sound)

include sound

theorem moves_roaming : Moves settings roamingKinds start.forest course.listened.forest := by
  apply Moves.trans ((course.moves_hoisted_of_start sound).mono _)
  apply (course.moves_listened_of_hoisted sound).mono _
  all_goals simp [roamingKinds, takeKinds, hoistKinds, handleKinds, Set.subset_def]

theorem moves_listened_final :
    Moves settings settledKinds course.listened.forest final.forest := by
  apply (course.moves_final_of_listened sound).mono
  simp [settledKinds, referKinds, promoteKinds, sizeKinds, memberKinds, Set.subset_def]

include course in
theorem moves_final_of_start : Moves settings Set.univ start.forest final.forest :=
  ((course.moves_roaming sound).mono (Set.subset_univ _)).trans
    ((course.moves_listened_final sound).mono (Set.subset_univ _))

theorem functionCount_placed : course.placed.forest.functionCount =
    start.forest.functionCount + (Intake.functions settings header.functions).length := by
  have taken : course.taken.forest.functionCount = start.forest.functionCount +
      (Intake.functions settings header.functions).length := by
    rw [Forest.functionCount, course.functions_taken, List.length_append]
    rfl
  rw [(course.moves_placed sound).functionCount_eq (by simp [handleKinds, MoveKind.adds]),
    (course.moves_hoisted sound).functionCount_eq (by simp [hoistKinds, MoveKind.adds]),
    (course.moves_converted sound).functionCount_eq (by simp [MoveKind.adds]), taken]

/-- A function that is there before a header is left alone until methods are gone through. -/
theorem spares_hoisted (noneFree : start.forest.free = [])
    (present : id < start.forest.functionCount) :
    Forest.Spares id start.forest course.hoisted.forest := by
  have notFree : id ∉ start.forest.free := by simp [noneFree]
  have taken : Forest.Spares id start.forest course.taken.forest :=
    (course.moves_taken sound).spares_take present
  have convertedSpares : Forest.Spares id course.taken.forest course.converted.forest := by
    have converts : Throwing.convertErrorParameters settings course.taken = .ok course.converted :=
      course.converts
    have spares := Throwing.spares_convertErrorParameters settings
      fun isFree => notFree (taken.free isFree)
    rw [converts] at spares
    exact spares
  have spared := taken.trans convertedSpares
  exact spared.trans (spares_hoist fun isFree => notFree (spared.free isFree))

include course in
/-- Whether a function is static is settled with its own header. -/
theorem isStatic_final_of_old (noneFree : start.forest.free = [])
    (present : id < start.forest.functionCount) :
    (final.forest.functionAt id).isStatic = (start.forest.functionAt id).isStatic := by
  have spares := course.spares_hoisted sound noneFree present
  have still : id < course.hoisted.forest.functionCount :=
    Nat.lt_of_lt_of_le present (Nat.le_trans (course.moves_taken sound).functionCount_le
      (Nat.le_trans (course.moves_converted sound).functionCount_le
        (course.moves_hoisted sound).functionCount_le))
  refine (course.moves_settled sound).functionAt_induction
    (fun function => function.isStatic = (start.forest.functionAt id).isStatic) still ?_ ?_
  · rw [spares.function]
  · intro kind function changed allowed step same
    exact (step.throws_eq allowed).2.trans same

section Placed

variable (isFree : id ∈ course.converted.forest.free)

include isFree

/-- The slots that hoisting gives. -/
theorem slot_hoisted (owned : (id, slot) ∈ course.hoisted.forest.owners) :
    slot.isRootSlot = true ∨ ∃ c, slot = .method c := by
  have convertedSound := course.sound_converted sound
  have fits := (course.moves_hoisted sound).slot_induction
    (fun _ slot => slot = .free ∨ slot.isRootSlot = true ∨ ∃ c, slot = .method c) convertedSound
    (convertedSound.lt_of_mem_free isFree)
    (fun slot owned => .inl
      (convertedSound.slot_unique owned (Forest.mem_owners_of_free isFree)))
    (fun _ _ fits => fits)
    (fun {hierarchy kind old slot} allowed step fits => by
      cases step with
      | stay => exact fits
      | allocate | deallocate => exact .inr (.inl rfl)
      | adopt | adoptAll => exact .inr (.inr ⟨_, rfl⟩)
      | _ => simp [hoistKinds] at allowed)
  refine (fits slot owned).resolve_left ?_
  rintro rfl
  rcases Forest.mem_owners_iff.1 owned with ⟨isFree, -⟩ | ⟨c, -, isSlot⟩ | ⟨c, inClass⟩
  · rw [course.free_hoisted] at isFree
    cases isFree
  · cases isSlot
  · cases Class.home?_of_mem_owners inClass

/-- What hoisting does not make a method has a slot for making or destroying objects for good. -/
theorem slot_final_of_noMethod (noMethod : course.hoisted.forest.NoMethod id)
    (owned : (id, slot) ∈ final.forest.owners) : slot ≠ .free ∧ slot.isRootSlot = true := by
  obtain ⟨old, wasOwned, keeps⟩ := (course.moves_settled sound).slot_before
    (course.present_hoisted sound isFree) owned
  rcases course.slot_hoisted sound isFree wasOwned with isRootSlot | ⟨c, rfl⟩
  · have notFree : old ≠ .free := by
      rintro rfl
      cases isRootSlot
    obtain ⟨stillNotFree, same⟩ := keeps notFree
    exact ⟨stillNotFree, same.trans isRootSlot⟩
  · exact absurd (Forest.mem_methods_of_mem_owners wasOwned) (noMethod c)

theorem rests_of_noMethod (noMethod : course.hoisted.forest.NoMethod id) :
    course.hoisted.forest.Rests id where
  present := course.present_hoisted sound isFree
  placed := by simp [course.free_hoisted]
  noMethod := noMethod

variable (roots : start.forest.RootsHold)
  (isFunction : course.converted.forest.functionAt id = function)

include roots isFunction

/-- Allocators do not become methods. -/
theorem noMethod_of_allocator (allocates : isAllocator header.structs settings function = true) :
    course.hoisted.forest.NoMethod id := by
  have convertedSound := course.sound_converted sound
  have moves := makes_hoistAllocators settings header.structs course.converted convertedSound
  have notFree : id ∉ course.allocated.forest.free := by
    rw [(course.hoists_allocated sound roots).mem_free_iff, isFunction, allocator?,
      if_pos allocates]
    simp
  have slots := moves.slot_induction (fun _ slot => ∀ c, slot ≠ .method c) convertedSound
    (convertedSound.lt_of_mem_free isFree)
    (fun slot owned c isMethod => by
      have isFreeSlot :=
        convertedSound.slot_unique owned (Forest.mem_owners_of_free isFree)
      cases isFreeSlot.symm.trans isMethod)
    (fun _ _ fits => fits)
    (fun {hierarchy kind old slot} allowed step fits => by
      cases step with
      | stay => exact fits
      | allocate => exact fun _ isMethod => by cases isMethod
      | _ => simp at allowed)
  have rests : course.allocated.forest.Rests id :=
    ⟨Nat.lt_of_lt_of_le (convertedSound.lt_of_mem_free isFree) moves.functionCount_le, notFree,
      fun c isMethod => slots _ (Forest.mem_owners_of_method isMethod) c rfl⟩
  have among : [Pass.ofTotal (hoistStructFunctions header.structs settings),
      Pass.ofTotal (hoistLeftovers rootClass)] ⊆ passes settings rootClass header := by
    simp [passes, Grouping.passes]
  have ran : Pass.run [Pass.ofTotal (hoistStructFunctions header.structs settings),
      Pass.ofTotal (hoistLeftovers rootClass)] course.allocated = .ok course.hoisted := rfl
  exact ((leavesResting_run among).ok ran (course.sound_allocated sound) rests).1.noMethod

/-- Deallocators do not become methods. -/
theorem noMethod_of_deallocator (takes : (object? header.structs settings function).isSome = true)
    (deallocates : isDeallocatorName settings function.name = true) :
    course.hoisted.forest.NoMethod id := by
  intro c isMethod
  obtain ⟨home, isSlot⟩ := (course.fits_hoisted sound roots isFree isFunction
    (Forest.mem_owners_of_method isMethod)).deallocator takes deallocates
  cases isSlot

end Placed

end Course

end Conversion

end Bindery
