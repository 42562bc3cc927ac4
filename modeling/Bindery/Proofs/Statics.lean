import Bindery.Proofs.Seats
import Bindery.Proofs.Synthesis

/-!
# Static functions in nested classes

What no struct takes goes to the root class of its header as a static method, and if its first
parameter is a number handle, it moves on to a nested class and loses the number.  It stays static:
nothing looks at the flag again once functions have been hoisted.  Functions that make or destroy
objects are static as well, but they never leave their root class.
-/

namespace Bindery

variable {settings : Settings} {draft final : Draft} {forest : Forest} {c outer : ClassId}
  {id : FunctionId} {slot : Slot} {structs : List String} {function : Function}

namespace Hoisting

/-- Whether a function goes to the root class because no struct takes it. -/
def isLeftover (structs : List String) (settings : Settings) (function : Function) : Bool :=
  !isAllocator structs settings function && (structParameter? structs function).isNone

/-- What does not make or destroy an object is an instance method or a leftover. -/
theorem isLeftover_cases (structs : List String) (settings : Settings) (function : Function) :
    isAllocator structs settings function = true ∨
      ((object? structs settings function).isSome = true ∧
        isDeallocatorName settings function.name = true) ∨
      (!isInstance structs settings function) = isLeftover structs settings function := by
  rw [isInstance, isLeftover, object?]
  by_cases allocates : isAllocator structs settings function
  · exact .inl allocates
  · right
    rw [if_neg allocates, Bool.eq_false_of_not_eq_true allocates]
    cases structParameter? structs function with
    | none => exact .inr rfl
    | some className =>
        cases isDeallocatorName settings function.name with
        | true => exact .inl ⟨rfl, rfl⟩
        | false => exact .inr rfl

end Hoisting

namespace Forest

/-- A class below another one has no slot for making and destroying objects. -/
theorem HandlesFit.isRootSlot_eq_false (fits : forest.HandlesFit)
    (nested : forest.hierarchy.parent? c = some outer) (owned : (id, slot) ∈ forest.owners)
    (isHome : slot.home? = some c) : slot.isRootSlot = false := by
  have isNumber := fits.below c outer nested
  rcases mem_owners_iff.1 owned with ⟨-, rfl⟩ | ⟨home, -, rfl⟩ | ⟨home, inClass⟩
  · rfl
  · rfl
  · obtain rfl := Option.some.inj ((Class.home?_of_mem_owners inClass).symm.trans isHome)
    generalize forest.classAt home = content at inClass isNumber
    obtain ⟨isCallback, handle, defaultInit, properties, methods⟩ := content
    match handle with
    | some (.number type) =>
        rcases Class.mem_owners_iff.1 inClass with
          ⟨isAlloc, -⟩ | ⟨isDealloc, -⟩ | ⟨-, rfl⟩ | ⟨property, -, ⟨-, rfl⟩ | ⟨-, rfl⟩⟩ | ⟨-, rfl⟩
        · cases isAlloc
        · cases isDealloc
        all_goals rfl

end Forest

namespace Conversion

open Hoisting

/-- Which of the functions that a header takes in are left over, in the order in which they come.
Listeners are not. -/
def leftovers (settings : Settings) (header : HeaderDeclarations) : List Bool :=
  (Intake.functions settings header.functions).map
      (fun function => isLeftover header.structs settings (Throwing.withoutError settings function))
    ++ (callbacks settings header).map fun _ => false

/-- A function is static if it is left over, or it is in a slot for making or destroying objects. -/
def Flagged (leftover : Bool) (id : FunctionId) (forest : Forest) : Prop :=
  (forest.functionAt id).isStatic = leftover ∨
    ∀ slot, (id, slot) ∈ forest.owners → slot ≠ .free ∧ slot.isRootSlot = true

section Turn

variable {done : List HeaderDeclarations} {header : HeaderDeclarations} {rootClass : String}
  {start : Draft} {leftover : Bool} {position : Nat}
  (turn : Turn settings done header rootClass start final)

include turn

theorem flagged_old (present : id < start.forest.functionCount)
    (flagged : Flagged leftover id start.forest) : Flagged leftover id final.forest := by
  obtain ⟨course, -⟩ := exists_course turn.finished
  refine flagged.imp (fun same => ?_) fun slots slot owned => ?_
  · rw [course.isStatic_final_of_old turn.sound turn.accounted.free present, same]
  · obtain ⟨old, wasOwned, keeps⟩ :=
      (course.moves_final_of_start turn.sound).slot_before present owned
    obtain ⟨notFree, isRootSlot⟩ := slots old wasOwned
    obtain ⟨stillNotFree, same⟩ := keeps notFree
    exact ⟨stillNotFree, same.trans isRootSlot⟩

theorem flagged_new (isFlag : (leftovers settings header)[position]? = some leftover) :
    Flagged leftover (start.forest.functionCount + position) final.forest := by
  obtain ⟨course, -⟩ := exists_course turn.finished
  have sound := turn.sound
  have roots := turn.accounted.roots
  rcases arrival_cases isFlag with ⟨declared, isDeclared, rfl⟩ |
    ⟨signature, later, isCallback, rfl, rfl⟩
  · obtain ⟨isFree, throws, isFunction⟩ := course.converted_at turn.accounted.free isDeclared
    generalize start.forest.functionCount + position = id at isFree isFunction ⊢
    obtain ⟨declaration, -, rfl⟩ := List.mem_map.1 (List.mem_of_getElem? isDeclared)
    have notStatic : (Throwing.withoutError settings (declaration.intake settings)).isStatic =
        false := by
      rw [Throwing.withoutError_eq]
      rfl
    have settled := (course.settled_final sound roots isFree isFunction notStatic).2.2
    generalize Throwing.withoutError settings (declaration.intake settings) = bare at *
    have rests (noMethod : course.hoisted.forest.NoMethod id) : ∀ slot,
        (id, slot) ∈ final.forest.owners → slot ≠ .free ∧ slot.isRootSlot = true :=
      fun _ owned => course.slot_final_of_noMethod sound isFree noMethod owned
    -- What makes or destroys an object rests in its slot once it is hoisted; any other function is
    -- static exactly if it was left over.
    rcases isLeftover_cases header.structs settings bare with
      allocates | ⟨takes, deallocates⟩ | same
    · exact .inr (rests (course.noMethod_of_allocator sound isFree roots isFunction allocates))
    · exact .inr (rests
        (course.noMethod_of_deallocator sound isFree roots isFunction takes deallocates))
    · exact .inl (settled.trans same)
  · left
    have count := course.functionCount_placed sound
    obtain ⟨present, isListener⟩ := course.functionAt_listened isCallback
    rw [← Nat.add_assoc, ← count]
    refine (course.moves_listened_final sound).functionAt_induction
      (fun function => function.isStatic = false) present ?_ ?_
    · rw [isListener]
      rfl
    · intro kind function changed allowed step same
      exact (step.throws_eq allowed).2.trans same

end Turn

variable {declarations : DeclarationSet} {result : Result}

theorem length_leftovers (header : HeaderDeclarations) :
    (leftovers settings header).length = (arrivals settings header).length := by
  simp [leftovers, arrivals, callbacks]

theorem flagged_convert (converted : convert settings declarations = .ok result) {leftover : Bool}
    (isFlag : (declarations.headers.flatMap (leftovers settings))[id]? = some leftover) :
    Flagged leftover id result.draft.forest :=
  @arrival_induction settings declarations result Bool (leftovers settings) (fun _ => Flagged)
    length_leftovers flagged_old flagged_new converted id leftover isFlag

theorem handlesFit_convert (converted : convert settings declarations = .ok result) :
    result.draft.forest.HandlesFit := by
  obtain ⟨draft, same, -, accounted⟩ := accounted_convert converted
  rw [same, ← goOn_eq_of_ok settings accounted.processed]
  exact (fitsHandles_goOn declarations.headers Forest.sound_empty Forest.handlesFit_empty).2

/-- A function that a nested class owns is static exactly when it was left over when its header was
hoisted.  So the static properties of a nested class are those whose getters were left over, and
which take no parameters any more. -/
theorem isStatic_nested_convert (converted : convert settings declarations = .ok result)
    (nested : result.draft.forest.hierarchy.parent? c = some outer) :
    (∀ id slot, (id, slot) ∈ result.draft.forest.owners → slot.home? = some c →
      (declarations.headers.flatMap (leftovers settings))[id]? =
        some (result.draft.forest.functionAt id).isStatic) ∧
      ∀ property ∈ (result.draft.forest.classAt c).properties, property.isStatic = true →
        (declarations.headers.flatMap (leftovers settings))[property.getter]? = some true ∧
          (result.draft.forest.functionAt property.getter).params = [] := by
  have flags : ∀ id slot, (id, slot) ∈ result.draft.forest.owners → slot.home? = some c →
      (declarations.headers.flatMap (leftovers settings))[id]? =
        some (result.draft.forest.functionAt id).isStatic := by
    intro id slot owned isHome
    obtain ⟨leftover, isFlag⟩ :=
      @exists_tag_of_mem_owners settings declarations result Bool (leftovers settings)
        length_leftovers converted id slot owned
    rcases flagged_convert converted isFlag with same | slots
    · rw [isFlag, same]
    · have notRoot := (handlesFit_convert converted).isRootSlot_eq_false nested owned isHome
      rw [(slots slot owned).2] at notRoot
      cases notRoot
  refine ⟨flags, fun property member isStatic => ?_⟩
  have isFold : (property.getter, true) ∈ result.draft.forest.folds c :=
    Forest.mem_folds_iff.2 ⟨property, member, rfl, isStatic⟩
  have owned : (property.getter, .getter c property.name) ∈
      (result.draft.forest.classAt c).owners c :=
    Class.mem_owners_iff.2 (.inr (.inr (.inr (.inl ⟨property, member, .inl ⟨rfl, rfl⟩⟩))))
  obtain ⟨static, none⟩ := (folded_convert converted).getter_of_static isFold
  have isFlag := flags _ _ (Forest.mem_owners_of_class owned) rfl
  rw [static] at isFlag
  exact ⟨isFlag, none⟩

/-- A friend that is deleted from its instance, and a limit that is told without one. -/
def friendDelete : DeclarationSet where
  headers := [{
    file := "tox.h"
    functions := [
      { name := "tox_friend_delete"
        returnType := { name := "void" }
        parameters := [
          { name := "tox", type := { name := "Tox", isPointer := true } },
          { name := "friend_number", type := { name := "uint32_t" } }] },
      { name := "tox_friend_limit"
        returnType := { name := "uint32_t" }
        parameters := [{ name := "friend_number", type := { name := "uint32_t" } }] }]
    structs := ["Tox"] }]

theorem isStatic_friendDelete :
    ∃ result, convert Settings.default friendDelete = .ok result ∧
      result.draft.forest.hierarchy.parent? 1 = some 0 ∧
      (0, .method 1) ∈ result.draft.forest.owners ∧
      (result.draft.forest.functionAt 0).isStatic = false ∧
      ∃ property ∈ (result.draft.forest.classAt 1).properties, property.isStatic = true ∧
        (friendDelete.headers.flatMap (leftovers Settings.default))[property.getter]? =
          some true ∧
        (result.draft.forest.functionAt property.getter).params = [] := by
  obtain ⟨result, converted, known⟩ := exists_converted
    (fun result => decide (result.draft.forest.hierarchy.parent? 1 = some 0 ∧
      (0, .method 1) ∈ result.draft.forest.owners ∧
      ∃ property ∈ (result.draft.forest.classAt 1).properties, property.isStatic = true))
    (show (convert Settings.default friendDelete).toOption.map _ = some true by decide +kernel)
  obtain ⟨nested, owned, property, member, isStatic⟩ := of_decide_eq_true known
  obtain ⟨flags, statics⟩ := isStatic_nested_convert converted nested
  have bound : (friendDelete.headers.flatMap (leftovers Settings.default))[0]? = some false := by
    decide +kernel
  have isFlag := bound.symm.trans (flags 0 (.method 1) owned rfl)
  exact ⟨result, converted, nested, owned, (Option.some.inj isFlag).symm, property, member,
    isStatic, statics property member isStatic⟩

/-- A friend that is kicked without any instance. -/
def friendKick : DeclarationSet where
  headers := [{
    file := "tox.h"
    functions := [
      { name := "tox_friend_kick"
        returnType := { name := "void" }
        parameters := [
          { name := "friend_number", type := { name := "uint32_t" } },
          { name := "reason", type := { name := "uint32_t" } }] }] }]

/-- The method of the friend has lost the number of the friend, but it is static. -/
theorem isStatic_friendKick :
    ∃ result, convert Settings.default friendKick = .ok result ∧
      result.draft.forest.hierarchy.parent? 1 = some 0 ∧
      (0, .method 1) ∈ result.draft.forest.owners ∧
      (result.draft.forest.functionAt 0).isStatic = true ∧
      (result.draft.forest.functionAt 0).params.map (·.name) = ["reason"] := by
  obtain ⟨result, converted, known⟩ := exists_converted
    (fun result => decide (result.draft.forest.hierarchy.parent? 1 = some 0 ∧
      (0, .method 1) ∈ result.draft.forest.owners ∧
      (result.draft.forest.functionAt 0).isStatic = true ∧
      (result.draft.forest.functionAt 0).params.map (·.name) = ["reason"]))
    (show (convert Settings.default friendKick).toOption.map _ = some true by decide +kernel)
  exact ⟨result, converted, of_decide_eq_true known⟩

end Conversion

end Bindery
