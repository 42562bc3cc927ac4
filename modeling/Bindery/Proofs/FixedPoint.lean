import Bindery.Proofs.Settling

/-!
# The fixed point of number handles

With a marker to look for, no method can be stuck, so the loop over number handles comes to an end
on every forest in which no function is a method twice.  It ends with a round that finds nothing,
and the class prefixes which that round still takes off are no parameters, so nothing would be found
again.  All that any number of rounds does to who holds what is that methods go down into nested
classes, some of which are new.
-/

namespace Bindery

variable {settings : Settings} {kind : MoveKind} {before middle after forest : Forest}
  {id : FunctionId}

/-! ## Methods that go down -/

namespace Hierarchy

variable {older newer hierarchy : Hierarchy} {outer inner : ClassId}

/-- Whether a class is the given one or is nested in it, at any depth. -/
def Within (hierarchy : Hierarchy) (outer : ClassId) : ClassId → Prop :=
  Relation.ReflTransGen (fun outer inner => hierarchy.parent? inner = some outer) outer

theorem Within.extends (within : older.Within outer inner) (growth : older.Extends newer) :
    newer.Within outer inner := by
  induction within with
  | refl => exact .refl
  | tail _ isParent ih =>
      exact ih.tail ((growth.parent?_eq (lt_size_of_parent? isParent)).trans isParent)

end Hierarchy

namespace Forest

theorem methodsDistinct_iff :
    forest.MethodsDistinct ↔ (forest.allClasses.flatMap forest.methods).Nodup := by
  refine ⟨MethodsDistinct.nodup_allMethods, fun nodup => ?_⟩
  obtain ⟨each, apart⟩ := List.nodup_flatMap.1 nodup
  constructor
  · intro c
    rcases Nat.lt_or_ge c forest.hierarchy.size with valid | beyond
    · exact each c (Hierarchy.mem_all_iff.2 valid)
    · rw [methods, classAt_of_size_le beyond]
      exact List.nodup_nil
  · intro id left right inLeft inRight
    by_contra different
    have isLeft := Hierarchy.mem_all_iff.2 (lt_size_of_mem_methods inLeft)
    have isRight := Hierarchy.mem_all_iff.2 (lt_size_of_mem_methods inRight)
    have symmetric : Std.Symm (Function.onFun List.Disjoint forest.methods) :=
      ⟨fun _ _ disjoint => disjoint.symm⟩
    exact apart.forall isLeft isRight different inLeft inRight

instance (forest : Forest) : Decidable forest.MethodsDistinct :=
  decidable_of_iff _ methodsDistinct_iff.symm

/-- Methods went into classes nested in theirs, classes may have come to wrap numbers, and all else
that is held stayed where it was. -/
structure Lowers (before after : Forest) : Prop where
  grows : before.hierarchy.Extends after.hierarchy
  goes : ∀ {id outer}, id ∈ before.methods outer →
    ∃ inner, id ∈ after.methods inner ∧ after.hierarchy.Within outer inner
  came : ∀ {id inner}, id ∈ after.methods inner →
    ∃ outer, id ∈ before.methods outer ∧ after.hierarchy.Within outer inner
  free : after.free = before.free
  detached : after.detached = before.detached
  properties : ∀ c, (after.classAt c).properties = (before.classAt c).properties
  defaultInit : ∀ c, (after.classAt c).defaultInit = (before.classAt c).defaultInit
  handle : ∀ c handle, (before.classAt c).handle = some handle →
    (after.classAt c).handle = some handle
  enums : after.enums = before.enums
  exceptions : after.exceptions = before.exceptions

namespace Lowers

theorem refl (forest : Forest) : forest.Lowers forest where
  grows := .refl _
  goes := fun isMethod => ⟨_, isMethod, .refl⟩
  came := fun isMethod => ⟨_, isMethod, .refl⟩
  free := rfl
  detached := rfl
  properties := fun _ => rfl
  defaultInit := fun _ => rfl
  handle := fun _ _ isHandle => isHandle
  enums := rfl
  exceptions := rfl

theorem trans (first : before.Lowers middle) (second : middle.Lowers after) :
    before.Lowers after where
  grows := first.grows.trans second.grows
  goes := by
    intro id outer isMethod
    obtain ⟨between, isBetween, entered⟩ := first.goes isMethod
    obtain ⟨inner, isInner, deeper⟩ := second.goes isBetween
    exact ⟨inner, isInner, (entered.extends second.grows).trans deeper⟩
  came := by
    intro id inner isMethod
    obtain ⟨between, isBetween, deeper⟩ := second.came isMethod
    obtain ⟨outer, isOuter, entered⟩ := first.came isBetween
    exact ⟨outer, isOuter, (entered.extends second.grows).trans deeper⟩
  free := second.free.trans first.free
  detached := second.detached.trans first.detached
  properties := fun c => (second.properties c).trans (first.properties c)
  defaultInit := fun c => (second.defaultInit c).trans (first.defaultInit c)
  handle := fun c handle isHandle => second.handle c handle (first.handle c handle isHandle)
  enums := second.enums.trans first.enums
  exceptions := second.exceptions.trans first.exceptions

end Lowers

end Forest

namespace NumberHandles

section Moved

variable (move : Move settings kind before after) (allowed : kind ∈ roundKinds)

include move allowed

/-- A move of a round changes only the methods of a class and the handle of one that had none. -/
theorem content_eq (c : ClassId) :
    (after.classAt c).properties = (before.classAt c).properties ∧
      (after.classAt c).defaultInit = (before.classAt c).defaultInit ∧
      ∀ handle, (before.classAt c).handle = some handle →
        (after.classAt c).handle = some handle := by
  rcases move.classAt_step c with same | step
  · rw [same]
    exact ⟨rfl, rfl, fun _ isHandle => isHandle⟩
  · generalize before.classAt c = content at step
    generalize after.classAt c = changed at step
    cases step with
    | leave isMethod => exact ⟨rfl, rfl, fun _ isHandle => isHandle⟩
    | @arrive _ _ _ type isInner cameFrom =>
        refine ⟨rfl, rfl, fun handle isHandle => ?_⟩
        simp [Class.addMethod, wrapNumber, isHandle]
    | _ => simp [roundKinds] at allowed

theorem outside_eq :
    after.free = before.free ∧ after.detached = before.detached ∧ after.enums = before.enums ∧
      after.exceptions = before.exceptions := by
  cases move with
  | edit edited => exact ⟨rfl, rfl, rfl, rfl⟩
  | require name below => exact ⟨rfl, rfl, rfl, rfl⟩
  | descend isMethod valid isInner leading marked =>
      rw [Forest.descend_eq isMethod _ (Nat.ne_of_lt (Hierarchy.parent_lt isInner))]
      exact ⟨rfl, rfl, rfl, rfl⟩
  | _ => simp [roundKinds] at allowed

/-- A method stays in its class or goes into one directly below it. -/
theorem methods_or_descends (distinct : before.MethodsDistinct) :
    (∀ c, after.methods c = before.methods c) ∨
      ∃ moving outer inner, moving ∈ before.methods outer ∧
        after.hierarchy.parent? inner = some outer ∧
        ∀ id place, id ∈ after.methods place ↔
          if id = moving then place = inner else id ∈ before.methods place := by
  cases move with
  | edit edited => exact .inl fun _ => rfl
  | require name below =>
      refine .inl fun c => ?_
      rw [Forest.methods, Forest.classAt_requireClass]
      rfl
  | descend isMethod valid isInner leading marked =>
      have different := Nat.ne_of_lt (Hierarchy.parent_lt isInner)
      refine .inr ⟨_, _, _, isMethod, ?_, fun id place =>
        distinct.mem_methods_descend_iff isMethod different valid⟩
      rw [Forest.descend_eq isMethod _ different]
      exact isInner
  | _ => simp [roundKinds] at allowed

theorem lowers_of_move (distinct : before.MethodsDistinct) : before.Lowers after := by
  have content := content_eq move allowed
  obtain ⟨free, detached, enums, exceptions⟩ := outside_eq move allowed
  have placed : (∀ {id outer}, id ∈ before.methods outer →
      ∃ inner, id ∈ after.methods inner ∧ after.hierarchy.Within outer inner) ∧
        ∀ {id inner}, id ∈ after.methods inner →
          ∃ outer, id ∈ before.methods outer ∧ after.hierarchy.Within outer inner := by
    -- One method at most changes its class, for a class right below.
    rcases methods_or_descends move allowed distinct with
      same | ⟨moving, outer, inner, isMethod, isParent, moves⟩
    · exact ⟨fun isMethod => ⟨_, same _ ▸ isMethod, .refl⟩,
        fun isMethod => ⟨_, same _ ▸ isMethod, .refl⟩⟩
    · constructor
      · intro id place isThere
        by_cases isMoving : id = moving
        · subst isMoving
          rw [distinct.unique isThere isMethod]
          exact ⟨inner, (moves id inner).2 (by simp), .single isParent⟩
        · exact ⟨place, (moves id place).2 (by rwa [if_neg isMoving]), .refl⟩
      · intro id place isThere
        have cameFrom := (moves id place).1 isThere
        split at cameFrom
        · rename_i isMoving
          rw [isMoving, cameFrom]
          exact ⟨outer, isMethod, .single isParent⟩
        · exact ⟨place, cameFrom, .refl⟩
  exact {
    grows := move.hierarchy_extends
    goes := placed.1
    came := placed.2
    free, detached, enums, exceptions
    properties := fun c => (content c).1
    defaultInit := fun c => (content c).2.1
    handle := fun c => (content c).2.2 }

end Moved

theorem lowers_of_moves (moves : Moves settings roundKinds before after)
    (distinct : before.MethodsDistinct) : before.Lowers after := by
  induction moves with
  | refl => exact .refl _
  | tail earlier last ih =>
      obtain ⟨kind, allowed, move⟩ := last
      exact ih.trans (lowers_of_move move allowed (methodsDistinct_of_moves earlier distinct))

/-! ## The end of the loop -/

variable {draft final last : Draft}

/-- Where a round finds nothing, nothing is found after it: it took class prefixes off methods,
which all keep their classes and parameters. -/
theorem handleBase?_of_ended (distinct : last.forest.MethodsDistinct)
    (ended : round settings last = (final, false)) {c : ClassId}
    (isMethod : id ∈ final.forest.methods c) :
    handleBase? settings (final.forest.functionAt id) = none := by
  obtain ⟨moved, relocates, -, -, stripped, isFound⟩ := exists_relocated_of_round distinct ended
  have noMatches : findMatches settings last.forest = [] := by simpa using isFound
  obtain rfl : last = moved := by rwa [noMatches] at relocates
  obtain ⟨frame, -, strips, -⟩ := Hoisting.stripClassPrefixes_spec
    last.forest.hierarchy.nodup_all distinct stripped
  have wasMethod : id ∈ last.forest.methods c := by
    rw [frame] at isMethod
    exact isMethod
  have isClass := Hierarchy.mem_all_iff.2 (Forest.lt_size_of_mem_methods wasMethod)
  rw [strips c isClass id wasMethod]
  -- a new name leaves the parameters as they are, and so what the first of them is
  change handleBase? settings (last.forest.functionAt id) = none
  cases matched : handleBase? settings (last.forest.functionAt id) with
  | none => rfl
  | some base =>
      have member : ⟨c, id, base⟩ ∈ findMatches settings last.forest :=
        mem_findMatches_iff.2 ⟨wasMethod, matched⟩
      rw [noMatches] at member
      cases member

theorem endsWith_of_handleBase?_eq_none {function : Function} {first : Parameter}
    {rest : List Argument} (unmatched : handleBase? settings function = none)
    (leading : function.params = .plain first :: rest) :
    Text.endsWith first.name settings.markers.numberHandle = false := by
  rw [handleBase?, leading, List.head?_cons] at unmatched
  rw [Bool.eq_false_iff, Ne, Text.endsWith_iff]
  exact Text.not_suffix_of_dropSuffix?_eq_none unmatched

/-- With a marker that is not empty, the loop over number handles ends on every forest in which no
function is a method twice.  It leaves no method with a number handle in front and nothing to do for
one more round, and on the way methods went down into nested classes and nothing else moved. -/
theorem extract_fixedPoint (distinct : draft.forest.MethodsDistinct)
    (marked : settings.markers.numberHandle ≠ "") :
    ∃ final rounds, extract settings draft = .ok (final, rounds) ∧
      (∃ last, Rounds settings draft rounds last ∧ round settings last = (final, false)) ∧
      (∀ c, ∀ id ∈ final.forest.methods c, ∀ first rest,
        (final.forest.functionAt id).params = .plain first :: rest →
          Text.endsWith first.name settings.markers.numberHandle = false) ∧
      relocateMethods settings final = (final, false) ∧
      final.forest.MethodsDistinct ∧ draft.forest.Lowers final.forest := by
  have noRounds : Rounds settings draft 0 draft := .start
  obtain ⟨final, rounds, last, result, reached, ended⟩ |
    ⟨_, _, _, _, _, -, -, stuck⟩ := extractFrom_spec distinct noRounds
  · have moves : Moves settings roundKinds draft.forest final.forest := by
      have lastMoves := moves_round settings (reached.methodsDistinct distinct)
      rw [ended] at lastMoves
      exact (reached.moves distinct).trans lastMoves
    have unmatched {c : ClassId} {id : FunctionId} (isMethod : id ∈ final.forest.methods c) :=
      handleBase?_of_ended (reached.methodsDistinct distinct) ended isMethod
    refine ⟨final, rounds, result, ⟨last, reached, ended⟩, ?_, ?_,
      methodsDistinct_of_moves moves distinct, lowers_of_moves moves distinct⟩
    · intro c id isMethod first rest leading
      exact endsWith_of_handleBase?_eq_none (unmatched isMethod) leading
    · have noMatches : findMatches settings final.forest = [] := by
        apply List.eq_nil_iff_forall_not_mem.2
        intro found member
        obtain ⟨isMethod, matched⟩ := mem_findMatches_iff.1 member
        rw [unmatched isMethod] at matched
        cases matched
      rw [relocateMethods, noMatches]
      rfl
  · exact absurd stuck.unmarked marked

/-- A class with a method about the files of a friend and one that must not move, of which the free
list and the detached list hold one as well. -/
def filesOfFriends : Draft :=
  let number (name : String) : Argument :=
    .plain { name, type := { ValueType.void with kind := .scalar .uint } }
  let toxClass := (Forest.empty.requireClass none "Tox").1
  let stored := [
    { name := "friend_file_get", cname := "", ret := default,
      params := [number "friend_number", number "file_number"] },
    { name := "peer_number_is_ours", cname := "", ret := default,
      params := [number "peer_number"] }].foldl Forest.addFunction toxClass
  { forest :=
      { stored.modifyClass 0 fun c => { c with methods := [0, 1] } with
        free := [1]
        detached := [(1, 0)] } }

/-- The first method takes two rounds to get to the class of files, and the third finds nothing. -/
theorem extract_fixedPoint_filesOfFriends :
    filesOfFriends.forest.MethodsDistinct ∧ Settings.default.markers.numberHandle ≠ "" ∧
      ∃ final, extract Settings.default filesOfFriends = .ok (final, 2) ∧
        relocateMethods Settings.default final = (final, false) ∧
        filesOfFriends.forest.Lowers final.forest ∧
        final.forest.free = [1] ∧ final.forest.methods 0 = [1] ∧
        final.forest.methods 2 = [0] ∧ final.forest.qualifiedName 2 = "Tox.Friend.File" := by
  have distinct : filesOfFriends.forest.MethodsDistinct := by decide +kernel
  have marked : Settings.default.markers.numberHandle ≠ "" := by decide
  obtain ⟨final, rounds, result, -, -, stable, -, lowers⟩ := extract_fixedPoint distinct marked
  have told : (extract Settings.default filesOfFriends).toOption.map (fun outcome =>
      decide (outcome.2 = 2 ∧ outcome.1.forest.free = [1] ∧ outcome.1.forest.methods 0 = [1] ∧
        outcome.1.forest.methods 2 = [0] ∧
        outcome.1.forest.qualifiedName 2 = "Tox.Friend.File")) = some true := by
    decide +kernel
  rw [result] at told
  obtain ⟨rfl, free, outer, inner, name⟩ := of_decide_eq_true (Option.some.inj told)
  exact ⟨distinct, marked, final, result, stable, lowers, free, outer, inner, name⟩

end NumberHandles

end Bindery
