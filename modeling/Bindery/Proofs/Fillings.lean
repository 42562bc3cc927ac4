import Bindery.Proofs.Converted
import Bindery.Proofs.Slots

/-!
# Which functions come into the slots of top classes

The hoisting passes fill slots by name, one function after the other.  What they lose is known from
the names alone: a name that comes up twice, or that was filled before, costs the function that was
there.
-/

namespace Bindery

variable {settings : Settings} {kinds : Set MoveKind} {slot : RootSlot}
  {before middle after : Forest} {names : List String}

/-- What has happened to the top classes when functions have come into the slots of the named ones,
in that order. -/
structure Gains (slot : RootSlot) (names : List String) (before after : Forest) : Prop where
  lost : after.lost = 0 ↔
    before.lost = 0 ∧ names.Nodup ∧ ∀ name ∈ names, ¬ before.Fills slot name
  fills : ∀ name, after.Fills slot name ↔ name ∈ names ∨ before.Fills slot name
  other : ∀ name, after.Fills slot.other name ↔ before.Fills slot.other name
  roots : after.RootsHold

namespace Gains

theorem refl (roots : before.RootsHold) : Gains slot [] before before where
  lost := by simp
  fills := by simp
  other := by simp
  roots := roots

theorem trans {more : List String} (first : Gains slot names before middle)
    (second : Gains slot more middle after) : Gains slot (names ++ more) before after where
  lost := by
    rw [second.lost, first.lost, List.nodup_append']
    constructor
    · rintro ⟨⟨complete, different, fresh⟩, moreDifferent, moreFresh⟩
      have apart : ∀ name ∈ more, name ∉ names ∧ ¬ before.Fills slot name := by
        intro name member
        have notFilled := moreFresh name member
        rw [first.fills, not_or] at notFilled
        exact notFilled
      refine ⟨complete, ⟨different, moreDifferent, ?_⟩, ?_⟩
      · exact fun name member inMore => (apart name inMore).1 member
      · intro name member
        rcases List.mem_append.1 member with early | late
        · exact fresh name early
        · exact (apart name late).2
    · rintro ⟨complete, ⟨different, moreDifferent, apart⟩, fresh⟩
      refine ⟨⟨complete, different, ?_⟩, moreDifferent, ?_⟩
      · exact fun name member => fresh name (List.mem_append_left _ member)
      · intro name member
        rw [first.fills, not_or]
        exact ⟨fun early => apart early member, fresh name (List.mem_append_right _ member)⟩
  fills := by
    intro name
    rw [second.fills, first.fills, List.mem_append]
    tauto
  other := fun name => (second.other name).trans (first.other name)
  roots := second.roots

/-- Moves that fill no slot lose nothing and leave the slots as they are. -/
theorem ofMoves (moves : Moves settings kinds before after)
    (evicts : ∀ kind ∈ kinds, kind.evicts = false) (sound : before.Sound)
    (roots : before.RootsHold) : Gains slot [] before after := by
  have kept := moves.preserves (Gains slot [] before) sound (.refl roots)
    (fun {kind first second} allowed move sound gains => by
      have quiet := evicts kind allowed
      have notSlot (slot : RootSlot) : kind ≠ slot.move := by
        rintro rfl
        cases slot <;> cases quiet
      have unchanged : Gains slot [] first second :=
        { lost := by simp [move.lost_eq sound quiet]
          fills := by simp [move.fills_iff slot (notSlot slot)]
          other := by simp [move.fills_iff slot.other (notSlot slot.other)]
          roots := move.rootsHold gains.roots }
      exact gains.trans unchanged)
  exact kept.2

theorem fillSlot {forest : Forest} {c : ClassId} {id : FunctionId} {name : String}
    (sound : forest.Sound) (roots : forest.RootsHold) (valid : c < forest.hierarchy.size)
    (isRoot : forest.hierarchy.parent? c = none) (named : forest.className c = name)
    (isFree : id ∈ forest.free) : Gains slot [name] forest (forest.fillSlot slot c id) where
  lost := by
    rw [Forest.lost_fillSlot_eq_zero_iff sound valid isRoot named (roots c isRoot) isFree]
    simp
  fills := by
    intro other
    rw [Forest.fills_fillSlot_iff valid isRoot named (roots c isRoot), List.mem_singleton]
  other := fun other => Forest.fills_iff_of_extends (.refl _) Forest.get_other_fillSlot
  roots := Forest.rootsHold_fillSlot roots c

theorem modifyFunction {forest : Forest} (roots : forest.RootsHold) (id : FunctionId)
    (change : Function → Function) : Gains slot [] forest (forest.modifyFunction id change) where
  lost := by
    have same : (forest.modifyFunction id change).lost = forest.lost := by
      rw [Forest.lost, Forest.functionCount_modifyFunction, Forest.held_modifyFunction]
      rfl
    simp [same]
  fills := by
    intro name
    rw [List.mem_nil_iff, false_or]
    rfl
  other := fun name => Iff.rfl
  roots := roots

/-- A free function comes into the slot of the top class of the name, and is changed. -/
theorem requireFill (settings : Settings) {forest : Forest} {id : FunctionId} {name : String}
    {required : Forest × ClassId} (sound : forest.Sound) (roots : forest.RootsHold)
    (isFree : id ∈ forest.free) (isRequired : forest.requireClass none name = required)
    (change : Function → Function) :
    Gains slot [name] forest
      ((required.1.fillSlot slot required.2 id).modifyFunction id change) := by
  have requires : Moves settings {.require} forest required.1 :=
    isRequired ▸ .single (Set.mem_singleton _) (.require _ (by simp))
  have first : Gains slot [] forest required.1 :=
    .ofMoves requires (by simp [MoveKind.evicts]) sound roots
  have fills : Gains slot [name] required.1 (required.1.fillSlot slot required.2 id) := by
    apply Gains.fillSlot (requires.sound sound) first.roots
    · exact isRequired ▸ Hierarchy.snd_require_lt _ (by simp)
    · exact isRequired ▸ Hierarchy.parent?_require _ (by simp)
    · exact isRequired ▸ Hierarchy.name_require _ (by simp)
    · exact isRequired ▸ isFree
  exact first.trans (fills.trans (.modifyFunction fills.roots id change))

end Gains

namespace Hoisting

variable {structs : List String} {draft : Draft} {id : FunctionId}

/-- The class that a function would allocate. -/
def allocated? (structs : List String) (settings : Settings) (function : Function) :
    Option String :=
  if isAllocator structs settings function then some function.ret.type.name else none

/-- The class that a function would deallocate. -/
def deallocated? (structs : List String) (settings : Settings) (function : Function) :
    Option String :=
  (structParameter? structs function).filter fun _ => isDeallocatorName settings function.name

/-- Where no top class wraps a number, every allocator gets its slot. -/
theorem forest_hoistAllocator_of_roots {required : Forest × ClassId}
    (roots : draft.forest.RootsHold)
    (isRequired : draft.forest.requireClass none (draft.forest.functionAt id).ret.type.name =
      required) :
    (hoistAllocator structs settings draft id).forest =
      if isAllocator structs settings (draft.forest.functionAt id) then
        (required.1.fillSlot .alloc required.2 id).modifyFunction id (makeAllocator settings)
      else draft.forest := by
  have vacant : (required.1.classAt required.2).holdsObject = true := by
    rw [← isRequired]
    exact Forest.rootsHold_requireClass roots none _ _ (Hierarchy.parent?_require _ (by simp))
  rw [forest_hoistAllocator rfl isRequired, if_pos vacant]
  rfl

/-- The same for deallocators. -/
theorem forest_hoistStructFunction_of_roots {className : String} {required : Forest × ClassId}
    (roots : draft.forest.RootsHold)
    (takes : structParameter? structs (draft.forest.functionAt id) = some className)
    (isRequired : draft.forest.requireClass none className = required) :
    (hoistStructFunction structs settings draft id).forest =
      if isDeallocatorName settings (draft.forest.functionAt id).name then
        (required.1.fillSlot .dealloc required.2 id).modifyFunction id (makeDeallocator settings)
      else
        ((required.1.modifyClass required.2 (·.addMethod id)).takeFree id).modifyFunction id
          (·.dropParameter 0) := by
  have vacant : (required.1.classAt required.2).holdsObject = true := by
    rw [← isRequired]
    exact Forest.rootsHold_requireClass roots none _ _ (Hierarchy.parent?_require _ (by simp))
  rw [forest_hoistStructFunction rfl takes isRequired, if_pos vacant]
  rfl

/-- What becomes of a function that allocates. -/
def allocator? (structs : List String) (settings : Settings) (function : Function) :
    Option Function :=
  if isAllocator structs settings function then some (makeAllocator settings function) else none

/-- What becomes of a function that takes a known struct first. -/
def member? (structs : List String) (settings : Settings) (function : Function) :
    Option Function :=
  (structParameter? structs function).map fun _ =>
    if isDeallocatorName settings function.name then makeDeallocator settings function
    else function.dropParameter 0

/-- What a loop over free functions does, where each of them goes its way by its own declaration:
some come into a slot, some leave the free list changed, and the others stay. -/
structure Hoists (slot : RootSlot) (named? : Function → Option String)
    (taken? : Function → Option Function) (ids : List FunctionId) (before after : Forest) :
    Prop where
  gains : Gains slot (ids.filterMap fun id => named? (before.functionAt id)) before after
  free : after.free = before.free.filter fun id =>
    id ∉ ids || (taken? (before.functionAt id)).isNone
  functionAt : ∀ id, after.functionAt id =
    if id ∈ ids then (taken? (before.functionAt id)).getD (before.functionAt id)
    else before.functionAt id

variable {named? : Function → Option String} {taken? : Function → Option Function}
  {ids : List FunctionId}

namespace Hoists

theorem nil (roots : before.RootsHold) : Hoists slot named? taken? [] before before where
  gains := .refl roots
  free := by simp
  functionAt := by simp

theorem cons (fresh : id ∉ ids) (first : Hoists slot named? taken? [id] before middle)
    (rest : Hoists slot named? taken? ids middle after) :
    Hoists slot named? taken? (id :: ids) before after := by
  have same {other : FunctionId} (different : other ≠ id) :
      middle.functionAt other = before.functionAt other := by
    rw [first.functionAt, if_neg (by simpa using different)]
  have later : ids.filterMap (fun id => named? (middle.functionAt id)) =
      ids.filterMap fun id => named? (before.functionAt id) := by
    apply List.filterMap_congr
    intro other member
    rw [same fun isFirst => fresh (isFirst ▸ member)]
  constructor
  · have gains := first.gains.trans rest.gains
    rw [later] at gains
    rw [List.filterMap_cons]
    cases named : named? (before.functionAt id) with
    | none => simpa [named] using gains
    | some name => simpa [named] using gains
  · rw [rest.free, first.free, List.filter_filter]
    apply List.filter_congr
    intro other _
    by_cases isFirst : other = id
    · simp [isFirst, fresh]
    · simp [isFirst, same isFirst]
  · intro other
    rw [rest.functionAt]
    by_cases isFirst : other = id
    · rw [isFirst, if_neg fresh, if_pos List.mem_cons_self, first.functionAt,
        if_pos (List.mem_singleton_self id)]
    · simp [isFirst, same isFirst]

end Hoists

/-- A loop hoists what each of its steps hoists. -/
theorem hoists_foldl {step : Draft → FunctionId → Draft}
    (each : ∀ draft id, draft.forest.Sound → draft.forest.RootsHold → id ∈ draft.forest.free →
      Hoists slot named? taken? [id] draft.forest (step draft id).forest)
    (moves : ∀ draft id rest, FreeRemain (id :: rest) draft.forest →
      Moves settings kinds draft.forest (step draft id).forest ∧
        FreeRemain rest (step draft id).forest)
    (sound : draft.forest.Sound) (roots : draft.forest.RootsHold)
    (remain : FreeRemain ids draft.forest) :
    Hoists slot named? taken? ids draft.forest (ids.foldl step draft).forest := by
  induction ids generalizing draft with
  | nil => exact .nil roots
  | cons id rest ih =>
      have first := each draft id sound roots remain.isFree
      obtain ⟨made, remaining⟩ := moves draft id rest remain
      exact .cons (List.nodup_cons.1 remain.1).1 first
        (ih (made.sound sound) first.gains.roots remaining)

theorem filterMap_singleton {α β : Type} (f : α → Option β) (item : α) :
    [item].filterMap f = (f item).toList := by
  rw [List.filterMap_cons, List.filterMap_nil]
  cases f item <;> rfl

/-- One function is taken off the free list and changed. -/
theorem Hoists.taken {forest placed : Forest} {change : Function → Function}
    (present : id < forest.functionCount)
    (gains : Gains slot (named? (forest.functionAt id)).toList forest
      ((placed.takeFree id).modifyFunction id change))
    (taken : taken? (forest.functionAt id) = some (change (forest.functionAt id)))
    (free : placed.free = forest.free) (functions : placed.functions = forest.functions) :
    Hoists slot named? taken? [id] forest ((placed.takeFree id).modifyFunction id change) where
  gains := by
    rw [filterMap_singleton]
    exact gains
  free := by
    have filtered : ((placed.takeFree id).modifyFunction id change).free =
        forest.free.filter (· != id) :=
      congrArg (List.filter (· != id)) free
    rw [filtered]
    apply List.filter_congr
    intro other _
    by_cases same : other = id
    · simp [same, taken]
    · simp [same]
  functionAt := by
    intro other
    have before : (placed.takeFree id).functionAt other = forest.functionAt other :=
      congrArg (fun functions : List Function => functions[other]?.getD default) functions
    by_cases same : other = id
    · subst same
      have stillPresent : other < (placed.takeFree other).functionCount :=
        Nat.lt_of_lt_of_eq present (congrArg List.length functions).symm
      rw [if_pos (List.mem_singleton_self other), taken,
        Forest.functionAt_modifyFunction_self stillPresent, before]
      rfl
    · rw [if_neg (by simpa using same), Forest.functionAt_modifyFunction_of_ne same, before]

/-- One function is left as it is. -/
theorem Hoists.left {forest : Forest} (roots : forest.RootsHold)
    (unnamed : named? (forest.functionAt id) = none)
    (left : taken? (forest.functionAt id) = none) :
    Hoists slot named? taken? [id] forest forest where
  gains := by
    rw [filterMap_singleton, unnamed]
    exact .refl roots
  free := by
    refine (List.filter_eq_self.2 fun other _ => ?_).symm
    by_cases same : other = id
    · simp [same, left]
    · simp [same]
  functionAt := by
    intro other
    by_cases same : other = id
    · simp [same, left]
    · simp [same]

theorem hoists_hoistAllocator (sound : draft.forest.Sound) (roots : draft.forest.RootsHold)
    (isFree : id ∈ draft.forest.free) :
    Hoists .alloc (allocated? structs settings) (allocator? structs settings) [id]
      draft.forest (hoistAllocator structs settings draft id).forest := by
  rw [forest_hoistAllocator_of_roots roots rfl]
  by_cases allocates : isAllocator structs settings (draft.forest.functionAt id)
  · rw [if_pos allocates]
    refine .taken (sound.lt_of_mem_free isFree) ?_ ?_ rfl rfl
    · rw [allocated?, if_pos allocates]
      exact Gains.requireFill settings sound roots isFree rfl _
    · rw [allocator?, if_pos allocates]
  · rw [if_neg allocates]
    apply Hoists.left roots
    · rw [allocated?, if_neg allocates]
    · rw [allocator?, if_neg allocates]

theorem hoists_hoistStructFunction (sound : draft.forest.Sound) (roots : draft.forest.RootsHold)
    (isFree : id ∈ draft.forest.free) :
    Hoists .dealloc (deallocated? structs settings) (member? structs settings) [id]
      draft.forest (hoistStructFunction structs settings draft id).forest := by
  cases takes : structParameter? structs (draft.forest.functionAt id) with
  | none =>
      rw [hoistStructFunction_of_none takes]
      apply Hoists.left roots
      · rw [deallocated?, takes]
        rfl
      · rw [member?, takes]
        rfl
  | some className =>
      have present := sound.lt_of_mem_free isFree
      rw [forest_hoistStructFunction_of_roots roots takes rfl]
      by_cases deallocates : isDeallocatorName settings (draft.forest.functionAt id).name
      · rw [if_pos deallocates]
        refine .taken present ?_ ?_ rfl rfl
        · rw [deallocated?, takes, Option.filter_some, if_pos deallocates]
          exact Gains.requireFill settings sound roots isFree rfl _
        · rw [member?, takes, Option.map_some, if_pos deallocates]
      · rw [if_neg deallocates]
        refine .taken present ?_ ?_ rfl rfl
        · rw [deallocated?, takes, Option.filter_some, if_neg deallocates]
          have adopts : Moves settings {.require, .adopt, .edit .makeMethod} draft.forest _ :=
            moves_adoptMethod className isFree rfl
          exact .ofMoves adopts (by simp [MoveKind.evicts]) sound roots
        · rw [member?, takes, Option.map_some, if_neg deallocates]

/-- Every free function that is made an allocator gets the slot of its class, one after the
other. -/
theorem hoists_hoistAllocators (structs : List String) (settings : Settings)
    (sound : draft.forest.Sound) (roots : draft.forest.RootsHold) :
    Hoists .alloc (allocated? structs settings) (allocator? structs settings) draft.forest.free
      draft.forest (hoistAllocators structs settings draft).forest :=
  hoists_foldl (fun _ _ => hoists_hoistAllocator) (fun _ _ _ => moves_hoistAllocator) sound roots
    (.start sound)

theorem hoists_hoistStructFunctions (structs : List String) (settings : Settings)
    (sound : draft.forest.Sound) (roots : draft.forest.RootsHold) :
    Hoists .dealloc (deallocated? structs settings) (member? structs settings) draft.forest.free
      draft.forest (hoistStructFunctions structs settings draft).forest :=
  hoists_foldl (fun _ _ => hoists_hoistStructFunction) (fun _ _ _ => moves_hoistStructFunction)
    sound roots (.start sound)

end Hoisting

end Bindery
