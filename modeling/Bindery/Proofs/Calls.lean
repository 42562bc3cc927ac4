import Bindery.Proofs.Parameters
import Bindery.Proofs.Placements
import Bindery.Proofs.Promotions

/-!
# How a finished function calls C

Of the parameters that C declares, a finished function no longer has those that its place stands
for: the error that it throws, the object that it belongs to, and one number for every class that it
was moved down.  All others are still there, in order, and so the C call can be made from them.
-/

namespace Bindery

variable {settings : Settings} {kind : MoveKind} {kinds : Set MoveKind} {before after : Forest}
  {id : FunctionId} {slot : Slot} {declared params : List Parameter} {levels : Nat}
  {object : Option String}

/-- Whether the parameters are the declared ones without as many leading number handles. -/
structure Leads (settings : Settings) (declared : List Parameter) (levels : Nat)
    (params : List Parameter) : Prop where
  enough : levels ≤ declared.length
  marked : ∀ parameter ∈ declared.take levels,
    Text.endsWith parameter.name settings.markers.numberHandle = true
  stems : ParametersStem settings (declared.drop levels) params

namespace Leads

theorem start (params : List Parameter) : Leads settings params 0 params where
  enough := Nat.zero_le _
  marked := by simp
  stems := .refl params

theorem trans {next : List Parameter} (leads : Leads settings declared levels params)
    (stems : ParametersStem settings params next) : Leads settings declared levels next :=
  ⟨leads.enough, leads.marked, leads.stems.trans stems⟩

theorem descend {first : Parameter} {rest : List Parameter}
    (leads : Leads settings declared levels (first :: rest))
    (marked : Text.endsWith first.name settings.markers.numberHandle = true) :
    Leads settings declared (levels + 1) rest := by
  have stems := leads.stems
  cases isRest : declared.drop levels with
  | nil =>
      rw [isRest] at stems
      cases stems
  | cons parameter others =>
      rw [isRest] at stems
      have within : levels < declared.length := by
        rw [← List.drop_eq_nil_iff.not.trans Nat.not_le]
        simp [isRest]
      have split := List.drop_eq_getElem_cons within
      obtain ⟨rfl, rfl⟩ := List.cons.inj (isRest.symm.trans split)
      cases stems with
      | cons head tail =>
          refine ⟨within, ?_, tail⟩
          intro parameter member
          rw [List.take_succ_eq_append_getElem within] at member
          rcases List.mem_append.1 member with early | last
          · exact leads.marked parameter early
          · rw [List.mem_singleton.1 last]
            exact head.endsWith marked

end Leads

/-- Whether a slot belongs to a class so many levels below a top class, which is the class of the
object if there is one. -/
def Descends (object : Option String) (levels : Nat) (hierarchy : Hierarchy) (slot : Slot) : Prop :=
  ∃ c top below, slot.home? = some c ∧ hierarchy.path c = top :: below ∧ below.length = levels ∧
    ∀ className ∈ object, top = className

theorem Descends.mono {older newer : Hierarchy} (descends : Descends object levels older slot)
    (growth : older.Extends newer) (valid : ∀ c, slot.home? = some c → c < older.size) :
    Descends object levels newer slot := by
  obtain ⟨c, top, below, isHome, isPath, isDeep, named⟩ := descends
  refine ⟨c, top, below, isHome, ?_, isDeep, named⟩
  rw [growth.path_eq (valid c isHome)]
  exact isPath

/-- Where nothing descends, functions stay at their class. -/
theorem Moves.descends (moves : Moves settings kinds before after) (stays : .descend ∉ kinds)
    (sound : before.Sound) (present : id < before.functionCount)
    (start : ∀ slot, (id, slot) ∈ before.owners → Descends object levels before.hierarchy slot) :
    ∀ slot, (id, slot) ∈ after.owners → Descends object levels after.hierarchy slot := by
  apply moves.slot_induction (Descends object levels) sound present start
  · intro older newer slot growth valid descends
    exact descends.mono growth valid
  · intro hierarchy kind old slot allowed step descends
    cases step with
    | stay => exact descends
    | descend isInner => exact absurd allowed stays
    | allocate | deallocate | adopt | adoptAll =>
        obtain ⟨c, top, below, isHome, -⟩ := descends
        cases isHome
    | _ => exact descends

/-- A deallocator stays one. -/
theorem Moves.staysDeallocator (moves : Moves settings kinds before after) (sound : before.Sound)
    (present : id < before.functionCount)
    (start : ∀ slot, (id, slot) ∈ before.owners → ∃ c, slot = .dealloc c) :
    ∀ slot, (id, slot) ∈ after.owners → ∃ c, slot = .dealloc c := by
  apply moves.slot_induction (fun _ slot => ∃ c, slot = .dealloc c) sound present start
  · exact fun _ _ isDeallocator => isDeallocator
  · rintro hierarchy kind old slot - step ⟨c, rfl⟩
    cases step
    exact ⟨c, rfl⟩

/-- What is held stays held where no slot is filled. -/
theorem Moves.mem_held (moves : Moves settings kinds before after) (sound : before.Sound)
    (evicts : ∀ kind ∈ kinds, kind.evicts = false) (isHeld : id ∈ before.held) :
    id ∈ after.held := by
  have kept := moves.preserves (fun forest => id ∈ forest.held) sound isHeld
    (fun {kind first second} allowed move sound isHeld => by
      obtain ⟨evicted, onlyEvicting, balance⟩ := move.held_add_evicted sound
      have none : evicted = none := by
        cases evicted with
        | none => rfl
        | some id => simp [evicts kind allowed] at onlyEvicting
      have split : second.held = (if kind.adds then {first.functionCount} else 0) + first.held := by
        simpa [none] using balance
      rw [split]
      exact Multiset.mem_add.2 (.inr isHeld))
  exact kept.2

/-! ## Number handles -/

namespace Forest

variable {forest : Forest} {c inner : ClassId} {moved : FunctionId}

/-- Only the method that descends gets another slot. -/
theorem mem_owners_of_descend {type : ValueType} (isMethod : moved ∈ forest.methods c)
    (different : c ≠ inner) (valid : inner < forest.hierarchy.size) (other : id ≠ moved)
    (owned : (id, slot) ∈ (forest.descend c inner moved type).owners) :
    (id, slot) ∈ forest.owners := by
  rcases mem_owners_iff.1 owned with
    ⟨isFree, rfl⟩ | ⟨home, isDetached, rfl⟩ | ⟨place, inClass⟩
  · rw [descend_eq isMethod type different] at isFree
    exact mem_owners_of_free isFree
  · rw [descend_eq isMethod type different] at isDetached
    exact mem_owners_of_detached isDetached
  · apply @mem_owners_of_class _ place
    by_cases isInner : place = inner
    · subst isInner
      rw [classAt_descend_inner isMethod different valid] at inClass
      rcases List.mem_cons.1 (Class.owners_addMethod_subset _ moved inClass) with same | old
      · exact absurd (congrArg Prod.fst same) other
      · rw [Class.owners_wrapNumber] at old
        exact old
    · by_cases isOuter : place = c
      · subst isOuter
        rw [classAt_descend_outer isMethod different] at inClass
        exact Class.owners_removeMethod_subset _ moved inClass
      · rw [classAt_descend_of_ne isMethod different type isOuter isInner] at inClass
        exact inClass

theorem hierarchy_descend {type : ValueType} (isMethod : moved ∈ forest.methods c)
    (different : c ≠ inner) : (forest.descend c inner moved type).hierarchy = forest.hierarchy := by
  rw [descend_eq isMethod type different]
  rfl

end Forest

/-- Where a function is among the classes of number handles, and what it has still to be given. -/
structure Journey (settings : Settings) (object : Option String) (declared : List Parameter)
    (id : FunctionId) (levels : Nat) (forest : Forest) : Prop where
  present : id < forest.functionCount
  home : ∀ slot, (id, slot) ∈ forest.owners → Descends object levels forest.hierarchy slot
  unheld : id ∉ forest.held → levels = 0
  unpromoted : (forest.functionAt id).ret.promotedFrom = none
  leads : Leads settings declared levels
    ((forest.functionAt id).params.flatMap Argument.flatten)

namespace Journey

/-- The edits before anything is sized. -/
theorem edit {function changed : Function} {kind : EditKind}
    (edited : Edit settings kind function changed)
    (keeps : kind ∈ ({.rename, .refer, .sizeReturn} : Set EditKind))
    (unpromoted : function.ret.promotedFrom = none)
    (leads : Leads settings declared levels (function.params.flatMap Argument.flatten)) :
    changed.ret.promotedFrom = none ∧
      Leads settings declared levels (changed.params.flatMap Argument.flatten) := by
  have same : changed.ret.promotedFrom = none := by
    cases edited with
    | rename | refer | sizeReturn => exact unpromoted
    | _ => simp at keeps
  have alsoKeeps : kind ∈
      ({.rename, .refer, .sizeReturn, .sizeParameter, .pair, .retype} : Set EditKind) := by
    rcases keeps with rfl | rfl | rfl <;> simp
  obtain ⟨next, comprises, stems⟩ := (Function.Comprises.whole unpromoted).edit edited alsoKeeps
  cases comprises with
  | whole => exact ⟨same, leads.trans stems⟩
  | promoted position =>
      rw [same] at position
      cases position

/-- Moves by which no function descends. -/
theorem stay (journey : Journey settings object declared id levels before)
    (moves : Moves settings kinds before after) (sound : before.Sound)
    (stays : .descend ∉ kinds) (evicts : ∀ kind ∈ kinds, kind.evicts = false)
    (edits : ∀ edited, .edit edited ∈ kinds →
      edited ∈ ({.rename, .refer, .sizeReturn} : Set EditKind)) :
    Journey settings object declared id levels after := by
  have function := moves.functionAt_induction
    (fun function => function.ret.promotedFrom = none ∧
      Leads settings declared levels (function.params.flatMap Argument.flatten))
    journey.present ⟨journey.unpromoted, journey.leads⟩
    (fun allowed step came => by
      cases step with
      | edit edited => exact edit edited (edits _ allowed) came.1 came.2
      | descend => exact absurd allowed stays)
  constructor
  case present => exact Nat.lt_of_lt_of_le journey.present moves.functionCount_le
  case home => exact moves.descends stays sound journey.present journey.home
  case unheld =>
    exact fun unheld => journey.unheld fun isHeld => unheld (moves.mem_held sound evicts isHeld)
  case unpromoted => exact function.1
  case leads => exact function.2

section Descend

variable {c inner : ClassId} {moved : FunctionId} {first : Parameter} {rest : List Argument}

/-- A function that goes down to the class of its first parameter is a level further down, and it
has lost the parameter that led there. -/
theorem descend_self (journey : Journey settings object declared id levels before)
    (sound : before.Sound) (isMethod : id ∈ before.methods c)
    (valid : inner < before.hierarchy.size) (isInner : before.hierarchy.parent? inner = some c)
    (leading : (before.functionAt id).params = .plain first :: rest)
    (marked : Text.endsWith first.name settings.markers.numberHandle = true) :
    Journey settings object declared id (levels + 1) (before.descend c inner id first.type) := by
  have move : Move settings .descend before (before.descend c inner id first.type) :=
    .descend isMethod valid isInner leading marked
  have different : c ≠ inner := Nat.ne_of_lt (Hierarchy.parent_lt isInner)
  obtain ⟨home, top, below, isHome, isPath, isDeep, named⟩ :=
    journey.home (.method c) (Forest.mem_owners_of_method isMethod)
  obtain rfl := Option.some.inj isHome
  have arrived : (id, .method inner) ∈ (before.descend c inner id first.type).owners := by
    apply Forest.mem_owners_of_method
    rw [Forest.methods, Forest.classAt_descend_inner isMethod different valid]
    simp [Class.addMethod]
  have dropped : (before.descend c inner id first.type).functionAt id =
      (before.functionAt id).dropParameter 0 := Forest.functionAt_descend_self journey.present
  constructor
  case present => exact Nat.lt_of_lt_of_le journey.present move.functionCount_le
  case home =>
    intro slot owned
    rw [(move.sound sound).slot_unique owned arrived, Forest.hierarchy_descend isMethod different]
    refine ⟨inner, top, below ++ [before.hierarchy.name inner], rfl, ?_, ?_, named⟩
    · rw [Hierarchy.path_of_parent isInner, isPath]
      rfl
    · rw [List.length_append, isDeep]
      rfl
  case unheld => exact fun unheld => absurd (Forest.mem_held_iff.2 ⟨_, arrived⟩) unheld
  case unpromoted =>
    rw [dropped]
    exact journey.unpromoted
  case leads =>
    have leads := journey.leads
    rw [leading] at leads
    rw [dropped, Function.dropParameter, leading]
    exact leads.descend marked

/-- A function keeps its slot, its parameters and its level when another one goes down. -/
theorem descend_of_ne (journey : Journey settings object declared id levels before)
    (sound : before.Sound) (isMethod : moved ∈ before.methods c)
    (valid : inner < before.hierarchy.size) (isInner : before.hierarchy.parent? inner = some c)
    (leading : (before.functionAt moved).params = .plain first :: rest)
    (marked : Text.endsWith first.name settings.markers.numberHandle = true)
    (other : id ≠ moved) :
    Journey settings object declared id levels (before.descend c inner moved first.type) := by
  have move : Move settings .descend before (before.descend c inner moved first.type) :=
    .descend isMethod valid isInner leading marked
  have different : c ≠ inner := Nat.ne_of_lt (Hierarchy.parent_lt isInner)
  have unchanged : (before.descend c inner moved first.type).functionAt id =
      before.functionAt id := Forest.functionAt_descend_of_ne other
  constructor
  case present => exact Nat.lt_of_lt_of_le journey.present move.functionCount_le
  case home =>
    intro slot owned
    rw [Forest.hierarchy_descend isMethod different]
    exact journey.home slot (Forest.mem_owners_of_descend isMethod different valid other owned)
  case unheld =>
    rw [move.held_eq sound rfl rfl]
    exact journey.unheld
  case unpromoted =>
    rw [unchanged]
    exact journey.unpromoted
  case leads =>
    rw [unchanged]
    exact journey.leads

theorem descend (journey : Journey settings object declared id levels before)
    (sound : before.Sound) (isMethod : moved ∈ before.methods c)
    (valid : inner < before.hierarchy.size) (isInner : before.hierarchy.parent? inner = some c)
    (leading : (before.functionAt moved).params = .plain first :: rest)
    (marked : Text.endsWith first.name settings.markers.numberHandle = true) :
    ∃ levels, Journey settings object declared id levels
      (before.descend c inner moved first.type) := by
  by_cases same : id = moved
  · subst same
    exact ⟨levels + 1, journey.descend_self sound isMethod valid isInner leading marked⟩
  · exact ⟨levels, journey.descend_of_ne sound isMethod valid isInner leading marked same⟩

end Descend

/-- Handles take a function down by any number of levels. -/
theorem handle (journey : Journey settings object declared id levels before)
    (moves : Moves settings Conversion.handleKinds before after) (sound : before.Sound) :
    ∃ levels, Journey settings object declared id levels after := by
  have kept := moves.preserves (fun forest => ∃ levels, Journey settings object declared id levels
      forest) sound ⟨levels, journey⟩
    (fun {kind first second} allowed move sound ⟨levels, journey⟩ => by
      have stays (notDescend : kind ≠ .descend) :
          Journey settings object declared id levels second := by
        apply journey.stay (Moves.single (Set.mem_singleton kind) move) sound
        · exact fun isDescend => notDescend (Set.mem_singleton_iff.1 isDescend).symm
        · rintro _ rfl
          rcases allowed with rfl | rfl | rfl | rfl <;> rfl
        · rintro edited rfl
          rcases allowed with impossible | impossible | same | same
          · cases impossible
          · cases impossible
          · cases same
            simp
          · cases same
            simp
      cases move with
      | descend isMethod valid isInner leading marked =>
          exact journey.descend sound isMethod valid isInner leading marked
      | _ => exact ⟨levels, stays nofun⟩)
  exact kept.2

end Journey

/-! ## One header -/

namespace Corrections

variable {draft : Draft}

/-- A class that has no initializer loses none. -/
theorem held_extractInitializer_of_vacant {c : ClassId}
    (vacant : (draft.forest.classAt c).defaultInit = none) :
    (extractInitializer settings c draft).forest.held = draft.forest.held := by
  have none : displaced? settings draft.forest c = none := by
    rw [displaced?, vacant]
    cases initializer? settings draft.forest c <;> rfl
  have balance := @held_extractInitializer settings draft c
  rw [none] at balance
  exact (add_zero _).symm.trans balance

theorem classAt_extractInitializer {c other : ClassId} (different : other ≠ c) :
    (extractInitializer settings c draft).forest.classAt other = draft.forest.classAt other := by
  rw [forest_extractInitializer]
  split
  · exact Forest.classAt_modifyClass_of_ne different
  · rfl

theorem held_foldl_extractInitializer {classes : List ClassId} (different : classes.Nodup)
    (vacant : ∀ c ∈ classes, (draft.forest.classAt c).defaultInit = none) :
    (classes.foldl (fun draft c => extractInitializer settings c draft) draft).forest.held =
      draft.forest.held := by
  induction classes generalizing draft with
  | nil => rfl
  | cons c rest ih =>
      obtain ⟨fresh, different⟩ := List.nodup_cons.1 different
      obtain ⟨first, vacant⟩ := List.forall_mem_cons.1 vacant
      rw [List.foldl_cons, ih different, held_extractInitializer_of_vacant first]
      intro other member
      have different : other ≠ c := by
        rintro rfl
        exact fresh member
      rw [classAt_extractInitializer different]
      exact vacant other member

theorem held_extractInitializers
    (vacant : ∀ c, (draft.forest.classAt c).defaultInit = none) :
    (extractInitializers settings draft).forest.held = draft.forest.held :=
  held_foldl_extractInitializer draft.forest.hierarchy.nodup_all fun c _ => vacant c

end Corrections

namespace Conversion

open Hoisting

/-- What a finished forest has made of a function that a header declares. -/
structure Retraces (settings : Settings) (structs : List String) (declared : Function)
    (forest : Forest) (id : FunctionId) : Prop where
  cname : (forest.functionAt id).cname = declared.cname
  throws : (forest.functionAt id).throws.isSome =
    (Throwing.errorPosition? settings declared).isSome
  isStatic : (forest.functionAt id).isStatic =
    !isInstance structs settings (Throwing.withoutError settings declared)
  deallocator : (object? structs settings (Throwing.withoutError settings declared)).isSome = true →
    isDeallocatorName settings declared.name = true →
    ∀ slot, (id, slot) ∈ forest.owners → ∃ c, slot = .dealloc c
  params : ∃ levels params, (forest.functionAt id).Restores params ∧
    Leads settings
      ((withoutObject structs settings (Throwing.withoutError settings declared)).flatMap
        Argument.flatten) levels params ∧
    (∀ slot, (id, slot) ∈ forest.owners →
      Descends (object? structs settings (Throwing.withoutError settings declared)) levels
        forest.hierarchy slot) ∧
    (id ∉ forest.held → levels = 0)

namespace Course

variable {draft final start : Draft} {rootClass : String} {header : HeaderDeclarations}
  {declaration : FunctionDeclaration} {position : Nat}

variable (course : Course settings rootClass header start final) (sound : start.forest.Sound)

include sound

theorem moves_settled : Moves settings settledKinds course.hoisted.forest final.forest := by
  apply Moves.trans ((course.moves_listened_of_hoisted sound).mono _)
  apply (course.moves_final_of_listened sound).mono _
  all_goals simp [settledKinds, handleKinds, referKinds, promoteKinds, sizeKinds, memberKinds,
    Set.subset_def]

/-- Once the number handles are settled, no function goes down any more. -/
theorem moves_stay :
    Moves settings {kind | kind ≠ .descend} course.handled.forest final.forest := by
  apply Moves.trans ((course.moves_initialized_of_handled sound).mono _)
  apply (course.moves_final sound).mono _
  all_goals simp [promoteKinds, sizeKinds, memberKinds, Set.subset_def]

theorem mem_held_final (vacant : ∀ c, (course.sized.forest.classAt c).defaultInit = none)
    (isHeld : id ∈ course.handled.forest.held) : id ∈ final.forest.held := by
  have promoted := (course.moves_promoted sound).mem_held (course.sound_handled sound)
    (by simp [promoteKinds, MoveKind.evicts]) isHeld
  have sized := (course.moves_sized sound).mem_held (course.sound_promoted sound)
    (by simp [sizeKinds, MoveKind.evicts]) promoted
  have initialized : id ∈ course.initialized.forest.held := by
    rw [initialized, Corrections.held_extractInitializers vacant]
    exact sized
  exact (course.moves_final sound).mem_held (course.sound_initialized sound)
    (by simp [memberKinds, MoveKind.evicts]) initialized

/-- The C parameters that can be read off before anything is promoted can be read off in the end. -/
theorem restores_final (present : id < course.handled.forest.functionCount)
    (unpromoted : (course.handled.forest.functionAt id).ret.promotedFrom = none) :
    ∃ params, (final.forest.functionAt id).Restores params ∧
      ParametersStem settings
        ((course.handled.forest.functionAt id).params.flatMap Argument.flatten) params := by
  -- Only the rule for filled buffers promotes, and it meets each function unpromoted.
  have comprises : (course.promoted.forest.functionAt id).Comprises
      ((course.handled.forest.functionAt id).params.flatMap Argument.flatten) := by
    have whole := Function.Comprises.whole unpromoted
    rcases Sizing.promotes_resolveFilledBuffers (course.sound_handled sound) course.promotes id with
      same | ⟨position, accessor, found, promoted⟩
    · rw [same]
      exact whole
    · rw [promoted]
      exact whole.promote accessor unpromoted found
  have promotedPresent : id < course.promoted.forest.functionCount :=
    Nat.lt_of_lt_of_le present (course.moves_promoted sound).functionCount_le
  have sized := (course.moves_sized sound).functionAt_induction
    (fun function => ∃ params, function.Comprises params ∧ ParametersStem settings
      ((course.handled.forest.functionAt id).params.flatMap Argument.flatten) params)
    promotedPresent ⟨_, comprises, .refl _⟩
    (fun allowed step came => by
      obtain ⟨params, comprises, stems⟩ := came
      cases step with
      | descend => simp [sizeKinds] at allowed
      | edit edited =>
          obtain ⟨next, comprises, more⟩ := comprises.edit edited (by
            simp only [sizeKinds, Set.mem_insert_iff, Set.mem_singleton_iff, MoveKind.edit.injEq,
              reduceCtorEq, false_or] at allowed
            rcases allowed with rfl | rfl | rfl <;> simp)
          exact ⟨next, comprises, stems.trans more⟩)
  have sizedPresent : id < course.sized.forest.functionCount :=
    Nat.lt_of_lt_of_le promotedPresent (course.moves_sized sound).functionCount_le
  -- Looking for initializers changes no function at all.
  have initialized := (course.moves_initialized sound).functionAt_induction
    (· = course.sized.forest.functionAt id) sizedPresent rfl
    (fun allowed step _ => by
      cases step <;> simp at allowed)
  obtain ⟨params, comprises, stems⟩ := sized
  refine ⟨params, ?_, stems⟩
  apply (course.moves_final sound).functionAt_induction (·.Restores params)
  · exact Nat.lt_of_lt_of_le sizedPresent (course.moves_initialized sound).functionCount_le
  · rw [initialized]
    exact comprises.restores
  · intro kind function changed allowed step restores
    cases step with
    | descend => simp [memberKinds] at allowed
    | edit edited =>
        apply restores.edit edited
        simpa [memberKinds] using allowed

section Placed

variable {function : Function} (roots : start.forest.RootsHold)
  (isFree : id ∈ course.converted.forest.free)
  (isFunction : course.converted.forest.functionAt id = function)
  (notStatic : function.isStatic = false)

include isFree

theorem present_hoisted : id < course.hoisted.forest.functionCount :=
  Nat.lt_of_lt_of_le ((course.sound_converted sound).lt_of_mem_free isFree)
    (course.moves_hoisted sound).functionCount_le

include roots isFunction

theorem journey_hoisted (unpromoted : function.ret.promotedFrom = none) :
    Journey settings (object? header.structs settings function)
      ((withoutObject header.structs settings function).flatMap Argument.flatten) id 0
      course.hoisted.forest := by
  have placed := course.functionAt_hoisted sound roots isFree isFunction
  rw [place_eq] at placed
  constructor
  case present => exact course.present_hoisted sound isFree
  case home =>
    intro slot owned
    have fits := course.fits_hoisted sound roots isFree isFunction owned
    obtain ⟨c, -, isHome, isRoot, named⟩ := fits.home
    exact ⟨c, _, [], isHome, Hierarchy.path_of_root isRoot, rfl,
      fun className isObject => named.trans (destination_of_object? isObject)⟩
  case unheld => exact fun _ => rfl
  case unpromoted =>
    rw [placed]
    exact unpromoted
  case leads =>
    rw [placed]
    exact .start _

theorem journey_handled (unpromoted : function.ret.promotedFrom = none) :
    ∃ levels, Journey settings (object? header.structs settings function)
      ((withoutObject header.structs settings function).flatMap Argument.flatten) id levels
      course.handled.forest := by
  have hoisted := course.journey_hoisted sound roots isFree isFunction unpromoted
  obtain ⟨levels, placed⟩ := hoisted.handle (course.moves_placed sound) (course.sound_hoisted sound)
  have listened := placed.stay (course.moves_listened sound) (course.sound_placed sound)
    (by simp) (by simp [MoveKind.evicts]) (by simp)
  refine ⟨levels, listened.stay (course.moves_handled sound) (course.sound_listened sound) ?_ ?_ ?_⟩
  · simp [referKinds]
  · simp [referKinds, MoveKind.evicts]
  · simp [referKinds]

include notStatic

theorem settled_final :
    (final.forest.functionAt id).cname = function.cname ∧
      (final.forest.functionAt id).throws = function.throws ∧
      (final.forest.functionAt id).isStatic = !isInstance header.structs settings function := by
  have placed := course.functionAt_hoisted sound roots isFree isFunction
  rw [place_eq, notStatic, Bool.false_or] at placed
  apply (course.moves_settled sound).functionAt_induction
    (fun current => current.cname = function.cname ∧ current.throws = function.throws ∧
      current.isStatic = !isInstance header.structs settings function)
  · exact course.present_hoisted sound isFree
  · rw [placed]
    exact ⟨rfl, rfl, rfl⟩
  · rintro kind before after allowed step ⟨cname, throws, isStatic⟩
    obtain ⟨sameThrows, sameStatic⟩ := step.throws_eq allowed
    exact ⟨step.cname_eq.trans cname, sameThrows.trans throws, sameStatic.trans isStatic⟩

end Placed

variable {declared : Function} {position : Nat}

/-- What is left of each function that a header declares once the header is done. -/
theorem retraces (noneFree : start.forest.free = []) (roots : start.forest.RootsHold)
    (vacant : ∀ c, (course.sized.forest.classAt c).defaultInit = none)
    (isDeclared : (Intake.functions settings header.functions)[position]? = some declared) :
    Retraces settings header.structs declared final.forest
      (start.forest.functionCount + position) := by
  obtain ⟨free, -, -, converts⟩ := course.converted_spec noneFree
  have converts := converts position declared isDeclared
  obtain ⟨declaration, -, rfl⟩ := List.mem_map.1 (List.mem_of_getElem? isDeclared)
  generalize isId : start.forest.functionCount + position = id at converts ⊢
  have isFree : id ∈ course.converted.forest.free := by
    rw [free, ← isId, List.mem_range'_1]
    exact ⟨Nat.le_add_right _ _,
      Nat.add_lt_add_left (List.getElem?_eq_some_iff.1 isDeclared).1 _⟩
  have throws := converts.isSome_throws rfl
  have isFunction := converts.eq_withoutError
  generalize (course.converted.forest.functionAt id).throws = exception at throws isFunction
  have bare := Throwing.withoutError_eq settings (declaration.intake settings)
  have notStatic : (Throwing.withoutError settings (declaration.intake settings)).isStatic =
      false := by
    rw [bare]
    rfl
  have unpromoted : (Throwing.withoutError settings
      (declaration.intake settings)).ret.promotedFrom = none := by
    rw [bare]
    rfl
  have settled := course.settled_final sound roots isFree isFunction notStatic
  obtain ⟨levels, journey⟩ :=
    course.journey_handled sound roots isFree isFunction unpromoted
  obtain ⟨params, restores, stems⟩ :=
    course.restores_final sound journey.present journey.unpromoted
  constructor
  case cname => rw [settled.1, bare]
  case throws =>
    rw [settled.2.1]
    exact throws
  case isStatic => exact settled.2.2
  case deallocator =>
    intro takes deallocates
    -- A deallocator is in its slot once the functions are hoisted, and no later move takes it out.
    apply (course.moves_settled sound).staysDeallocator (course.sound_hoisted sound)
      (course.present_hoisted sound isFree)
    intro slot owned
    have fits := course.fits_hoisted sound roots isFree isFunction owned
    apply fits.deallocator takes
    rw [bare]
    exact deallocates
  case params =>
    refine ⟨levels, params, restores, journey.leads.trans stems, ?_, ?_⟩
    · exact (course.moves_stay sound).descends (by simp) (course.sound_handled sound)
        journey.present journey.home
    · exact fun unheld => journey.unheld fun isHeld =>
        unheld (course.mem_held_final sound vacant isHeld)

end Course

/-- Every function that a lone header declares calls C with the parameters that it was declared
with. -/
theorem retraces_convert {header : HeaderDeclarations} {result : Result}
    (converted : convert settings { headers := [header] } = .ok result)
    {declaration : FunctionDeclaration}
    (isDeclared : (header.functions.filter (!·.isExcluded settings))[id]? = some declaration) :
    Retraces settings header.structs (declaration.intake settings) result.draft.forest id := by
  obtain ⟨final, same, -, accounted⟩ := accounted_convert converted
  have processed : processHeader settings {} header = .ok final := by
    obtain ⟨draft, processed, finished⟩ := exists_ok_of_bind accounted.processed
    rw [processed]
    exact finished
  rw [same]
  rw [processHeader] at processed
  split at processed
  · rename_i rootClass isRoot
    obtain ⟨course, runs⟩ := exists_course processed
    have isTaken : (Intake.functions settings header.functions)[id]? =
        some (declaration.intake settings) := by
      rw [Intake.functions, List.getElem?_map, isDeclared]
      rfl
    have retraces := course.retraces Forest.sound_empty rfl (fun _ _ => rfl)
      (defaultInit_beforeInitializers runs) isTaken
    rw [← Nat.zero_add id]
    exact retraces
  · cases processed

/-- A method that fills the name of a friend, and the companion that tells its length. -/
def friendName : HeaderDeclarations where
  file := "tox.h"
  functions := [
    { name := "tox_friend_get_name"
      returnType := { name := "bool" }
      parameters := [
        { name := "tox", type := { name := "Tox", isPointer := true, isConst := true } },
        { name := "friend_number", type := { name := "uint32_t" } },
        { name := "name", type := { name := "uint8_t", isPointer := true } },
        { name := "error", type := { name := "Tox_Err_Friend_Query", isPointer := true } }] },
    { name := "tox_friend_get_name_size"
      returnType := { name := "size_t" }
      parameters := [
        { name := "tox", type := { name := "Tox", isPointer := true, isConst := true } },
        { name := "friend_number", type := { name := "uint32_t" } }] }]
  enums := [{ name := "Tox_Err_Friend_Query" }]
  structs := ["Tox"]

theorem retraces_friendName :
    ∃ result declaration, convert Settings.default { headers := [friendName] } = .ok result ∧
      (result.draft.forest.functionAt 0).ret.promotedFrom = some 0 ∧
      friendName.functions[0]? = some declaration ∧
      Retraces Settings.default friendName.structs (declaration.intake Settings.default)
        result.draft.forest 0 := by
  obtain ⟨result, converted, promoted⟩ := exists_converted
    (fun result => (result.draft.forest.functionAt 0).ret.promotedFrom)
    (show (convert Settings.default { headers := [friendName] }).toOption.map _ = some (some 0) by
      decide +kernel)
  refine ⟨result, _, converted, promoted, rfl, ?_⟩
  apply retraces_convert converted
  decide +kernel

end Conversion

end Bindery
