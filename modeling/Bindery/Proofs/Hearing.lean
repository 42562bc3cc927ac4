import Bindery.Proofs.Formation
import Bindery.Proofs.Settling
import Bindery.Proofs.Standing

/-!
# Callbacks stay with their listeners

The function of a listener bears the same canonical name as all others of its kind, which no pass
looks for by itself.  So it stays where it was put as long as the settings do not ask for that name,
and its first parameter is no number handle when methods move.
-/

namespace Bindery

variable {settings : Settings} {kinds : Set MoveKind} {draft final : Draft}
  {before after forest : Forest} {c place : ClassId} {id other : FunctionId}
  {className : String}

namespace Text

theorem dropPrefix?_eq_none {text pattern : String} (unprefixed : startsWith text pattern = false) :
    dropPrefix? text pattern = none := by
  rw [startsWith] at unprefixed
  rw [dropPrefix?, Chars.dropPrefix?, unprefixed]
  rfl

end Text

/-! ## What passes keep -/

/-- Whether what holds of the forest before a pass holds after it, unless the pass gives up. -/
def Pass.Keeps (Invariant : Forest → Prop) (pass : Pass) : Prop :=
  ∀ draft final, pass draft = .ok final → Invariant draft.forest → Invariant final.forest

namespace Pass.Keeps

variable {Invariant : Forest → Prop}

theorem run {passes : List Pass} (each : ∀ pass ∈ passes, pass.Keeps Invariant) :
    (Pass.run passes).Keeps Invariant := by
  induction passes with
  | nil => exact fun _ _ finished start => Except.ok.inj finished ▸ start
  | cons pass rest ih =>
      intro draft final finished start
      obtain ⟨middle, first, later⟩ := run_cons_ok finished
      exact ih (fun pass member => each pass (List.mem_cons_of_mem _ member)) middle final later
        (each pass List.mem_cons_self draft middle first start)

theorem ofTotal {step : Draft → Draft}
    (keeps : ∀ draft, Invariant draft.forest → Invariant (step draft).forest) :
    (Pass.ofTotal step).Keeps Invariant :=
  fun draft _ finished start => Except.ok.inj finished ▸ keeps draft start

theorem foldlM {α : Type} {visit : α → Pass} (items : List α)
    (each : ∀ item, (visit item).Keeps Invariant) :
    Pass.Keeps Invariant fun draft => items.foldlM (fun draft item => visit item draft) draft := by
  induction items with
  | nil => exact fun _ _ finished start => Except.ok.inj finished ▸ start
  | cons item rest ih =>
      intro draft final finished start
      simp only [List.foldlM_cons] at finished
      obtain ⟨middle, first, later⟩ := exists_ok_of_bind finished
      exact ih middle final later (each item draft middle first start)

theorem tryForEachMethod {step : ClassId → FunctionId → Pass}
    (each : ∀ c id, (step c id).Keeps Invariant) :
    Pass.Keeps Invariant fun draft => draft.tryForEachMethod step := by
  intro draft final finished start
  have eachClass (c : ClassId) : Pass.Keeps Invariant fun draft =>
      (draft.forest.methods c).foldlM (fun draft id => step c id draft) draft :=
    fun draft => foldlM (draft.forest.methods c) (each c) draft
  exact foldlM draft.forest.allClasses eachClass draft final finished start

theorem forEachMethod {step : ClassId → FunctionId → Draft → Draft}
    (each : ∀ c id draft, Invariant draft.forest → Invariant (step c id draft).forest) :
    (Pass.ofTotal (·.forEachMethod step)).Keeps Invariant :=
  .ofTotal fun _ start => holds_forEachMethod (.same Invariant) (each _ _ _) start

end Pass.Keeps

namespace Listeners

/-- Whether the settings leave the callback of a class of the given name alone: its canonical name
has no marker of accessors, it is not forced into a property, it does not initialize the class, it
gets no other name, and it does not repeat the name of the class. -/
@[mk_iff]
structure KeepsCallback (settings : Settings) (className : String) : Prop where
  unmarked : Sizing.isAccessorName settings settings.canonical.callback = false
  unforced : settings.forcedProperties.contains settings.canonical.callback = false
  uninitialized : settings.defaultInitializers.get? className ≠ some settings.canonical.callback
  unrenamed : ∀ names ∈ settings.renames.get? className,
    names.functions.get? settings.canonical.callback = none
  unprefixed : Text.startsWith settings.canonical.callback (Hoisting.classPrefix className) = false

instance (settings : Settings) (className : String) :
    Decidable (KeepsCallback settings className) :=
  decidable_of_iff' _ (keepsCallback_iff settings className)

/-- The default settings leave all callbacks alone, whatever their classes are called. -/
theorem keepsCallback_default (className : String) : KeepsCallback Settings.default className where
  unmarked := by decide +kernel
  unforced := by decide +kernel
  uninitialized := by
    have others : ∀ entry ∈ Settings.default.defaultInitializers.entries,
        entry.2 ≠ Settings.default.canonical.callback := by decide +kernel
    exact fun configured => others _ (Table.mem_of_get? configured) rfl
  unrenamed := by
    have others : ∀ entry ∈ Settings.default.renames.entries,
        entry.2.functions.get? Settings.default.canonical.callback = none := by decide +kernel
    exact fun names configured => others _ (Table.mem_of_get? configured)
  unprefixed := by
    rw [Bool.eq_false_iff, Ne, Text.startsWith_iff, Hoisting.classPrefix]
    intro isPrefix
    -- A class prefix ends in an underscore, and there is none in the name of a callback.
    have isThere : '_' ∈ Settings.default.canonical.callback.toList :=
      isPrefix.subset (by simp)
    exact absurd isThere (by decide +kernel)

/-- Whether a function is a method of a class of the given name, and called as callbacks are. -/
structure Hears (settings : Settings) (className : String) (c : ClassId) (id : FunctionId)
    (forest : Forest) : Prop where
  named : forest.className c = className
  isMethod : id ∈ forest.methods c
  isName : (forest.functionAt id).name = settings.canonical.callback
  notStatic : (forest.functionAt id).isStatic = false

theorem hears_iff : Hears settings className c id forest ↔
    Stands className settings.canonical.callback false c id forest :=
  ⟨fun ⟨named, isMethod, isName, notStatic⟩ => ⟨named, isMethod, isName, notStatic⟩,
    fun ⟨named, isMethod, isName, notStatic⟩ => ⟨named, isMethod, isName, notStatic⟩⟩

theorem KeepsCallback.unclaimed (keeps : KeepsCallback settings className) :
    Unclaimed settings className settings.canonical.callback :=
  ⟨keeps.unmarked, keeps.unforced, keeps.uninitialized⟩

namespace Hears

/-! ## Changes of a forest -/

theorem modifyOther (hears : Hears settings className c id forest) (different : id ≠ other)
    (change : Function → Function) :
    Hears settings className c id (forest.modifyFunction other change) :=
  hears_iff.2 ((hears_iff.1 hears).modifyOther different change)

theorem modifyFunction {change : Function → Function}
    (hears : Hears settings className c id forest)
    (name : (change (forest.functionAt other)).name = (forest.functionAt other).name)
    (isStatic : (change (forest.functionAt other)).isStatic =
      (forest.functionAt other).isStatic) :
    Hears settings className c id (forest.modifyFunction other change) :=
  hears_iff.2 ((hears_iff.1 hears).modifyFunction name isStatic)

theorem modifyClass {change : Class → Class} (hears : Hears settings className c id forest)
    (keeps : c = place → ∀ content : Class,
      id ∈ content.methods → id ∈ (change content).methods) :
    Hears settings className c id (forest.modifyClass place change) :=
  hears_iff.2 ((hears_iff.1 hears).modifyClass keeps)

/-! ## Steps of passes -/

section Keeps

variable (keeps : KeepsCallback settings className)

include keeps

/-- Accessors of sizes are taken off their classes by their names. -/
theorem resolves (hears : Hears settings className c id before)
    (step : Sizing.Resolves settings kinds place other before after) :
    Hears settings className c id after := by
  cases step with
  | skip => exact hears
  | @tell kind keyword accessor taken change tells sought found takes told =>
      have still : Hears settings className c id taken ∧
          taken.functionAt other = before.functionAt other := by
        rcases takes with rfl | ⟨-, -, marked, rfl⟩
        · exact ⟨hears, rfl⟩
        · have different := (hears_iff.1 hears).ne_of_name keeps.unmarked marked
          have removed : Hears settings className c id (before.removeMethod place accessor) :=
            hears.modifyClass fun _ _ => Stands.mem_removeMethod different
          exact ⟨⟨removed.named, removed.isMethod, removed.isName, removed.notStatic⟩, rfl⟩
      obtain ⟨still, same⟩ := still
      rw [← same] at told
      generalize function : taken.functionAt other = before at told
      have kept : (change before).name = before.name ∧
          (change before).isStatic = before.isStatic := by
        generalize change before = changed at told
        cases told with
        | sizeReturn | sizeParameter => exact ⟨rfl, rfl⟩
        | promote found =>
            obtain ⟨⟨buffer, isBuffer, -⟩, -⟩ := Sizing.filledBuffer?_eq_some found
            rw [Sizing.promote_eq accessor isBuffer]
            exact ⟨rfl, rfl⟩
      rw [← function] at kept
      exact still.modifyFunction kept.1 kept.2

theorem extractInitializer (hears : Hears settings className c id draft.forest) :
    Hears settings className c id (Corrections.extractInitializer settings place draft).forest :=
  hears_iff.2 ((hears_iff.1 hears).extractInitializer keeps.unclaimed)

theorem foldAccessor (hears : Hears settings className c id draft.forest) :
    Hears settings className c id
      (Accessors.foldAccessor settings place other draft).forest :=
  hears_iff.2 ((hears_iff.1 hears).foldAccessor keeps.unclaimed)

theorem foldForced (hears : Hears settings className c id draft.forest) :
    Hears settings className c id (Accessors.foldForced settings place other draft).forest :=
  hears_iff.2 ((hears_iff.1 hears).foldForced keeps.unclaimed)

end Keeps

theorem foldStatic (hears : Hears settings className c id draft.forest) :
    Hears settings className c id (Accessors.foldStatic settings place other draft).forest := by
  rw [Accessors.foldStatic]
  split
  · rename_i isStatic
    refine hears_iff.2 ((hears_iff.1 hears).addProperty ?_)
    rintro rfl
    rw [hears.notStatic] at isStatic
    cases isStatic
  · exact hears

/-! ## Loops and passes -/

/-- A method of another class may get the name that the settings list for it. -/
theorem renameMembers (keeps : KeepsCallback settings className) (sound : draft.forest.Sound)
    (hears : Hears settings className c id draft.forest) :
    Hears settings className c id (Corrections.renameMembers settings place draft).forest := by
  rw [Corrections.renameMembers]
  split
  · exact hears
  · rename_i names configured
    have named := hears.named
    have renames := @Move.renameProperties settings draft.forest place names.properties
    dsimp only
    generalize isNext : draft.modifyClass place (fun c => { c with
      properties := c.properties.map (Corrections.renameProperty names.properties) }) = next
    have start : Hears settings className c id next.forest :=
      isNext ▸ hears.modifyClass fun _ _ isMethod => isMethod
    have distinct : next.forest.MethodsDistinct :=
      isNext ▸ (renames.sound sound).methodsDistinct
    refine List.foldlRecOn
      (motive := fun draft : Draft => Hears settings className c id draft.forest) _ _
      start fun draft hears other isOther => ?_
    rw [Corrections.renameMethod]
    split
    · rename_i renamed listed
      refine hears.modifyOther ?_ _
      -- If the callback were renamed, this class would be its listener, whose table leaves it out.
      rintro rfl
      rw [← distinct.unique start.isMethod isOther, named] at configured
      rw [hears.isName, keeps.unrenamed names configured] at listed
      cases listed
    · exact hears

end Hears

section Passes

variable (keeps : KeepsCallback settings className)

include keeps

/-- A loop over all methods that tells one buffer after the other how long it is. -/
theorem keeps_tryForEachMethod {step : ClassId → FunctionId → Pass}
    (each : ∀ {place other draft}, Sizing.Resolves settings kinds place other draft.forest
      (reached (step place other draft)).forest) :
    Pass.Keeps (Hears settings className c id) fun draft => draft.tryForEachMethod step := by
  refine .tryForEachMethod fun place other draft final finished hears => ?_
  have resolves := @each place other draft
  rw [finished] at resolves
  exact hears.resolves keeps resolves

theorem keeps_referPasses :
    (Pass.run (Conversion.referPasses settings)).Keeps (Hears settings className c id) := by
  refine .run fun pass member => ?_
  simp only [Conversion.referPasses, List.mem_cons, List.not_mem_nil, or_false] at member
  rcases member with rfl | rfl
  · exact .forEachMethod fun _ _ _ hears => hears.modifyFunction rfl rfl
  · exact keeps_tryForEachMethod keeps Sizing.resolves_resolveReturn

theorem keeps_resolveFilledBuffers :
    Pass.Keeps (Hears settings className c id) (Sizing.resolveFilledBuffers settings) :=
  keeps_tryForEachMethod keeps Sizing.resolves_resolveFilled

theorem keeps_sizePasses :
    (Pass.run (Conversion.sizePasses settings)).Keeps (Hears settings className c id) := by
  refine .run fun pass member => ?_
  simp only [Conversion.sizePasses, List.mem_cons, List.not_mem_nil, or_false] at member
  rcases member with rfl | rfl | rfl | rfl | rfl
  · exact .forEachMethod fun _ _ _ hears => hears.resolves keeps Sizing.resolves_resolveSetter
  · exact .forEachMethod fun _ _ _ hears => hears.resolves keeps Sizing.resolves_resolveOverride
  · exact .forEachMethod fun _ _ _ hears => hears.modifyFunction rfl rfl
  · refine .forEachMethod fun place other draft hears => ?_
    exact List.foldlRecOn
      (motive := fun draft : Draft => Hears settings className c id draft.forest) _ _ hears
      fun draft hears _ _ => hears.resolves keeps Sizing.resolves_resolveResidual
  · refine .forEachMethod fun place other draft hears => hears.modifyFunction ?_ ?_
    all_goals split <;> rfl

theorem keeps_extractInitializers :
    (Pass.ofTotal (Corrections.extractInitializers settings)).Keeps
      (Hears settings className c id) :=
  .ofTotal fun _ hears => List.foldlRecOn
    (motive := fun draft : Draft => Hears settings className c id draft.forest) _ _ hears
    fun _ hears _ _ => hears.extractInitializer keeps

theorem keeps_accessorPasses :
    (Pass.run (Accessors.passes settings)).Keeps (Hears settings className c id) := by
  refine .run fun pass member => ?_
  simp only [Accessors.passes, List.mem_cons, List.not_mem_nil, or_false] at member
  rcases member with rfl | rfl | rfl | rfl
  · exact .forEachMethod fun _ _ _ hears => hears.foldAccessor keeps
  · refine .forEachMethod fun place other draft hears => hears.modifyFunction ?_ ?_
    · exact congrArg (·.1) (Accessors.heading_dropSuccess _)
    · exact isStatic_of_heading (Accessors.heading_dropSuccess _)
  · exact .forEachMethod fun _ _ _ hears => hears.foldStatic
  · exact .forEachMethod fun _ _ _ hears => hears.foldForced keeps

theorem hears_applyRenames (sound : draft.forest.Sound)
    (hears : Hears settings className c id draft.forest) :
    Hears settings className c id (Corrections.applyRenames settings draft).forest := by
  have loop : (Corrections.applyRenames settings draft).forest.Sound ∧
      Hears settings className c id (Corrections.applyRenames settings draft).forest :=
    List.foldlRecOn (motive := fun draft : Draft => draft.forest.Sound ∧
        Hears settings className c id draft.forest) _ _ ⟨sound, hears⟩
      fun draft facts place _ => ⟨(Corrections.moves_renameMembers settings facts.1).sound facts.1,
        facts.2.renameMembers keeps facts.1⟩
  exact loop.2

end Passes

end Listeners

/-! ## Number handles -/

namespace NumberHandles

/-- Whether no plain parameter of a function is a number handle. -/
def TakesNoNumber (settings : Settings) (function : Function) : Prop :=
  ∀ parameter, .plain parameter ∈ function.params →
    Text.endsWith parameter.name settings.markers.numberHandle = false

namespace TakesNoNumber

theorem moves (none : TakesNoNumber settings (before.functionAt id))
    (moves : Moves settings kinds before after) (present : id < before.functionCount) :
    TakesNoNumber settings (after.functionAt id) := by
  have traced : Traces (fun former parameter =>
      Text.endsWith former.name settings.markers.numberHandle = false →
        Text.endsWith parameter.name settings.markers.numberHandle = false)
      (before.functionAt id).params (after.functionAt id).params :=
    moves.traces (fun _ unmarked => unmarked) (fun _ _ unmarked => unmarked) present
      (fun _ _ _ first second unmarked => second (first unmarked))
      (fun _ _ _ isBase unmarked => by
        rw [Text.endsWith_of_dropSuffix? isBase] at unmarked
        cases unmarked)
  intro parameter member
  obtain ⟨former, isFormer, keeps⟩ := traced parameter member
  exact keeps (none former isFormer)

theorem handleBase?_eq_none {function : Function} (none : TakesNoNumber settings function) :
    handleBase? settings function = Option.none := by
  cases matched : handleBase? settings function with
  | none => rfl
  | some base =>
      obtain ⟨first, rest, leading, isBase⟩ := handleBase?_eq_some matched
      have unmarked := none first (leading ▸ List.mem_cons_self)
      rw [Text.endsWith_of_dropSuffix? isBase] at unmarked
      cases unmarked

end TakesNoNumber

end NumberHandles

namespace Listeners.Hears

variable (keeps : KeepsCallback settings className)

include keeps

theorem stripClassPrefixes {classes : List ClassId} (different : classes.Nodup)
    (distinct : draft.forest.MethodsDistinct)
    (hears : Hears settings className c id draft.forest) :
    Hears settings className c id (Hoisting.stripClassPrefixes classes draft).forest := by
  obtain ⟨frame, -, strips, others⟩ :=
    @Hoisting.stripClassPrefixes_spec draft _ classes different distinct rfl
  have same : (Hoisting.stripClassPrefixes classes draft).forest.functionAt id =
      draft.forest.functionAt id := by
    by_cases member : c ∈ classes
    · rw [strips c member id hears.isMethod, hears.named, Hoisting.stripPrefix, hears.isName,
        Text.dropPrefix?_eq_none keeps.unprefixed, Option.getD_none, ← hears.isName]
      rfl
    · apply others id
      intro place isPlace isTwice
      exact member (distinct.unique hears.isMethod isTwice ▸ isPlace)
  constructor
  case named =>
    rw [frame]
    exact hears.named
  case isMethod =>
    rw [frame]
    exact hears.isMethod
  case isName => rw [same, hears.isName]
  case notStatic => rw [same, hears.notStatic]

/-- A round leaves a callback alone that takes no number handle. -/
theorem round (distinct : draft.forest.MethodsDistinct)
    (hears : Hears settings className c id draft.forest)
    (none : NumberHandles.TakesNoNumber settings (draft.forest.functionAt id)) :
    Hears settings className c id (NumberHandles.round settings draft).1.forest := by
  have ran : NumberHandles.round settings draft = ((NumberHandles.round settings draft).1,
      (NumberHandles.round settings draft).2) := rfl
  obtain ⟨moved, relocates, distinctMoved, growth, stripped, -⟩ :=
    NumberHandles.exists_relocated_of_round distinct ran
  have unmatched : id ∉ (NumberHandles.findMatches settings draft.forest).map (·.function) := by
    intro isFound
    obtain ⟨found, member, rfl⟩ := List.mem_map.1 isFound
    have matched := (NumberHandles.mem_findMatches_iff.1 member).2
    rw [none.handleBase?_eq_none] at matched
    cases matched
  obtain ⟨same, stays⟩ :=
    (NumberHandles.foldl_relocate (NumberHandles.matchesRemain_findMatches distinct)
      relocates).2 id unmatched
  have still : Hears settings className c id moved.forest :=
    ⟨(growth.name_eq (Forest.lt_size_of_mem_methods hears.isMethod)).trans hears.named,
      stays c hears.isMethod, by rw [same, hears.isName], by rw [same, hears.notStatic]⟩
  rw [← stripped]
  exact still.stripClassPrefixes keeps moved.forest.hierarchy.nodup_all distinctMoved

/-- So does the loop over all rounds. -/
theorem rounds {start : Draft} {count : Nat} (distinct : start.forest.MethodsDistinct)
    (hears : Hears settings className c id start.forest)
    (none : NumberHandles.TakesNoNumber settings (start.forest.functionAt id))
    (present : id < start.forest.functionCount)
    (rounds : NumberHandles.Rounds settings start count draft) :
    Hears settings className c id draft.forest := by
  induction rounds with
  | start => exact hears
  | next earlier found ih =>
      have stillNone := none.moves (earlier.moves distinct) present
      have next := ih.round keeps (earlier.methodsDistinct distinct) stillNone
      rw [found] at next
      exact next

theorem settleHandles (sound : draft.forest.Sound)
    (hears : Hears settings className c id draft.forest)
    (none : NumberHandles.TakesNoNumber settings (draft.forest.functionAt id))
    (settled : Grouping.settleHandles settings draft = .ok final) :
    Hears settings className c id final.forest := by
  obtain ⟨⟨settled, count⟩, result, ends⟩ := exists_ok_of_bind settled
  obtain ⟨last, rounds, finds⟩ := (NumberHandles.extract_eq_ok_iff sound).1 result
  have present := sound.lt_of_mem_methods hears.isMethod
  have distinct := sound.methodsDistinct
  have stillNone := none.moves (rounds.moves distinct) present
  have next := (hears.rounds keeps distinct none present rounds).round keeps
    (rounds.methodsDistinct distinct) stillNone
  rw [finds] at next
  rw [← Except.ok.inj ends]
  exact next

end Listeners.Hears

/-! ## Headers -/

/-- The kinds of moves that leave methods where they are. -/
def stayingKinds : Set MoveKind :=
  {kind | kind ∉ ({.descend, .detach, .takeInitializer, .addProperty, .addSetter} : Set MoveKind)}

theorem Move.mem_methods {kind : MoveKind} (move : Move settings kind before after)
    (stays : kind ∈ stayingKinds) (isMethod : id ∈ before.methods c) : id ∈ after.methods c := by
  rcases move.classAt_step c with same | step
  · rwa [Forest.methods, same]
  · rw [Forest.methods] at isMethod ⊢
    generalize before.classAt c = content at isMethod step
    generalize after.classAt c = changed at step ⊢
    cases step with
    | listen | adopt | adoptAll => exact List.mem_append_left _ isMethod
    | allocate =>
        rw [Class.withAlloc]
        split <;> exact isMethod
    | deallocate =>
        rw [Class.withDealloc]
        split <;> exact isMethod
    | renameProperties => exact isMethod
    | _ => simp [stayingKinds] at stays

theorem Moves.mem_methods (moves : Moves settings kinds before after) (stays : kinds ⊆ stayingKinds)
    (isMethod : id ∈ before.methods c) : id ∈ after.methods c := by
  induction moves with
  | refl => exact isMethod
  | tail _ last ih =>
      obtain ⟨kind, allowed, move⟩ := last
      exact move.mem_methods (stays allowed) ih

namespace Conversion.Course

open Listeners

variable {rootClass : String} {header : HeaderDeclarations} {start : Draft}
  (course : Course settings rootClass header start final) (sound : start.forest.Sound)
  (keeps : KeepsCallback settings className)

include sound keeps

/-- No pass that follows on the listeners of a header takes a callback away. -/
theorem hears_final (hears : Hears settings className c id course.listened.forest) :
    Hears settings className c id final.forest := by
  have handled := keeps_referPasses keeps _ _ course.handles hears
  have promoted := keeps_resolveFilledBuffers keeps _ _ course.promotes handled
  have sized := keeps_sizePasses keeps _ _ course.sizes promoted
  have initializes : Pass.ofTotal (Corrections.extractInitializers settings) course.sized =
      .ok course.initialized := rfl
  have initialized := keeps_extractInitializers keeps _ _ initializes sized
  have forms : Pass.run (Accessors.passes settings) course.initialized =
      .ok (formMembers settings course.initialized) := by
    simp only [Accessors.passes, Pass.run_cons, Pass.ofTotal]
    rfl
  have formed := keeps_accessorPasses keeps _ _ forms initialized
  have soundFormed := @sound_formMembers settings _ (course.sound_initialized sound)
  rw [course.forest_final]
  exact hears_applyRenames keeps soundFormed formed

/-- Nor does a pass of a later header that comes before its listeners. -/
theorem hears_listened_of_old (noneFree : start.forest.free = [])
    (hears : Hears settings className c id start.forest)
    (none : NumberHandles.TakesNoNumber settings (start.forest.functionAt id)) :
    Hears settings className c id course.listened.forest := by
  have present := sound.lt_of_mem_methods hears.isMethod
  have soundHoisted := course.sound_hoisted sound
  -- Until the free functions are handed out, no method of a class is touched.
  have toHoisted : Moves settings (stayingKinds ∩ roamingKinds) start.forest
      course.hoisted.forest := by
    apply (course.moves_hoisted_of_start sound).mono
    simp [stayingKinds, roamingKinds, takeKinds, hoistKinds, Set.subset_def]
  have function := (course.spares_hoisted sound noneFree present).function
  have hoisted : Hears settings className c id course.hoisted.forest :=
    ⟨(toHoisted.hierarchy_extends.name_eq (Forest.lt_size_of_mem_methods hears.isMethod)).trans
        hears.named,
      toHoisted.mem_methods Set.inter_subset_left hears.isMethod,
      by rw [function, hears.isName], by rw [function, hears.notStatic]⟩
  rw [← function] at none
  -- Prefixes and number handles are what could rename it or take it elsewhere.
  obtain ⟨stripped, strips, settles⟩ := Pass.run_cons_ok course.places
  obtain ⟨settled, settles, ends⟩ := Pass.run_cons_ok settles
  obtain rfl := Except.ok.inj ends
  obtain rfl := Except.ok.inj strips
  have stripMoves := @Hoisting.moves_stripClassPrefixes settings course.hoisted
    course.hoisted.forest.hierarchy.roots
  have rootsOnce := course.hoisted.forest.hierarchy.nodup_children Option.none
  have bare := hoisted.stripClassPrefixes keeps rootsOnce soundHoisted.methodsDistinct
  have placed := bare.settleHandles keeps (stripMoves.sound soundHoisted)
    (none.moves stripMoves (soundHoisted.lt_of_mem_methods hoisted.isMethod)) settles
  have listens := course.moves_listened sound
  have same := listens.functionAt_induction
    (fun function => function.name = settings.canonical.callback ∧ function.isStatic = false)
    ((course.sound_placed sound).lt_of_mem_methods placed.isMethod)
    ⟨placed.isName, placed.notStatic⟩
    fun allowed step _ => by
      obtain rfl := Set.mem_singleton_iff.1 allowed
      cases step
  exact ⟨(listens.hierarchy_extends.name_eq
      (Forest.lt_size_of_mem_methods placed.isMethod)).trans placed.named,
    listens.mem_methods (by simp [stayingKinds]) placed.isMethod, same.1, same.2⟩

end Conversion.Course

end Bindery
