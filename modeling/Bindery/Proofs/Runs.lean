import Bindery.Proofs.Passes.Handles
import Bindery.Proofs.Passes.Naming
import Bindery.Proofs.Passes.Sizing

/-!
# The course of a conversion

The passes of a header fall into sections, each of which makes moves of few kinds.  Functions come
in, the hoisting passes hand them out to classes, number handles take methods further down, and
what follows sizes buffers and forms members.
-/

namespace Bindery

variable {settings : Settings} {kinds : Set MoveKind} {draft final : Draft}

namespace Pass

theorem run_append_ok {first second : List Pass}
    (finished : run (first ++ second) draft = .ok final) :
    ∃ middle, run first draft = .ok middle ∧ run second middle = .ok final := by
  rw [run_append] at finished
  exact exists_ok_of_bind finished

theorem run_cons_ok {pass : Pass} {passes : List Pass}
    (finished : run (pass :: passes) draft = .ok final) :
    ∃ middle, pass draft = .ok middle ∧ run passes middle = .ok final := by
  rw [run_cons] at finished
  exact exists_ok_of_bind finished

theorem Makes.ok {pass : Pass} (makes : pass.Makes settings kinds)
    (finished : pass draft = .ok final) (sound : draft.forest.Sound) :
    Moves settings kinds draft.forest final.forest := by
  have moves := makes draft sound
  rw [finished] at moves
  exact moves

end Pass

namespace Conversion

/-- The passes that take in what a header declares. -/
def takePasses (settings : Settings) (rootClass : String) (header : HeaderDeclarations) :
    List Pass :=
  [ Pass.ofTotal (·.note .info s!"Processing `{header.file}` into root class `{rootClass}`"),
    Pass.ofTotal (takeEnums settings header.enums),
    Pass.ofTotal (takeFunctions settings header.functions) ]

/-- The passes that hand the free functions out to classes. -/
def hoistPasses (settings : Settings) (rootClass : String) (header : HeaderDeclarations) :
    List Pass :=
  [ Pass.ofTotal (Hoisting.hoistAllocators header.structs settings),
    Pass.ofTotal (Hoisting.hoistStructFunctions header.structs settings),
    Pass.ofTotal (Hoisting.hoistLeftovers rootClass) ]

/-- The passes that take methods to the classes of number handles. -/
def handlePasses (settings : Settings) : List Pass :=
  [Pass.ofTotal Grouping.stripRootPrefixes, Grouping.settleHandles settings]

/-- The passes between the listeners and the promotion of filled buffers. -/
def referPasses (settings : Settings) : List Pass :=
  [ Pass.ofTotal (NumberHandles.convertLeftoverParameters settings),
    Sizing.resolveReturns settings ]

/-- The passes between the promotion of filled buffers and the default initializers. -/
def sizePasses (settings : Settings) : List Pass :=
  [ Pass.ofTotal (Sizing.resolveSetters settings),
    Pass.ofTotal (Sizing.resolveOverrides settings),
    Pass.ofTotal (Sizing.pairParameters settings),
    Pass.ofTotal (Sizing.resolveResiduals settings),
    Pass.ofTotal (Corrections.retypeHandleReturns settings) ]

/-- The passes that form and name the members of classes. -/
def memberPasses (settings : Settings) (header : HeaderDeclarations) : List Pass :=
  Accessors.passes settings ++
    [Pass.ofTotal (Corrections.applyRenames settings), Pass.ofTotal (noteDone header)]

/-- Everything that is done for a header before default initializers are looked for. -/
def beforeInitializers (settings : Settings) (rootClass : String) (header : HeaderDeclarations) :
    List Pass :=
  takePasses settings rootClass header ++ (Throwing.convertErrorParameters settings ::
    (hoistPasses settings rootClass header ++ (handlePasses settings ++
      (Pass.ofTotal (fun draft => (Listeners.extract settings header.typedefs draft).1) ::
        (referPasses settings ++ (Sizing.resolveFilledBuffers settings ::
          sizePasses settings))))))

theorem passes_eq (settings : Settings) (rootClass : String) (header : HeaderDeclarations) :
    passes settings rootClass header =
      beforeInitializers settings rootClass header ++
        (Pass.ofTotal (Corrections.extractInitializers settings) ::
          memberPasses settings header) :=
  rfl

/-- The draft with the enums and functions of a header, before anything is done to them. -/
def takeIn (settings : Settings) (rootClass : String) (header : HeaderDeclarations)
    (draft : Draft) : Draft :=
  takeFunctions settings header.functions <|
    takeEnums settings header.enums <|
      draft.note .info s!"Processing `{header.file}` into root class `{rootClass}`"

theorem run_takePasses (settings : Settings) (rootClass : String) (header : HeaderDeclarations)
    (draft : Draft) :
    Pass.run (takePasses settings rootClass header) draft =
      .ok (takeIn settings rootClass header draft) := by
  simp only [takePasses, Pass.run_cons, Pass.ofTotal]
  rfl

/-- The draft in which the free functions are handed out to classes. -/
def hoist (settings : Settings) (rootClass : String) (header : HeaderDeclarations)
    (draft : Draft) : Draft :=
  Hoisting.hoistLeftovers rootClass
    (Hoisting.hoistStructFunctions header.structs settings
      (Hoisting.hoistAllocators header.structs settings draft))

theorem run_hoistPasses (settings : Settings) (rootClass : String) (header : HeaderDeclarations)
    (draft : Draft) :
    Pass.run (hoistPasses settings rootClass header) draft =
      .ok (hoist settings rootClass header draft) := by
  simp only [hoistPasses, Pass.run_cons, Pass.ofTotal]
  rfl

/-! ## The moves of the sections -/

def takeKinds : Set MoveKind :=
  {.register, .intake}

def hoistKinds : Set MoveKind :=
  {.require, .allocate, .deallocate, .adopt, .adoptAll, .edit .makeAllocator,
    .edit .makeDeallocator, .edit .makeMethod, .edit .makeStatic}

def handleKinds : Set MoveKind :=
  {.require, .descend, .edit .refer, .edit .rename}

def referKinds : Set MoveKind :=
  {.detach, .edit .refer, .edit .sizeReturn}

def promoteKinds : Set MoveKind :=
  {.detach, .edit .promote}

def sizeKinds : Set MoveKind :=
  {.detach, .edit .sizeParameter, .edit .pair, .edit .retype}

def memberKinds : Set MoveKind :=
  {.addProperty, .addSetter, .renameProperties, .edit .rename, .edit .dropSuccess}

variable (settings) (rootClass : String) (header : HeaderDeclarations)

theorem makes_takePasses :
    (Pass.run (takePasses settings rootClass header)).Makes settings takeKinds := by
  refine .run fun pass member => ?_
  simp only [takePasses, List.mem_cons, List.not_mem_nil, or_false] at member
  rcases member with rfl | rfl | rfl
  · exact .ofNote fun _ => rfl
  · exact (makes_takeEnums settings header.enums).mono (by simp [takeKinds])
  · exact (makes_takeFunctions settings header.functions).mono (by simp [takeKinds])

theorem makes_hoistPasses :
    (Pass.run (hoistPasses settings rootClass header)).Makes settings hoistKinds := by
  refine .run fun pass member => ?_
  simp only [hoistPasses, List.mem_cons, List.not_mem_nil, or_false] at member
  rcases member with rfl | rfl | rfl
  · exact (Hoisting.makes_hoistAllocators settings header.structs).mono
      (by simp [hoistKinds, Set.insert_subset_iff])
  · exact (Hoisting.makes_hoistStructFunctions settings header.structs).mono
      (by simp [hoistKinds, Set.insert_subset_iff])
  · exact (Hoisting.makes_hoistLeftovers settings rootClass).mono
      (by simp [hoistKinds, Set.insert_subset_iff])

theorem makes_handlePasses : (Pass.run (handlePasses settings)).Makes settings handleKinds := by
  refine .run fun pass member => ?_
  simp only [handlePasses, List.mem_cons, List.not_mem_nil, or_false] at member
  rcases member with rfl | rfl
  · exact (Grouping.makes_stripRootPrefixes settings).mono (by simp [handleKinds])
  · exact (Grouping.makes_settleHandles settings).mono
      (by simp [handleKinds, NumberHandles.roundKinds])

theorem makes_referPasses : (Pass.run (referPasses settings)).Makes settings referKinds := by
  refine .run fun pass member => ?_
  simp only [referPasses, List.mem_cons, List.not_mem_nil, or_false] at member
  rcases member with rfl | rfl
  · exact (NumberHandles.makes_convertLeftoverParameters settings).mono (by simp [referKinds])
  · exact (Sizing.makes_resolveReturns settings).mono (by simp [referKinds, Set.insert_subset_iff])

theorem makes_sizePasses : (Pass.run (sizePasses settings)).Makes settings sizeKinds := by
  refine .run fun pass member => ?_
  simp only [sizePasses, List.mem_cons, List.not_mem_nil, or_false] at member
  rcases member with rfl | rfl | rfl | rfl | rfl
  · exact (Sizing.makes_resolveSetters settings).mono
      (by simp [sizeKinds, Set.insert_subset_iff])
  · exact (Sizing.makes_resolveOverrides settings).mono (by simp [sizeKinds])
  · exact (Sizing.makes_pairParameters settings).mono (by simp [sizeKinds])
  · exact (Sizing.makes_resolveResiduals settings).mono (by simp [sizeKinds])
  · exact (Corrections.makes_retypeHandleReturns settings).mono (by simp [sizeKinds])

theorem makes_memberPasses :
    (Pass.run (memberPasses settings header)).Makes settings memberKinds := by
  refine .run fun pass member => ?_
  simp only [memberPasses, Accessors.passes, List.cons_append, List.nil_append, List.mem_cons,
    List.not_mem_nil, or_false] at member
  rcases member with rfl | rfl | rfl | rfl | rfl | rfl
  · exact (Accessors.makes_foldAccessors settings).mono
      (by simp [memberKinds, Set.insert_subset_iff])
  · exact (Accessors.makes_dropSuccessReturns settings).mono (by simp [memberKinds])
  · exact (Accessors.makes_foldStatics settings).mono
      (by simp [memberKinds, Set.insert_subset_iff])
  · exact (Accessors.makes_foldForcedProperties settings).mono
      (by simp [memberKinds, Set.insert_subset_iff])
  · exact (Corrections.makes_applyRenames settings).mono
      (by simp [memberKinds, Set.insert_subset_iff])
  · exact .ofNote fun _ => rfl

/-- Default initializers are looked for by the pass of that name only. -/
theorem makes_beforeInitializers :
    (Pass.run (beforeInitializers settings rootClass header)).Makes settings
      {kind | kind ≠ .takeInitializer} := by
  apply Pass.Makes.append
  · exact (makes_takePasses settings rootClass header).mono (by simp [takeKinds, Set.subset_def])
  apply Pass.Makes.cons
  · exact (Throwing.makes_convertErrorParameters settings).mono (by simp)
  apply Pass.Makes.append
  · exact (makes_hoistPasses settings rootClass header).mono
      (by simp [hoistKinds, Set.subset_def])
  apply Pass.Makes.append
  · exact (makes_handlePasses settings).mono (by simp [handleKinds, Set.subset_def])
  apply Pass.Makes.cons
  · exact (Listeners.makes_extract settings header.typedefs).mono (by simp)
  apply Pass.Makes.append
  · exact (makes_referPasses settings).mono (by simp [referKinds, Set.subset_def])
  apply Pass.Makes.cons
  · exact (Sizing.makes_resolveFilledBuffers settings).mono (by simp [Set.subset_def])
  · exact (makes_sizePasses settings).mono (by simp [sizeKinds, Set.subset_def])

/-! ## One header -/

/-- The drafts between the sections of a header that was processed to the end. -/
structure Course (start final : Draft) where
  converted : Draft
  placed : Draft
  handled : Draft
  promoted : Draft
  sized : Draft
  converts : Throwing.convertErrorParameters settings
    (takeIn settings rootClass header start) = .ok converted
  places : Pass.run (handlePasses settings)
    (hoist settings rootClass header converted) = .ok placed
  handles : Pass.run (referPasses settings)
    (Listeners.extract settings header.typedefs placed).1 = .ok handled
  promotes : Sizing.resolveFilledBuffers settings handled = .ok promoted
  sizes : Pass.run (sizePasses settings) promoted = .ok sized
  ends : Pass.run (memberPasses settings header)
    (Corrections.extractInitializers settings sized) = .ok final

variable {settings rootClass header} {start : Draft}

theorem exists_course
    (finished : Pass.run (passes settings rootClass header) start = .ok final) :
    ∃ course : Course settings rootClass header start final,
      Pass.run (beforeInitializers settings rootClass header) start = .ok course.sized := by
  rw [passes_eq] at finished
  obtain ⟨sized, before, after⟩ := Pass.run_append_ok finished
  obtain ⟨taken, takes, rest⟩ := Pass.run_append_ok before
  obtain ⟨converted, converts, rest⟩ := Pass.run_cons_ok rest
  obtain ⟨hoisted, hoists, rest⟩ := Pass.run_append_ok rest
  obtain ⟨placed, places, rest⟩ := Pass.run_append_ok rest
  obtain ⟨listened, listens, rest⟩ := Pass.run_cons_ok rest
  obtain ⟨handled, handles, rest⟩ := Pass.run_append_ok rest
  obtain ⟨promoted, promotes, sizes⟩ := Pass.run_cons_ok rest
  obtain ⟨initialized, initializes, ends⟩ := Pass.run_cons_ok after
  rw [← Except.ok.inj ((run_takePasses _ _ _ _).symm.trans takes)] at converts
  rw [← Except.ok.inj ((run_hoistPasses _ _ _ _).symm.trans hoists)] at places
  rw [← Except.ok.inj listens] at handles
  rw [← Except.ok.inj initializes] at ends
  exact ⟨⟨converted, placed, handled, promoted, sized, converts, places, handles, promotes,
    sizes, ends⟩, before⟩

namespace Course

variable (course : Course settings rootClass header start final)

def taken (_course : Course settings rootClass header start final) : Draft :=
  takeIn settings rootClass header start

def hoisted : Draft :=
  hoist settings rootClass header course.converted

def listened : Draft :=
  (Listeners.extract settings header.typedefs course.placed).1

def initialized : Draft :=
  Corrections.extractInitializers settings course.sized

variable (sound : start.forest.Sound)

include sound

theorem moves_taken : Moves settings takeKinds start.forest course.taken.forest :=
  (makes_takePasses settings rootClass header).ok (run_takePasses _ _ _ _) sound

theorem sound_taken : course.taken.forest.Sound :=
  (course.moves_taken sound).sound sound

theorem moves_converted :
    Moves settings {.edit .convertError} course.taken.forest course.converted.forest :=
  (Throwing.makes_convertErrorParameters settings).ok course.converts (course.sound_taken sound)

theorem sound_converted : course.converted.forest.Sound :=
  (course.moves_converted sound).sound (course.sound_taken sound)

theorem moves_hoisted :
    Moves settings hoistKinds course.converted.forest course.hoisted.forest :=
  (makes_hoistPasses settings rootClass header).ok (run_hoistPasses _ _ _ _)
    (course.sound_converted sound)

theorem sound_hoisted : course.hoisted.forest.Sound :=
  (course.moves_hoisted sound).sound (course.sound_converted sound)

theorem moves_placed : Moves settings handleKinds course.hoisted.forest course.placed.forest :=
  (makes_handlePasses settings).ok course.places (course.sound_hoisted sound)

theorem sound_placed : course.placed.forest.Sound :=
  (course.moves_placed sound).sound (course.sound_hoisted sound)

theorem moves_listened : Moves settings {.listen} course.placed.forest course.listened.forest :=
  Listeners.makes_extract settings header.typedefs course.placed (course.sound_placed sound)

theorem sound_listened : course.listened.forest.Sound :=
  (course.moves_listened sound).sound (course.sound_placed sound)

theorem moves_handled : Moves settings referKinds course.listened.forest course.handled.forest :=
  (makes_referPasses settings).ok course.handles (course.sound_listened sound)

theorem sound_handled : course.handled.forest.Sound :=
  (course.moves_handled sound).sound (course.sound_listened sound)

theorem moves_promoted :
    Moves settings promoteKinds course.handled.forest course.promoted.forest :=
  (Sizing.makes_resolveFilledBuffers settings).ok course.promotes (course.sound_handled sound)

theorem sound_promoted : course.promoted.forest.Sound :=
  (course.moves_promoted sound).sound (course.sound_handled sound)

theorem moves_sized : Moves settings sizeKinds course.promoted.forest course.sized.forest :=
  (makes_sizePasses settings).ok course.sizes (course.sound_promoted sound)

theorem sound_sized : course.sized.forest.Sound :=
  (course.moves_sized sound).sound (course.sound_promoted sound)

theorem moves_initialized :
    Moves settings {.takeInitializer} course.sized.forest course.initialized.forest :=
  Corrections.makes_extractInitializers settings course.sized (course.sound_sized sound)

theorem sound_initialized : course.initialized.forest.Sound :=
  (course.moves_initialized sound).sound (course.sound_sized sound)

theorem moves_final :
    Moves settings memberKinds course.initialized.forest final.forest :=
  (makes_memberPasses settings header).ok course.ends (course.sound_initialized sound)

include course in
theorem sound_final : final.forest.Sound :=
  (course.moves_final sound).sound (course.sound_initialized sound)

/-- Functions come in and are handed out to classes. -/
theorem moves_hoisted_of_start :
    Moves settings (takeKinds ∪ {.edit .convertError} ∪ hoistKinds) start.forest
      course.hoisted.forest := by
  apply Moves.trans ((course.moves_taken sound).mono _)
  apply Moves.trans ((course.moves_converted sound).mono _)
  apply (course.moves_hoisted sound).mono _
  · exact Set.subset_union_right
  · exact Set.subset_union_right.trans Set.subset_union_left
  · exact Set.subset_union_left.trans Set.subset_union_left

/-- Methods go down to number handles, and listeners get their callbacks. -/
theorem moves_listened_of_hoisted :
    Moves settings (handleKinds ∪ {.listen}) course.hoisted.forest course.listened.forest :=
  ((course.moves_placed sound).mono Set.subset_union_left).trans
    ((course.moves_listened sound).mono Set.subset_union_right)

/-- Buffers are sized, and initializers are found. -/
theorem moves_initialized_of_handled :
    Moves settings (promoteKinds ∪ sizeKinds ∪ {.takeInitializer}) course.handled.forest
      course.initialized.forest := by
  apply Moves.trans ((course.moves_promoted sound).mono _)
  apply Moves.trans ((course.moves_sized sound).mono _)
  apply (course.moves_initialized sound).mono _
  · exact Set.subset_union_right
  · exact Set.subset_union_right.trans Set.subset_union_left
  · exact Set.subset_union_left.trans Set.subset_union_left

/-- All that is done once the methods of every class are known. -/
theorem moves_final_of_listened :
    Moves settings
      (referKinds ∪ (promoteKinds ∪ sizeKinds ∪ {.takeInitializer}) ∪ memberKinds)
      course.listened.forest final.forest := by
  apply Moves.trans ((course.moves_handled sound).mono _)
  apply Moves.trans ((course.moves_initialized_of_handled sound).mono _)
  apply (course.moves_final sound).mono _
  · exact Set.subset_union_right
  · exact Set.subset_union_right.trans Set.subset_union_left
  · exact Set.subset_union_left.trans Set.subset_union_left

end Course

/-! ## Whole runs -/

/-- A run of which something is known finishes. -/
theorem exists_ok_of_told {ε α β : Type} {run : Except ε β} (tell : β → α) {told : α}
    (known : run.toOption.map tell = some told) :
    ∃ result, run = .ok result ∧ tell result = told := by
  cases run with
  | error stopped => cases known
  | ok result => exact ⟨result, rfl, Option.some.inj known⟩

/-- What is told of the error of a run that stops. -/
def stopTold {ε α β : Type} (tell : ε → α) (run : Except ε β) : Option α :=
  ((run.map fun _ => none).tryCatch fun stopped => .ok (some (tell stopped))).toOption.join

/-- A run of whose error something is known stops. -/
theorem exists_error_of_told {ε α β : Type} {run : Except ε β} (tell : ε → α) {told : α}
    (known : stopTold tell run = some told) :
    ∃ stopped, run = .error stopped ∧ tell stopped = told := by
  cases run with
  | error stopped => exact ⟨stopped, rfl, Option.some.inj known⟩
  | ok result => cases known

theorem exists_converted {α : Type} {declarations : DeclarationSet} (tell : Result → α) {told : α}
    (known : (convert settings declarations).toOption.map tell = some told) :
    ∃ result, convert settings declarations = .ok result ∧ tell result = told :=
  exists_ok_of_told tell known

theorem foldlM_processHeader {Invariant : List HeaderDeclarations → Draft → Prop}
    (step : ∀ {done header draft next rootClass},
      settings.rootClass? header.file = some rootClass → draft.forest.Sound →
      Invariant done draft → Pass.run (passes settings rootClass header) draft = .ok next →
      Invariant (done ++ [header]) next)
    {headers done : List HeaderDeclarations}
    (processed : headers.foldlM (processHeader settings) draft = .ok final)
    (sound : draft.forest.Sound) (start : Invariant done draft) :
    final.forest.Sound ∧ Invariant (done ++ headers) final := by
  induction headers generalizing draft done with
  | nil =>
      obtain rfl : draft = final := Except.ok.inj processed
      exact ⟨sound, by simpa using start⟩
  | cons header rest ih =>
      rw [List.foldlM_cons] at processed
      obtain ⟨next, result, later⟩ := exists_ok_of_bind processed
      rw [processHeader] at result
      split at result
      · rename_i rootClass isRoot
        obtain ⟨course, -⟩ := exists_course result
        have kept := step isRoot sound start result
        simpa using ih later (course.sound_final sound) kept
      · cases result

/-- What holds of the empty forest and is kept by every header holds in the end. -/
theorem convert_induction (Invariant : List HeaderDeclarations → Draft → Prop)
    (start : Invariant [] {})
    (step : ∀ {done header draft next rootClass},
      settings.rootClass? header.file = some rootClass → draft.forest.Sound →
      Invariant done draft → Pass.run (passes settings rootClass header) draft = .ok next →
      Invariant (done ++ [header]) next)
    {declarations : DeclarationSet} {result : Result}
    (converted : convert settings declarations = .ok result) :
    ∃ draft, result.draft.forest = draft.forest ∧
      result.document = draft.forest.document settings ∧ draft.forest.Sound ∧
      Invariant declarations.headers draft := by
  rw [convert] at converted
  cases fault : headerFault? settings declarations with
  | some fault =>
      rw [fault] at converted
      cases converted
  | none =>
      rw [fault] at converted
      obtain ⟨draft, processed, finished⟩ := exists_ok_of_bind converted
      obtain ⟨sound, invariant⟩ := foldlM_processHeader step processed Forest.sound_empty start
      rw [← Except.ok.inj finished]
      refine ⟨draft, ?_, rfl, sound, invariant⟩
      rw [noteViolations]
      dsimp only
      split <;> rfl

end Conversion

end Bindery
