import Bindery.Proofs.Guarded.Grouping
import Bindery.Proofs.Guarded.Members
import Bindery.Proofs.Guarded.Rendering
import Bindery.Proofs.Guarded.Sizing
import Bindery.Proofs.Later

/-!
# No access is out of bounds

Headers go into one forest, those that fail included, and every pass leaves the forest closed
wherever it ends.  So nothing that a later pass follows leads out of the forest, and the guarded
run of a header is the run itself.
-/

namespace Bindery

variable {settings : Settings} {draft : Draft} {rootClass : String} {header : HeaderDeclarations}

/-- Whether every id that a forest stores belongs to something in it, and no function is stored in
two slots or twice in one. -/
structure Forest.InBounds (forest : Forest) : Prop where
  free : ∀ id ∈ forest.free, id < forest.functionCount
  detached : ∀ entry ∈ forest.detached,
    entry.1 < forest.functionCount ∧ entry.2 < forest.hierarchy.size
  slots : ∀ c, ∀ entry ∈ (forest.classAt c).owners c,
    entry.1 < forest.functionCount ∧ c < forest.hierarchy.size
  accessors : ∀ function ∈ forest.functions, ∀ accessor ∈ function.sizers,
    accessor < forest.functionCount
  wrapped : ∀ content ∈ forest.classes, ∀ accessor ∈ content.sizers,
    accessor < forest.functionCount
  children : ∀ parent, ∀ c ∈ forest.hierarchy.children parent, c < forest.hierarchy.size
  once : (forest.owners.map (·.1)).Nodup

theorem Forest.Closed.inBounds {forest : Forest} (closed : forest.Closed) : forest.InBounds where
  free := fun _ isFree => closed.sound.lt_of_mem_free isFree
  detached := by
    rintro ⟨id, c⟩ isDetached
    have owned := mem_owners_of_detached isDetached
    exact ⟨closed.sound.lt_of_mem_owners owned, closed.sound.homes _ isDetached⟩
  slots := by
    rintro c ⟨id, slot⟩ owned
    have inForest := mem_owners_of_class owned
    exact ⟨closed.sound.lt_of_mem_owners inForest,
      closed.sound.home_lt inForest (Class.home?_of_mem_owners owned)⟩
  accessors := by
    intro function member
    obtain ⟨id, isThere⟩ := List.getElem?_of_mem member
    have same : forest.functionAt id = function := by rw [functionAt, isThere, Option.getD_some]
    exact same ▸ closed.pointed.function id
  wrapped := by
    intro content member
    obtain ⟨c, isThere⟩ := List.getElem?_of_mem member
    have same : forest.classAt c = content := by rw [classAt, isThere, Option.getD_some]
    exact same ▸ closed.pointed.wrapped c
  children := fun _ _ => Hierarchy.lt_size_of_mem_children
  once := by
    rw [← Multiset.coe_nodup, coe_owners]
    exact closed.sound.once

namespace Guarded

/-! ## Headers -/

def noteDone (header : HeaderDeclarations) (draft : Draft) : Guarded Draft := do
  let classes ← allClasses draft
  let enums := draft.forest.enums.length
  let exceptions := draft.forest.exceptions.length
  let count := classes.length
  return draft.note .info
    s!"`{header.file}` done: {count} classes, {enums} enums, {exceptions} exceptions"

def passes (settings : Settings) (rootClass : String) (header : HeaderDeclarations) :
    List (Draft → Guarded Draft) :=
  [ fun draft =>
      return draft.note .info s!"Processing `{header.file}` into root class `{rootClass}`",
    fun draft => return Conversion.takeEnums settings header.enums draft,
    fun draft => return Conversion.takeFunctions settings header.functions draft,
    convertErrorParameters settings,
    hoistAllocators header.structs settings,
    hoistStructFunctions header.structs settings,
    hoistLeftovers rootClass,
    stripRootPrefixes,
    settleHandles settings,
    extractListeners settings header.typedefs,
    convertLeftoverParameters settings,
    resolveReturns settings,
    resolveFilledBuffers settings,
    resolveSetters settings,
    resolveOverrides settings,
    pairParameters settings,
    resolveResiduals settings,
    retypeHandleReturns settings,
    extractInitializers settings,
    foldAccessors settings,
    dropSuccessReturns,
    foldStatics settings,
    foldForcedProperties settings,
    applyRenames settings,
    noteDone header ]

def run (passes : List (Draft → Guarded Draft)) (draft : Draft) : Guarded Draft :=
  passes.foldlM (fun draft pass => pass draft) draft

def processHeader (settings : Settings) (draft : Draft) (header : HeaderDeclarations) :
    Guarded Draft :=
  match settings.rootClass? header.file with
  | some rootClass => run (passes settings rootClass header) draft
  | none => throw <| .stopped { cause := .input (.unsupportedHeader header.file), draft }

/-- Whether a guarded pass does what the pass does, as long as the forest is closed. -/
def Mirrors (guarded : Draft → Guarded Draft) (pass : Pass) : Prop :=
  ∀ draft : Draft, draft.forest.Closed → guarded draft = follow (pass draft)

theorem noteDone_eq (draft : Draft) :
    noteDone header draft = .ok (Conversion.noteDone header draft) := by
  rw [noteDone, allClasses_eq]
  rfl

theorem forall₂_mirrors :
    List.Forall₂ Mirrors (passes settings rootClass header)
      (Conversion.passes settings rootClass header) := by
  refine .cons (fun _ _ => rfl) <| .cons (fun _ _ => rfl) <| .cons (fun _ _ => rfl) <|
    .cons ?_ <| .cons ?_ <| .cons ?_ <| .cons ?_ <| .cons ?_ <| .cons ?_ <| .cons ?_ <| .cons ?_ <|
    .cons ?_ <| .cons ?_ <| .cons ?_ <| .cons ?_ <| .cons ?_ <| .cons ?_ <| .cons ?_ <| .cons ?_ <|
    .cons ?_ <| .cons ?_ <| .cons ?_ <| .cons ?_ <| .cons ?_ <| .cons ?_ .nil
  · exact fun _ closed => convertErrorParameters_eq closed.sound
  · exact fun _ closed => hoistAllocators_eq closed.sound
  · exact fun _ closed => hoistStructFunctions_eq closed.sound
  · exact fun _ closed => hoistLeftovers_eq rootClass closed.sound
  · exact fun _ closed => stripRootPrefixes_eq closed.sound
  · exact fun _ closed => settleHandles_eq closed.sound
  · exact fun _ _ => extractListeners_eq header.typedefs _
  · exact fun _ closed => convertLeftoverParameters_eq closed.sound
  · exact fun _ closed => resolveReturns_eq closed.sound
  · exact fun _ closed => resolveFilledBuffers_eq closed.sound
  · exact fun _ closed => resolveSetters_eq closed.sound
  · exact fun _ closed => resolveOverrides_eq closed.sound
  · exact fun _ closed => pairParameters_eq closed.sound
  · exact fun _ closed => resolveResiduals_eq closed.sound
  · exact fun _ closed => retypeHandleReturns_eq closed.sound
  · exact fun _ closed => extractInitializers_eq closed.sound
  · exact fun _ closed => foldAccessors_eq closed.sound
  · exact fun _ closed => dropSuccessReturns_eq closed.sound
  · exact fun _ closed => foldStatics_eq closed.sound
  · exact fun _ closed => foldForcedProperties_eq closed.sound
  · exact fun _ closed => applyRenames_eq closed.sound
  · exact fun draft _ => noteDone_eq draft

theorem run_eq {guarded : List (Draft → Guarded Draft)} {passes : List Pass}
    (mirrors : List.Forall₂ Mirrors guarded passes) (closes : ∀ pass ∈ passes, pass.Closes)
    (closed : draft.forest.Closed) : run guarded draft = follow (Pass.run passes draft) := by
  induction mirrors generalizing draft with
  | nil => rfl
  | @cons visit pass _ _ first _ ih =>
      have next := closes pass List.mem_cons_self draft closed
      rw [run, List.foldlM_cons, first draft closed, Pass.run_cons, follow_bind]
      cases result : pass draft with
      | error stopped => rfl
      | ok middle =>
          rw [result] at next
          exact ih (fun pass member => closes pass (List.mem_cons_of_mem _ member)) next

theorem processHeader_eq (header : HeaderDeclarations) (closed : draft.forest.Closed) :
    processHeader settings draft header =
      follow (Conversion.processHeader settings draft header) := by
  rw [processHeader, Conversion.processHeader]
  cases settings.rootClass? header.file with
  | none => rfl
  | some rootClass => exact run_eq forall₂_mirrors Conversion.closes_of_mem_passes closed

end Guarded

namespace Conversion

/-- What every pass keeps, wherever it ends, is kept wherever headers end. -/
theorem kept_goOn {Invariant : Forest → Prop}
    (keeps : ∀ {rootClass : String} {header : HeaderDeclarations},
      ∀ pass ∈ passes settings rootClass header, ∀ draft : Draft, Invariant draft.forest →
        Invariant (reached (pass draft)).forest)
    (headers : List HeaderDeclarations) (holds : Invariant draft.forest) :
    Invariant (goOn settings headers draft).forest := by
  induction headers generalizing draft with
  | nil => exact holds
  | cons header rest ih =>
      apply ih
      change Invariant (reached (processHeader settings draft header)).forest
      rw [processHeader]
      cases settings.rootClass? header.file with
      | none => exact holds
      | some rootClass => exact Pass.kept_run keeps holds

theorem closed_goOn (headers : List HeaderDeclarations) (closed : draft.forest.Closed) :
    (goOn settings headers draft).forest.Closed :=
  kept_goOn closes_of_mem_passes headers closed

/-- The draft between two passes: some headers are done with, whether they failed or not, and some
passes of the next one have run, as far as they came. -/
def between (settings : Settings) (headers : List HeaderDeclarations) (rootClass : String)
    (header : HeaderDeclarations) (count : Nat) : Draft :=
  reached (Pass.run ((passes settings rootClass header).take count) (goOn settings headers {}))

theorem kept_between {Invariant : Forest → Prop}
    (keeps : ∀ {rootClass : String} {header : HeaderDeclarations},
      ∀ pass ∈ passes settings rootClass header, ∀ draft : Draft, Invariant draft.forest →
        Invariant (reached (pass draft)).forest)
    (start : Invariant Forest.empty) (headers : List HeaderDeclarations) (count : Nat) :
    Invariant (between settings headers rootClass header count).forest :=
  Pass.kept_run (fun pass member => keeps pass (List.mem_of_mem_take member))
    (kept_goOn keeps headers start)

theorem closed_between (headers : List HeaderDeclarations) (count : Nat) :
    (between settings headers rootClass header count).forest.Closed :=
  kept_between closes_of_mem_passes Forest.closed_empty headers count

/-- Between any two passes all ids are in bounds, and so is every access of the reports on such a
draft, and of the passes for a header after any others. -/
theorem inBounds_between (settings : Settings) (headers : List HeaderDeclarations)
    (rootClass : String) (header : HeaderDeclarations) (count : Nat) :
    (between settings headers rootClass header count).forest.InBounds ∧
      Guarded.ownershipViolations (between settings headers rootClass header count) =
        .ok (between settings headers rootClass header count).forest.ownershipViolations ∧
      Guarded.document settings (between settings headers rootClass header count) =
        .ok ((between settings headers rootClass header count).forest.document settings) ∧
      Guarded.processHeader settings (goOn settings headers {}) header =
        Guarded.follow (processHeader settings (goOn settings headers {}) header) := by
  have closed : (between settings headers rootClass header count).forest.Closed :=
    closed_between headers count
  exact ⟨closed.inBounds, Guarded.ownershipViolations_eq closed.sound, Guarded.document_eq closed,
    Guarded.processHeader_eq header (closed_goOn headers Forest.closed_empty)⟩

end Conversion

end Bindery
