import Bindery.Loading
import Bindery.Proofs.Json.Omission
import Bindery.Settings.Json

/-!
# Settings with members left out

Settings that are written as JSON without some of their members are loaded with the defaults in
their place.  A table or list is there as a whole or it is the default one.
-/

namespace Bindery

open Json

variable {selection : Selection}

namespace Table

variable {α β : Type} {encode : α → Json} {read : Json → Option β} {change : String → α → β}

theorem insertEntry_of_greater {key : String} {value : α} {entries : List (String × α)}
    (greater : ∀ entry ∈ entries, entry.1 < key) :
    insertEntry key value entries = entries ++ [(key, value)] := by
  induction entries with
  | nil => rfl
  | cons entry entries ih =>
      obtain ⟨before, others⟩ := List.forall_mem_cons.1 greater
      have notAfter : ¬key < entry.1 := String.lt_asymm before
      have notSame : key ≠ entry.1 := fun same => String.lt_irrefl _ (same ▸ before)
      rw [insertEntry, if_neg notAfter, if_neg notSame, ih others, List.cons_append]

/-- Bindings that come in order after all of the table are appended to it. -/
theorem entries_foldl_insert {bindings : List (String × α)} {table : Table α}
    (sorted : (table.entries ++ bindings).Pairwise (fun left right => left.1 < right.1)) :
    (bindings.foldl (fun table (key, value) => table.insert key value) table).entries =
      table.entries ++ bindings := by
  induction bindings generalizing table with
  | nil => simp
  | cons binding bindings ih =>
      have greater : ∀ entry ∈ table.entries, entry.1 < binding.1 := fun entry member =>
        (List.pairwise_append.1 sorted).2.2 entry member binding List.mem_cons_self
      have appended : (table.insert binding.1 binding.2).entries = table.entries ++ [binding] :=
        insertEntry_of_greater greater
      rw [List.foldl_cons, ih (by simpa [appended] using sorted), appended, List.append_assoc,
        List.singleton_append]

theorem ofList_entries (table : Table α) : ofList table.entries = table :=
  ext ((entries_foldl_insert table.sorted).trans (List.nil_append _))

/-- The table with each value changed in its place. -/
def mapEntries (change : String → α → β) (table : Table α) : Table β where
  entries := table.entries.map fun (key, value) => (key, change key value)
  sorted := List.pairwise_map.2 table.sorted

theorem mapEntries_self (table : Table α) : table.mapEntries (fun _ value => value) = table :=
  ext (List.map_id _)

theorem mapM_entries {content : String → α → Json} (entries : List (String × α))
    (reads : ∀ key value, read (content key value) = some (change key value)) :
    (entries.map fun (key, value) => (key, content key value)).mapM
        (fun (key, value) => (read value).map (key, ·)) =
      some (entries.map fun (key, value) => (key, change key value)) := by
  induction entries with
  | nil => rfl
  | cons entry entries ih => simp [List.mapM_cons, reads, ih]

theorem readable_toJson (each : ∀ value, (encode value).Readable) (table : Table α) :
    (table.toJson encode).Readable :=
  readable_record fun _ member => by
    obtain ⟨entry, -, rfl⟩ := List.mem_map.1 member
    exact each entry.2

/-- A table is read entry by entry, provided no entry is selected. -/
theorem read?_prune (table : Table α) (unselected : ∀ name, selection [.member name] = false)
    (reads : ∀ name value,
      read ((encode value).prune (selection.below (.member name))) = some (change name value)) :
    read? read ((table.toJson encode).prune selection) = some (table.mapEntries change) := by
  have kept : selection.kept (table.entries.map fun (key, value) => (key, encode value)) =
      table.entries.map fun (key, value) =>
        (key, (encode value).prune (selection.below (.member key))) := by
    simp [Selection.kept, unselected]
  rw [read?, toJson, prune_record, kept]
  change (entriesOf? _ >>= _) = _
  rw [entriesOf?_record, Option.bind_eq_bind, Option.bind_some, mapM_entries table.entries reads]
  exact congrArg some (ofList_entries (table.mapEntries change))

theorem read?_prune_texts (table : Table String)
    (unselected : ∀ name, selection [.member name] = false) :
    read? Written.text? ((table.toJson ofString).prune selection) = some table := by
  rw [table.read?_prune unselected fun _ content => text?_prune content, mapEntries_self]

end Table

namespace Markers

/-- The markers with the default in the place of each selected member. -/
def without (selection : Selection) (markers : Markers) : Markers where
  getter := selection.pick "getter" default.getter markers.getter
  setter := selection.pick "setter" default.setter markers.setter
  allocator := selection.pick "allocator" default.allocator markers.allocator
  deallocators := selection.pick "deallocators" default.deallocators markers.deallocators
  numberHandle := selection.pick "number_handle" default.numberHandle markers.numberHandle
  callbackSuffix := selection.pick "callback_suffix" default.callbackSuffix markers.callbackSuffix
  errorParameter := selection.pick "error_param" default.errorParameter markers.errorParameter
  sizeSuffixes := selection.pick "size_suffixes" default.sizeSuffixes markers.sizeSuffixes
  length := selection.pick "length" default.length markers.length
  event := selection.pick "event" default.event markers.event
  text := selection.pick "text" default.text markers.text

theorem read?_prune (markers : Markers) :
    read? (markers.toJson.prune selection) = some (markers.without selection) := by
  refine record_reads rfl (by decide) ?_
  refine withDefault_reads rfl (text?_prune markers.getter) ?_
  refine withDefault_reads rfl (text?_prune markers.setter) ?_
  refine withDefault_reads rfl (text?_prune markers.allocator) ?_
  refine withDefault_reads rfl (texts?_prune markers.deallocators) ?_
  refine withDefault_reads rfl (text?_prune markers.numberHandle) ?_
  refine withDefault_reads rfl (text?_prune markers.callbackSuffix) ?_
  refine withDefault_reads rfl (text?_prune markers.errorParameter) ?_
  refine withDefault_reads rfl (texts?_prune markers.sizeSuffixes) ?_
  refine withDefault_reads rfl (text?_prune markers.length) ?_
  refine withDefault_reads rfl (text?_prune markers.event) ?_
  refine withDefault_reads rfl (texts?_prune markers.text) ?_
  rfl

theorem without_nothing (markers : Markers) (nothing : ∀ path, selection path = false) :
    markers.without selection = markers := by
  simp [without, Selection.pick, nothing]

theorem readable_toJson (markers : Markers) : markers.toJson.Readable :=
  readable_record (by simp [readable_ofString, readable_ofList readable_ofString])

end Markers

namespace SlotNames

def without (selection : Selection) (names : SlotNames) : SlotNames where
  allocator := selection.pick "allocator" default.allocator names.allocator
  deallocator := selection.pick "deallocator" default.deallocator names.deallocator
  getter := selection.pick "getter" default.getter names.getter
  setter := selection.pick "setter" default.setter names.setter
  callback := selection.pick "callback" default.callback names.callback

theorem read?_prune (names : SlotNames) :
    read? (names.toJson.prune selection) = some (names.without selection) := by
  refine record_reads rfl (by decide) ?_
  refine withDefault_reads rfl (text?_prune names.allocator) ?_
  refine withDefault_reads rfl (text?_prune names.deallocator) ?_
  refine withDefault_reads rfl (text?_prune names.getter) ?_
  refine withDefault_reads rfl (text?_prune names.setter) ?_
  refine withDefault_reads rfl (text?_prune names.callback) ?_
  rfl

theorem without_nothing (names : SlotNames) (nothing : ∀ path, selection path = false) :
    names.without selection = names := by
  simp [without, Selection.pick, nothing]

theorem readable_toJson (names : SlotNames) : names.toJson.Readable :=
  readable_record (by simp [readable_ofString])

end SlotNames

namespace MethodKeyword

theorem read?_prune {entry : MethodKeyword}
    (unselected : ∀ name, selection [.member name] = false) :
    read? (entry.toJson.prune selection) = some entry := by
  refine record_reads rfl (by decide) ?_
  refine required_reads rfl (unselected _) (text?_prune entry.className) ?_
  refine required_reads rfl (unselected _) (text?_prune entry.method) ?_
  refine required_reads rfl (unselected _) (text?_prune entry.keyword) ?_
  rfl

theorem readable_toJson (entry : MethodKeyword) : entry.toJson.Readable :=
  readable_record (by simp [readable_ofString])

end MethodKeyword

namespace KeywordOverrides

def without (selection : Selection) (overrides : KeywordOverrides) : KeywordOverrides where
  returns := selection.pick "returns" default.returns overrides.returns
  returnMethods := selection.pick "return_methods" default.returnMethods overrides.returnMethods
  getters := selection.pick "getters" default.getters overrides.getters
  getterFunctions :=
    selection.pick "getter_functions" default.getterFunctions overrides.getterFunctions
  setters := selection.pick "setters" default.setters overrides.setters
  parameters := selection.pick "parameters" default.parameters overrides.parameters

theorem read?_prune (overrides : KeywordOverrides) (shallow : selection.Shallow) :
    read? (overrides.toJson.prune selection) = some (overrides.without selection) := by
  refine record_reads rfl (by decide) ?_
  refine withDefault_reads rfl (overrides.returns.read?_prune_texts fun _ => shallow _ _ _) ?_
  refine withDefault_reads rfl (list?_prune_self fun _ _ _ =>
    MethodKeyword.read?_prune fun _ => shallow _ _ _) ?_
  refine withDefault_reads rfl (overrides.getters.read?_prune_texts fun _ => shallow _ _ _) ?_
  refine withDefault_reads rfl
    (overrides.getterFunctions.read?_prune_texts fun _ => shallow _ _ _) ?_
  refine withDefault_reads rfl (overrides.setters.read?_prune_texts fun _ => shallow _ _ _) ?_
  refine withDefault_reads rfl (overrides.parameters.read?_prune_texts fun _ => shallow _ _ _) ?_
  rfl

theorem without_nothing (overrides : KeywordOverrides) (nothing : ∀ path, selection path = false) :
    overrides.without selection = overrides := by
  simp [without, Selection.pick, nothing]

theorem readable_toJson (overrides : KeywordOverrides) : overrides.toJson.Readable :=
  readable_record (by simp [Table.readable_toJson readable_ofString,
    readable_ofList MethodKeyword.readable_toJson])

end KeywordOverrides

namespace HandleExemption

def without (selection : Selection) (exemption : HandleExemption) : HandleExemption where
  function := exemption.function
  className := selection.pick "class" none exemption.className

theorem read?_prune {exemption : HandleExemption}
    (unselected : selection [.member "function"] = false) :
    read? (exemption.toJson.prune selection) = some (exemption.without selection) := by
  refine record_reads rfl (by decide) ?_
  refine required_reads rfl unselected (text?_prune exemption.function) ?_
  refine withDefault_reads rfl (option?_prune exemption.className) ?_
  rfl

theorem without_nothing (exemption : HandleExemption) (nothing : ∀ path, selection path = false) :
    exemption.without selection = exemption := by
  simp [without, Selection.pick, nothing]

theorem readable_toJson (exemption : HandleExemption) : exemption.toJson.Readable :=
  readable_record (by simp [readable_ofString, readable_ofOption readable_ofString])

end HandleExemption

namespace Renaming

def without (selection : Selection) (names : Renaming) : Renaming where
  properties := selection.pick "properties" default.properties names.properties
  functions := selection.pick "functions" default.functions names.functions

theorem read?_prune (names : Renaming) (shallow : selection.Shallow) :
    read? (names.toJson.prune selection) = some (names.without selection) := by
  refine record_reads rfl (by decide) ?_
  refine withDefault_reads rfl (names.properties.read?_prune_texts fun _ => shallow _ _ _) ?_
  refine withDefault_reads rfl (names.functions.read?_prune_texts fun _ => shallow _ _ _) ?_
  rfl

theorem without_nothing (names : Renaming) (nothing : ∀ path, selection path = false) :
    names.without selection = names := by
  simp [without, Selection.pick, nothing]

theorem readable_toJson (names : Renaming) : names.toJson.Readable :=
  readable_record (by simp [Table.readable_toJson readable_ofString])

end Renaming

namespace Settings

/-- Each member by itself. -/
def everyMember : Path → Bool
  | [.member _] => true
  | _ => false

/-- The members that may be left out: those of the settings, of three of their parts and of each
renaming, and the class of an exemption. -/
def isOptional : Path → Bool
  | [.member _] => true
  | .member "markers" :: path => everyMember path
  | .member "canonical" :: path => everyMember path
  | .member "keywords" :: path => everyMember path
  | .member "renames" :: .member _ :: path => everyMember path
  | [.member "number_handle_exemptions", .item _, .member "class"] => true
  | _ => false

/-- The settings with the default in the place of each selected member. -/
def without (selection : Selection) (settings : Settings) : Settings where
  irVersion := selection.pick "ir_version" default.irVersion settings.irVersion
  libraryVersion := selection.pick "library_version" default.libraryVersion settings.libraryVersion
  headers := selection.pick "headers" default.headers settings.headers
  markers :=
    selection.pick "markers" default.markers
      (settings.markers.without (selection.below (.member "markers")))
  canonical :=
    selection.pick "canonical" default.canonical
      (settings.canonical.without (selection.below (.member "canonical")))
  errorEnumPrefix :=
    selection.pick "error_enum_prefix" default.errorEnumPrefix settings.errorEnumPrefix
  exceptionPrefix :=
    selection.pick "exception_prefix" default.exceptionPrefix settings.exceptionPrefix
  excludedFunctionMarkers :=
    selection.pick "excluded_function_markers" default.excludedFunctionMarkers
      settings.excludedFunctionMarkers
  skippedEnums := selection.pick "skipped_enums" default.skippedEnums settings.skippedEnums
  eventReturnExclusions :=
    selection.pick "event_return_exclusions" default.eventReturnExclusions
      settings.eventReturnExclusions
  numberHandleExemptions :=
    selection.pick "number_handle_exemptions" default.numberHandleExemptions
      (settings.numberHandleExemptions.mapIdx fun index exemption => exemption.without
        ((selection.below (.member "number_handle_exemptions")).below (.item index)))
  keywords :=
    selection.pick "keywords" default.keywords
      (settings.keywords.without (selection.below (.member "keywords")))
  numberHandleReturns :=
    selection.pick "number_handle_returns" default.numberHandleReturns settings.numberHandleReturns
  defaultInitializers :=
    selection.pick "default_initializers" default.defaultInitializers settings.defaultInitializers
  forcedProperties :=
    selection.pick "forced_properties" default.forcedProperties settings.forcedProperties
  renames :=
    selection.pick "renames" default.renames
      (settings.renames.mapEntries fun name names =>
        names.without ((selection.below (.member "renames")).below (.member name)))

theorem read?_prune (settings : Settings) (within : selection.Within isOptional) :
    read? (settings.toJson.prune selection) = some (settings.without selection) := by
  have table {name : String} (entries : Table String)
      (required : ∀ entry, isOptional [.member name, .member entry] = false) :
      Table.read? Written.text?
        ((entries.toJson ofString).prune (selection.below (.member name))) = some entries :=
    entries.read?_prune_texts fun entry => within.unselected (required entry)
  refine record_reads rfl (by decide) ?_
  refine withDefault_reads rfl (text?_prune settings.irVersion) ?_
  refine withDefault_reads rfl (text?_prune settings.libraryVersion) ?_
  refine withDefault_reads rfl (table settings.headers fun _ => rfl) ?_
  refine withDefault_reads rfl (settings.markers.read?_prune) ?_
  refine withDefault_reads rfl (settings.canonical.read?_prune) ?_
  refine withDefault_reads rfl (text?_prune settings.errorEnumPrefix) ?_
  refine withDefault_reads rfl (text?_prune settings.exceptionPrefix) ?_
  refine withDefault_reads rfl (texts?_prune settings.excludedFunctionMarkers) ?_
  refine withDefault_reads rfl (texts?_prune settings.skippedEnums) ?_
  refine withDefault_reads rfl (texts?_prune settings.eventReturnExclusions) ?_
  refine withDefault_reads rfl (list?_prune fun _ _ _ =>
    HandleExemption.read?_prune (within.unselected rfl)) ?_
  refine withDefault_reads rfl (settings.keywords.read?_prune fun _ _ _ => within.unselected rfl) ?_
  refine withDefault_reads rfl (table settings.numberHandleReturns fun _ => rfl) ?_
  refine withDefault_reads rfl (table settings.defaultInitializers fun _ => rfl) ?_
  refine withDefault_reads rfl (texts?_prune settings.forcedProperties) ?_
  refine withDefault_reads rfl (settings.renames.read?_prune (fun _ => within.unselected rfl)
    fun _ names => names.read?_prune fun _ _ _ => within.unselected rfl) ?_
  rfl

theorem readable_toJson (settings : Settings) : settings.toJson.Readable :=
  readable_record (by
    simp [readable_ofString, readable_ofList readable_ofString,
      Table.readable_toJson readable_ofString, settings.markers.readable_toJson,
      settings.canonical.readable_toJson, settings.keywords.readable_toJson,
      readable_ofList HandleExemption.readable_toJson,
      Table.readable_toJson Renaming.readable_toJson])

theorem without_nothing (settings : Settings) (nothing : ∀ path, selection path = false) :
    settings.without selection = settings := by
  have below (step : PathStep) : ∀ path, selection.below step path = false :=
    fun path => nothing (step :: path)
  have twice (step inner : PathStep) : ∀ path, (selection.below step).below inner path = false :=
    fun path => nothing (step :: inner :: path)
  have exemptions : (settings.numberHandleExemptions.mapIdx fun index exemption =>
      exemption.without ((selection.below (.member "number_handle_exemptions")).below
        (.item index))) = settings.numberHandleExemptions :=
    List.ext_getElem? fun i => by simp [HandleExemption.without_nothing _ (twice _ _)]
  have renames : (settings.renames.mapEntries fun name names =>
      names.without ((selection.below (.member "renames")).below (.member name))) =
        settings.renames := by
    simp only [Renaming.without_nothing _ (twice _ _)]
    exact settings.renames.mapEntries_self
  simp only [without, Selection.pick, nothing, exemptions, renames, Bool.false_eq_true, if_false,
    settings.markers.without_nothing (below _), settings.canonical.without_nothing (below _),
    settings.keywords.without_nothing (below _)]

/-- Settings are loaded from their text with the default in the place of each member that is left
out of it, and with nothing left out as they were. -/
theorem ofText_without (settings : Settings) (selection : Selection) {text : String}
    (within : selection.Within isOptional)
    (written : text = compact (settings.toJson.prune selection) ∨
      text = pretty (settings.toJson.prune selection)) :
    ofText .json text = .ok (settings.without selection) ∧
      ((∀ path, selection path = false) → ofText .json text = .ok settings) := by
  have readable := settings.readable_toJson.prune selection
  have parsed := ofText?_of_written readable written
  have reads := settings.read?_prune within
  have loads : ofText .json text = .ok (settings.without selection) := by
    simp only [ofText, readText?, parsed, Option.bind_eq_bind, Option.bind_some, reads]
  exact ⟨loads, fun nothing => loads.trans (by rw [settings.without_nothing nothing])⟩

/-- A text that names one table of keywords and one renaming.  What the settings had in other
members is gone, and so are the default setters and the default renamings. -/
theorem ofText_without_otherTables :
    ofText .json (compact (record [
      ("keywords", record [("setters", record [])]),
      ("renames", record [("Tox", record [("functions", record [])])])])) =
      .ok { default with
        keywords := { KeywordOverrides.default with setters := .empty }
        renames := .ofList [("Tox", { properties := .empty, functions := .empty })] } := by
  let named : List Path := [
    [.member "keywords"], [.member "keywords", .member "setters"],
    [.member "renames"], [.member "renames", .member "Tox", .member "functions"]]
  let settings : Settings := { default with
    irVersion := "1"
    keywords := { KeywordOverrides.default with getters := .empty, setters := .empty }
    renames := .ofList [("Tox", {
      properties := .ofList [("id", "key")]
      functions := .empty })] }
  have within : Selection.Within (fun path => isOptional path && !named.contains path) isOptional :=
    fun path selected => (Bool.and_eq_true_iff.1 selected).1
  rw [(ofText_without settings _ within (.inl (congrArg compact (by rfl)))).1]
  rfl

end Settings

end Bindery
