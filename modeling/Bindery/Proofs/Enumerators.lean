import Bindery.Intake
import Bindery.Settings.Defaults
import Mathlib.Data.List.Nodup

/-!
# The names of enum values

The values of an enum keep their order, C names and ordinals, and their names lose what the enum's
name makes of them.  A value without that prefix keeps its name whole, and so does one that is
nothing but the prefix; only such a value can come to the name of another one.
-/

namespace Bindery

namespace Text

theorem dropPrefix?_eq_some_iff {text pattern rest : String} :
    dropPrefix? text pattern = some rest ↔ text = pattern ++ rest := by
  rw [dropPrefix?, Option.map_eq_some_iff]
  constructor
  · rintro ⟨chars, found, rfl⟩
    rw [← String.toList_inj, Chars.dropPrefix?_eq_some found, String.toList_append,
      String.toList_ofList]
  · rintro rfl
    refine ⟨rest.toList, ?_, String.ofList_toList⟩
    simp [Chars.dropPrefix?, String.toList_append]

end Text

namespace EnumDeclaration

variable {declaration : EnumDeclaration} {names : List String} {name other bare : String}

theorem valuePrefix_ne_empty (declaration : EnumDeclaration) : declaration.valuePrefix ≠ "" := by
  simp [valuePrefix]

/-- No text is longer than itself by the prefix. -/
theorem valuePrefix_append_ne (declaration : EnumDeclaration) (name : String) :
    declaration.valuePrefix ++ name ≠ name := by
  simpa using declaration.valuePrefix_ne_empty

theorem bareName_append (remains : bare ≠ "") :
    declaration.bareName (declaration.valuePrefix ++ bare) = bare := by
  rw [bareName, Text.dropPrefix?_eq_some_iff.2 rfl]
  simp [remains]

/-- A name loses the prefix if something is left of it, and otherwise stays. -/
theorem bareName_cases (declaration : EnumDeclaration) (name : String) :
    name = declaration.valuePrefix ++ declaration.bareName name ∧ declaration.bareName name ≠ "" ∨
      declaration.bareName name = name := by
  rw [bareName]
  split
  · rename_i bare found
    have spelled := Text.dropPrefix?_eq_some_iff.1 found
    by_cases isEmpty : bare = ""
    · simp [isEmpty]
    · simpa [isEmpty] using .inl spelled
  · exact .inr rfl

theorem bareName_ne_empty (named : name ≠ "") : declaration.bareName name ≠ "" := by
  rcases declaration.bareName_cases name with ⟨-, remains⟩ | same
  · exact remains
  · rwa [same]

theorem endsWith_bareName (declaration : EnumDeclaration) (name : String) :
    Text.endsWith name (declaration.bareName name) = true := by
  rw [Text.endsWith_iff]
  rcases declaration.bareName_cases name with ⟨spelled, -⟩ | same
  · refine ⟨declaration.valuePrefix.toList, ?_⟩
    rw [← String.toList_append, ← spelled]
  · exact same.symm ▸ List.suffix_rfl

/-- Two names come to the same exactly if one of them is kept and the other is that name with the
prefix in front. -/
theorem nodup_map_bareName_iff (distinct : names.Nodup) (named : ∀ name ∈ names, name ≠ "") :
    (names.map declaration.bareName).Nodup ↔
      ∀ name ∈ names, declaration.bareName name = name →
        declaration.valuePrefix ++ name ∉ names := by
  rw [List.nodup_map_iff_inj_on distinct]
  constructor
  · intro injective name member kept prefixed
    have same : declaration.bareName (declaration.valuePrefix ++ name) =
        declaration.bareName name := by
      rw [bareName_append (named name member), kept]
    exact declaration.valuePrefix_append_ne name (injective _ prefixed _ member same)
  · intro apart name member other otherMember same
    rcases declaration.bareName_cases name with ⟨spelled, -⟩ | kept <;>
      rcases declaration.bareName_cases other with ⟨otherSpelled, -⟩ | otherKept
    · rw [spelled, same, ← otherSpelled]
    · rw [same, otherKept] at spelled
      exact absurd (spelled ▸ member) (apart other otherMember otherKept)
    · rw [← same, kept] at otherSpelled
      exact absurd (otherSpelled ▸ otherMember) (apart name member kept)
    · rw [← kept, same, otherKept]

/-! ## The values of an enum -/

theorem forall_mem_values_intake {p : Enumerator → Prop} :
    (∀ value ∈ declaration.intake.values, p value) ↔
      ∀ value ∈ declaration.values,
        p { name := declaration.bareName value.name, cname := value.name,
            ordinal := value.ordinal } :=
  List.forall_mem_map

theorem map_name_intake (declaration : EnumDeclaration) :
    declaration.intake.values.map (·.name) =
      (declaration.values.map (·.name)).map declaration.bareName := by
  simp [intake, Function.comp_def]

/-- The values of an enum that is not skipped are those declared, in order, with their C names and
ordinals, and each goes by a name that its C name ends with.  Their names are distinct exactly if no
value that keeps its whole name has another value of that name with the prefix in front. -/
theorem nodup_values_enums (settings : Settings) (declaration : EnumDeclaration)
    (kept : declaration.isSkipped settings = false)
    (named : ∀ value ∈ declaration.values, value.name ≠ "")
    (distinct : (declaration.values.map (·.name)).Nodup) :
    ∃ enumeration, Intake.enums settings [declaration] = [enumeration] ∧
      enumeration.values.map (fun value => (value.cname, value.ordinal)) =
        declaration.values.map (fun value => (value.name, value.ordinal)) ∧
      (∀ value ∈ enumeration.values,
        value.name ≠ "" ∧ Text.endsWith value.cname value.name = true) ∧
      ((enumeration.values.map (·.name)).Nodup ↔
        ∀ whole ∈ enumeration.values, whole.name = whole.cname →
          ∀ value ∈ enumeration.values, value.cname ≠ declaration.valuePrefix ++ whole.cname) := by
  refine ⟨declaration.intake, ?_, ?_, ?_, ?_⟩
  · simp [Intake.enums, kept]
  · simp [intake, Function.comp_def]
  · simp only [forall_mem_values_intake]
    intro value member
    have remains : declaration.bareName value.name ≠ "" := bareName_ne_empty (named value member)
    exact ⟨remains, endsWith_bareName declaration value.name⟩
  · rw [map_name_intake, nodup_map_bareName_iff distinct (List.forall_mem_map.2 named)]
    simp only [forall_mem_values_intake, List.mem_map, not_exists, not_and, ne_eq,
      forall_exists_index, and_imp, forall_apply_eq_imp_iff₂]

/-- An enum of the kinds of something, with values of the names. -/
def kindsNamed (values : List EnumeratorDeclaration) : EnumDeclaration where
  name := "Tox_Kind"
  values

/-- The customary values lose the prefix, one that is nothing but the prefix does not, and they stay
distinct. -/
theorem nodup_names_toxKind :
    let values := [⟨"TOX_KIND_DATA", 0⟩, ⟨"TOX_KIND_", 1⟩, ⟨"AVATAR", 2⟩]
    (kindsNamed values).isSkipped Settings.default = false ∧
      (∀ value ∈ values, value.name ≠ "") ∧ (values.map (·.name)).Nodup ∧
      ∃ enumeration, Intake.enums Settings.default [kindsNamed values] = [enumeration] ∧
        (enumeration.values.map (·.name)).Nodup := by
  intro values
  have kept : (kindsNamed values).isSkipped Settings.default = false := by decide
  have named : ∀ value ∈ values, value.name ≠ "" := by decide
  have distinct : (values.map (·.name)).Nodup := by decide
  obtain ⟨enumeration, taken, -, -, distinct_iff⟩ :=
    nodup_values_enums Settings.default (kindsNamed values) kept named distinct
  refine ⟨kept, named, distinct, enumeration, taken, distinct_iff.2 ?_⟩
  obtain rfl : (kindsNamed values).intake = enumeration := by simpa [Intake.enums, kept] using taken
  decide +kernel

/-- One value loses the prefix and comes to the name that another one has without it. -/
theorem not_nodup_names_toxKind :
    let values := [⟨"TOX_KIND_DATA", 0⟩, ⟨"DATA", 1⟩]
    (kindsNamed values).isSkipped Settings.default = false ∧
      (∀ value ∈ values, value.name ≠ "") ∧ (values.map (·.name)).Nodup ∧
      Intake.enums Settings.default [kindsNamed values] = [(kindsNamed values).intake] ∧
      ¬((kindsNamed values).intake.values.map (·.name)).Nodup := by
  decide +kernel

end EnumDeclaration

end Bindery
