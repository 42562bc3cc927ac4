import Bindery.Proofs.ErrorParameters
import Bindery.Proofs.Later
import Bindery.Proofs.Settling

/-!
# The two names of an enum

An enum is taken in under its name without the underscores, and a type that is spelled like it
refers to the name with its words capitalized.  Exceptions are found by comparing the two, so they
have to agree, which they do unless a word starts with a character that has another capital.
-/

namespace Bindery

variable {settings : Settings} {draft : Draft} {header : HeaderDeclarations} {stopped : Stopped}

/-! ## Capital letters -/

namespace Text

theorem uppercaseExpansions_ne_nil : ∀ entry ∈ uppercaseExpansions, entry.2 ≠ [] := by
  decide

/-- No character vanishes in capitals. -/
theorem length_upper_pos (c : Char) : 0 < (upper c).length := by
  rw [upper]
  split
  · exact Nat.one_pos
  · rw [mapCase]
    split
    · rename_i codes found
      obtain ⟨front, back, isEntry, -⟩ := List.lookup_eq_some_iff.1 found
      have member : (c.toNat, codes) ∈ uppercaseExpansions := isEntry ▸ by simp
      rw [List.length_map]
      exact List.length_pos_iff.2 (uppercaseExpansions_ne_nil _ member)
    · split <;> exact Nat.one_pos

/-- Whether no character of the text is blank, as in all identifiers of C. -/
def isSolid (text : String) : Bool :=
  text.toList.all fun c => !isBlank c

theorem isSolid_iff {text : String} :
    isSolid text = true ↔ ∀ c ∈ text.toList, isBlank c = false := by
  simp [isSolid]

theorem trim_eq_self {text : String} (solid : isSolid text = true) : trim text = text := by
  rw [isSolid_iff] at solid
  have keeps {chars : List Char} (solid : ∀ c ∈ chars, isBlank c = false) :
      chars.dropWhile isBlank = chars := by
    cases chars with
    | nil => rfl
    | cons c rest => exact List.dropWhile_cons_of_neg (by simp [solid c])
  have reversed : ∀ c ∈ text.toList.reverse, isBlank c = false := by simpa using solid
  rw [trim, keeps solid, keeps reversed, List.reverse_reverse, String.ofList_toList]

/-- Without one character, a text is what is left of it. -/
theorem replaceFrom_singleton (c : Char) (text : List Char) :
    Chars.replaceFrom [c] [] 0 text = text.filter (· != c) := by
  induction text with
  | nil => rfl
  | cons first rest ih =>
      by_cases same : first = c
      · simpa [Chars.replaceFrom, same] using ih
      · simpa [Chars.replaceFrom, same, Ne.symm same] using ih

end Text

namespace Identifier

variable {words : List (List Char)} {word : List Char} {name : String}

/-- Whether a word starts with a character that is its own capital.  The empty word may pass for one
that does. -/
def startsWithCapital : List Char → Bool
  | [] => true
  | c :: _ => Text.upper c == [c]

/-- Whether all words of a name start with capitals. -/
def isCapitalized (name : String) : Bool :=
  (segments name.toList).all startsWithCapital

theorem flatten_segments (text : List Char) :
    (segments text).flatten = text.filter (· != '_') := by
  induction text with
  | nil => rfl
  | cons c rest ih =>
      rw [segments]
      by_cases isBreak : c = '_'
      · simp [isBreak, ih]
      · rw [if_neg isBreak]
        cases split : segments rest with
        | nil => simp [isBreak, ← ih, split]
        | cons first others => simp [isBreak, ← ih, split]

theorem capitalize_eq_self_iff : capitalize word = word ↔ startsWithCapital word = true := by
  cases word with
  | nil => simp [capitalize, startsWithCapital]
  | cons c rest =>
      have cut : Text.upper c ++ rest = [c] ++ rest ↔ Text.upper c = [c] :=
        List.append_left_inj rest
      simpa [capitalize, startsWithCapital] using cut

theorem length_capitalize_ge (word : List Char) : word.length ≤ (capitalize word).length := by
  cases word with
  | nil => exact Nat.le_refl _
  | cons c rest =>
      rw [capitalize, List.length_append, List.length_cons, Nat.add_comm]
      exact Nat.add_le_add_right (Text.length_upper_pos c) _

theorem length_flatMap_capitalize_ge (words : List (List Char)) :
    words.flatten.length ≤ (words.flatMap capitalize).length := by
  induction words with
  | nil => exact Nat.le_refl _
  | cons word rest ih =>
      rw [List.flatten_cons, List.flatMap_cons, List.length_append, List.length_append]
      exact Nat.add_le_add (length_capitalize_ge word) ih

/-- Capitalizing never makes a word shorter, so the words of equal texts are equal one by one. -/
theorem flatMap_capitalize_eq_flatten_iff :
    words.flatMap capitalize = words.flatten ↔ ∀ word ∈ words, capitalize word = word := by
  induction words with
  | nil => simp
  | cons word rest ih =>
      rw [List.flatMap_cons, List.flatten_cons, List.forall_mem_cons, ← ih]
      constructor
      · intro same
        have lengths := congrArg List.length same
        rw [List.length_append, List.length_append] at lengths
        have first := length_capitalize_ge word
        have others := length_flatMap_capitalize_ge rest
        exact List.append_inj same (by omega)
      · rintro ⟨first, others⟩
        rw [first, others]

theorem snakeToPascal_eq_iff :
    Text.replaceAll name "_" "" = snakeToPascal name ↔ isCapitalized name = true := by
  have without : Text.replaceAll name "_" "" = String.ofList (segments name.toList).flatten := by
    rw [flatten_segments, ← Text.replaceFrom_singleton]
    rfl
  rw [without, snakeToPascal, String.ofList_inj, eq_comm, flatMap_capitalize_eq_flatten_iff,
    isCapitalized, List.all_eq_true]
  exact forall₂_congr fun word _ => capitalize_eq_self_iff

theorem withoutStruct_eq_self (solid : Text.isSolid name = true) : withoutStruct name = name := by
  rw [withoutStruct]
  split
  · rename_i rest spelled
    have blank := Text.isSolid_iff.1 solid ' ' (by simp [spelled])
    cases blank
  · rw [String.ofList_toList, Text.trim_eq_self solid]

end Identifier

theorem TypeSpelling.name_intake {spelling : TypeSpelling}
    (solid : Text.isSolid spelling.name = true)
    (noScalar : Scalar.ofCName? spelling.name = none) :
    spelling.intake.name = Identifier.snakeToPascal spelling.name := by
  rw [intake, Identifier.withoutStruct_eq_self solid, noScalar]
  rfl

/-! ## What an exception is missed for -/

/-- Whether a pass that gives up does so for another reason than a missing exception. -/
def Pass.MissesNoException : Pass → Prop :=
  StopsAs fun stopped =>
    ∀ enumName function, stopped.cause ≠ .convention (.missingException enumName function)

theorem Grouping.missesNoException_settleHandles (settings : Settings) :
    Pass.MissesNoException (settleHandles settings) := by
  intro draft stopped failed enumName function missing
  rw [cause_settleHandles failed] at missing
  cases missing

namespace Sizing

theorem GivesUp.ne_missingException {c : ClassId} {id : FunctionId}
    (givesUp : GivesUp settings c id stopped) (enumName function : String) :
    stopped.cause ≠ .convention (.missingException enumName function) := by
  obtain ⟨-, keywords, keyword, isCause, -⟩ := givesUp
  rw [isCause]
  intro missing
  cases missing

theorem missesNoException_resolveReturns (settings : Settings) :
    Pass.MissesNoException (resolveReturns settings) := by
  intro draft stopped failed
  obtain ⟨c, id, draft, failed⟩ := exists_stopped_of_tryForEachMethod failed
  exact (givesUp_resolveReturn failed).1.ne_missingException

theorem missesNoException_resolveFilledBuffers (settings : Settings) :
    Pass.MissesNoException (resolveFilledBuffers settings) := by
  intro draft stopped failed
  obtain ⟨c, id, draft, failed⟩ := exists_stopped_of_tryForEachMethod failed
  exact (givesUp_resolveFilled failed).1.ne_missingException

end Sizing

/-- Where the conversion of error parameters gives up, no exception has the name that it tells. -/
theorem Throwing.missing_of_stopped {ids : List FunctionId}
    (failed : ids.foldlM (convertFunction settings) draft = .error stopped) :
    ∃ enumName function, stopped.cause = .convention (.missingException enumName function) ∧
      ∀ exception ∈ draft.forest.exceptions, exception.enumName ≠ enumName := by
  induction ids generalizing draft with
  | nil => cases failed
  | cons id rest ih =>
      rw [List.foldlM_cons] at failed
      rcases convertFunction_cases settings draft id with
        ⟨-, next, converts, isNext⟩ | ⟨argument, -, missing, stops⟩
      · rw [converts] at failed
        obtain ⟨enumName, function, isCause, missing⟩ := ih failed
        have exceptions : next.forest.exceptions = draft.forest.exceptions := by
          rw [isNext]
          rfl
        exact ⟨enumName, function, isCause, exceptions ▸ missing⟩
      · rw [stops] at failed
        obtain rfl := Except.error.inj failed
        exact ⟨_, _, rfl, missing⟩

/-- An enum with the error prefix has an exception. -/
theorem Throwing.exists_mem_deriveExceptions {enums : List Enumeration} {enumeration : Enumeration}
    (declared : enumeration ∈ enums)
    (marked : Text.startsWith enumeration.name settings.errorEnumPrefix = true) :
    ∃ exception ∈ deriveExceptions settings enums, exception.enumName = enumeration.name := by
  have derived : exceptionOf? settings enumeration = some _ := if_pos marked
  exact ⟨_, List.mem_filterMap.2 ⟨enumeration, declared, derived⟩, rfl⟩

namespace Conversion

/-- What is done for a header once its functions are converted. -/
def afterThrowing (settings : Settings) (rootClass : String) (header : HeaderDeclarations) :
    List Pass :=
  hoistPasses settings rootClass header ++
    (Pass.ofTotal Grouping.stripRootPrefixes ::
      (Grouping.settleHandles settings :: afterHandles settings header))

theorem missesNoException_afterThrowing (rootClass : String) :
    (Pass.run (afterThrowing settings rootClass header)).MissesNoException := by
  have total (step : Draft → Draft) : (Pass.ofTotal step).MissesNoException :=
    Pass.StopsAs.ofTotal step
  have each : ∀ pass ∈ afterThrowing settings rootClass header, pass.MissesNoException := by
    simp only [afterThrowing, hoistPasses, afterHandles, referPasses, sizePasses, memberPasses,
      Accessors.passes, List.cons_append, List.nil_append, List.forall_mem_cons, total, true_and]
    exact ⟨Grouping.missesNoException_settleHandles settings,
      Sizing.missesNoException_resolveReturns settings,
      Sizing.missesNoException_resolveFilledBuffers settings, List.forall_mem_nil _⟩
  exact Pass.StopsAs.run each

/-- A header that misses an exception misses it for an enum that it declares no exception for. -/
theorem missing_of_processHeader {enumName function : String}
    (failed : processHeader settings draft header = .error stopped)
    (isCause : stopped.cause = .convention (.missingException enumName function)) :
    ∀ enumeration ∈ Intake.enums settings header.enums,
      Text.startsWith enumeration.name settings.errorEnumPrefix = true →
        enumeration.name ≠ enumName := by
  intro enumeration declared marked named
  rw [processHeader] at failed
  split at failed
  · rename_i rootClass _
    have cut : passes settings rootClass header = takePasses settings rootClass header ++
        (Throwing.convertErrorParameters settings :: afterThrowing settings rootClass header) := rfl
    rw [cut, Pass.run_append, run_takePasses] at failed
    replace failed : Pass.run (Throwing.convertErrorParameters settings ::
        afterThrowing settings rootClass header) (takeIn settings rootClass header draft) =
          .error stopped := failed
    rw [Pass.run_cons] at failed
    rcases error_or_exists_ok_of_bind failed with stops | ⟨next, -, failed⟩
    · obtain ⟨missed, other, isMissed, missing⟩ := Throwing.missing_of_stopped stops
      obtain ⟨rfl, rfl⟩ : enumName = missed ∧ function = other := by
        simpa using isCause.symm.trans isMissed
      obtain ⟨exception, derived, same⟩ := Throwing.exists_mem_deriveExceptions declared marked
      rw [forest_takeIn] at missing
      exact missing exception (List.mem_append_right _ derived) (same.trans named)
    · exact missesNoException_afterThrowing rootClass next stopped failed _ _ isCause
  · obtain rfl := Except.error.inj failed
    cases isCause

/-- An enum goes by the same name for itself and for the types that are spelled like it exactly if
its words are capitalized.  A header that declares such an enum with the error prefix and does not
skip it never misses the exception of it. -/
theorem namesake_iff (declaration : EnumDeclaration) (spelling : TypeSpelling)
    (named : spelling.name = declaration.name)
    (solid : Text.isSolid declaration.name = true)
    (noScalar : Scalar.ofCName? declaration.name = none) :
    (declaration.intake.name = spelling.intake.name ↔
      Identifier.isCapitalized declaration.name = true) ∧
    ∀ settings draft header stopped function, declaration ∈ header.enums →
      declaration.isSkipped settings = false →
      Text.startsWith declaration.intake.name settings.errorEnumPrefix = true →
      Identifier.isCapitalized declaration.name = true →
      processHeader settings draft header = .error stopped →
      stopped.cause ≠ .convention (.missingException spelling.intake.name function) := by
  have names : declaration.intake.name = spelling.intake.name ↔
      Identifier.isCapitalized declaration.name = true := by
    rw [TypeSpelling.name_intake (named ▸ solid) (named ▸ noScalar), named]
    exact Identifier.snakeToPascal_eq_iff
  refine ⟨names, fun settings draft header stopped function declared kept marked capitalized failed
    isCause => ?_⟩
  have takenIn : declaration.intake ∈ Intake.enums settings header.enums :=
    List.mem_map_of_mem (List.mem_filter.2 ⟨declared, by simp [kept]⟩)
  exact missing_of_processHeader failed isCause _ takenIn marked (names.2 capitalized)

/-- A function that reports failure by the enum of the name. -/
def failingBy (enumName name : String) : FunctionDeclaration where
  name
  returnType := { name := "void" }
  parameters := [{ name := "error", type := { name := enumName, isPointer := true } }]

/-- A header with the functions and an enum of the name. -/
def declaring (enumName : String) (functions : List FunctionDeclaration) :
    HeaderDeclarations where
  file := "tox.h"
  functions
  enums := [{ name := enumName, values := [{ name := "TOX_ERR_NEW_OK", ordinal := 0 }] }]

/-- With the customary spelling the exception is found, and another one is missed. -/
theorem namesake_toxErrNew :
    Identifier.isCapitalized "Tox_Err_New" = true ∧
    ∃ stopped, processHeader Settings.default {} (declaring "Tox_Err_New"
        [failingBy "Tox_Err_New" "tox_new", failingBy "Tox_Err_Load" "tox_load"]) =
          .error stopped ∧
      stopped.cause ≠ .convention (.missingException "ToxErrNew" "tox_new") := by
  have capitalized : Identifier.isCapitalized "Tox_Err_New" = true := by decide +kernel
  obtain ⟨stopped, failed, -⟩ : ∃ stopped, processHeader Settings.default {}
      (declaring "Tox_Err_New"
        [failingBy "Tox_Err_New" "tox_new", failingBy "Tox_Err_Load" "tox_load"]) =
          .error stopped ∧
        stopped.cause = .convention (.missingException "ToxErrLoad" "tox_load") :=
    exists_error_of_told Stopped.cause (by decide +kernel)
  have namesake := namesake_iff
    { name := "Tox_Err_New", values := [{ name := "TOX_ERR_NEW_OK", ordinal := 0 }] }
    { name := "Tox_Err_New", isPointer := true } rfl (by decide +kernel) (by decide)
  exact ⟨capitalized, stopped, failed, namesake.2 _ _ _ stopped "tox_new" List.mem_cons_self
    (by decide +kernel) (by decide +kernel) capitalized failed⟩

/-- A word that starts in lowercase keeps it in the name of the enum only, so that the exception of
the enum is not found. -/
theorem missing_toxErrnew :
    (EnumDeclaration.intake { name := "Tox_Err_new" }).name = "ToxErrnew" ∧
      Text.startsWith "ToxErrnew" Settings.default.errorEnumPrefix = true ∧
      (TypeSpelling.intake { name := "Tox_Err_new", isPointer := true }).name = "ToxErrNew" ∧
      ∃ stopped, convert Settings.default
          { headers := [declaring "Tox_Err_new" [failingBy "Tox_Err_new" "tox_new"]] } =
            .error stopped ∧
        stopped.cause = .convention (.missingException "ToxErrNew" "tox_new") :=
  ⟨by decide +kernel, by decide +kernel, by decide +kernel,
    exists_error_of_told Stopped.cause (by decide +kernel)⟩

end Conversion

end Bindery
