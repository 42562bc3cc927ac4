import Bindery.Declaration.Json
import Bindery.Loading
import Bindery.Proofs.Json.Omission

/-!
# Declarations with members left out

Declarations that are written as JSON, with any members left out that hold their default, are
loaded as they were.  Each type of declaration has its own members that may be left out, and the
parts of a declaration bring theirs.
-/

namespace Bindery

open Json

variable {selection : Selection}

namespace TypeSpelling

/-- What stands at the path in a type if the member there may be left out. -/
def default? : Path → Option Json
  | [.member "pointer"] => some (.bool false)
  | [.member "const"] => some (.bool false)
  | _ => none

theorem read?_prune {spelling : TypeSpelling}
    (omits : selection.OmitsDefaults default? spelling.toJson) :
    read? (spelling.toJson.prune selection) = some spelling := by
  have name := omits.required "name" rfl rfl (text?_prune spelling.name)
  have isPointer := omits.withDefault "pointer" rfl rfl bool.inj (flag?_prune spelling.isPointer)
  have isConst := omits.withDefault "const" rfl rfl bool.inj (flag?_prune spelling.isConst)
  refine record_reads rfl (by decide) ?_
  rw [name, isPointer, isConst]
  rfl

theorem readable_toJson (spelling : TypeSpelling) : spelling.toJson.Readable :=
  readable_record (by simp [readable_ofString, Readable.bool])

end TypeSpelling

namespace ParameterDeclaration

def default? : Path → Option Json
  | [.member "name"] => some (.ofString "")
  | .member "type" :: path => TypeSpelling.default? path
  | _ => none

theorem read?_prune {declaration : ParameterDeclaration}
    (omits : selection.OmitsDefaults default? declaration.toJson) :
    read? (declaration.toJson.prune selection) = some declaration := by
  have name := omits.withDefault "name" rfl rfl ofString_inj (text?_prune declaration.name)
  have type := omits.required "type" rfl rfl
    (TypeSpelling.read?_prune (omits.member "type" rfl fun _ => rfl))
  refine record_reads rfl (by decide) ?_
  rw [name, type]
  rfl

theorem readable_toJson (declaration : ParameterDeclaration) : declaration.toJson.Readable :=
  readable_record (by simp [readable_ofString, declaration.type.readable_toJson])

end ParameterDeclaration

namespace FunctionDeclaration

def default? : Path → Option Json
  | .member "return_type" :: path => TypeSpelling.default? path
  | .member "params" :: path => defaultInList ParameterDeclaration.default? path
  | _ => none

theorem read?_prune {declaration : FunctionDeclaration}
    (omits : selection.OmitsDefaults default? declaration.toJson) :
    read? (declaration.toJson.prune selection) = some declaration := by
  have name := omits.required "name" rfl rfl (text?_prune declaration.name)
  have returnType := omits.required "return_type" rfl rfl
    (TypeSpelling.read?_prune (omits.member "return_type" rfl fun _ => rfl))
  have parameters := omits.items "params" rfl (fun _ => rfl) ParameterDeclaration.read?_prune
  refine record_reads rfl (by decide) ?_
  rw [name, returnType, parameters]
  rfl

theorem readable_toJson (declaration : FunctionDeclaration) : declaration.toJson.Readable :=
  readable_record (by
    simp [readable_ofString, declaration.returnType.readable_toJson,
      readable_ofList ParameterDeclaration.readable_toJson])

end FunctionDeclaration

namespace EnumeratorDeclaration

/-- Nothing can be left out of an enumerator. -/
def default? : Path → Option Json :=
  fun _ => none

theorem read?_prune {declaration : EnumeratorDeclaration}
    (omits : selection.OmitsDefaults default? declaration.toJson) :
    read? (declaration.toJson.prune selection) = some declaration := by
  have name := omits.required "name" rfl rfl (text?_prune declaration.name)
  have ordinal := omits.required "ordinal" rfl rfl (integer?_prune declaration.ordinal)
  refine record_reads rfl (by decide) ?_
  rw [name, ordinal]
  rfl

theorem readable_toJson (declaration : EnumeratorDeclaration) : declaration.toJson.Readable :=
  readable_record (by simp [readable_ofString, readable_ofInt])

end EnumeratorDeclaration

namespace EnumDeclaration

def default? : Path → Option Json
  | .member "values" :: path => defaultInList EnumeratorDeclaration.default? path
  | _ => none

theorem read?_prune {declaration : EnumDeclaration}
    (omits : selection.OmitsDefaults default? declaration.toJson) :
    read? (declaration.toJson.prune selection) = some declaration := by
  have name := omits.required "name" rfl rfl (text?_prune declaration.name)
  have values := omits.items "values" rfl (fun _ => rfl) EnumeratorDeclaration.read?_prune
  refine record_reads rfl (by decide) ?_
  rw [name, values]
  rfl

theorem readable_toJson (declaration : EnumDeclaration) : declaration.toJson.Readable :=
  readable_record (by
    simp [readable_ofString, readable_ofList EnumeratorDeclaration.readable_toJson])

end EnumDeclaration

namespace TypedefTarget

/-- The key that tells the two kinds of targets apart cannot be left out.  A signature is like a
function without a name. -/
def default? : Path → Option Json
  | .member "type" :: path => TypeSpelling.default? path
  | .member "function" :: path => FunctionDeclaration.default? path
  | _ => none

theorem readFunction?_prune {returnType : TypeSpelling} {parameters : List ParameterDeclaration}
    (omits : selection.OmitsDefaults FunctionDeclaration.default?
      (.record [
        ("return_type", returnType.toJson),
        ("params", .ofList ParameterDeclaration.toJson parameters)])) :
    readFunction? ((Json.record [
        ("return_type", returnType.toJson),
        ("params", .ofList ParameterDeclaration.toJson parameters)]).prune selection) =
      some (.function returnType parameters) := by
  have isReturnType := omits.required "return_type" rfl rfl
    (TypeSpelling.read?_prune (omits.member "return_type" rfl fun _ => rfl))
  have areParameters := omits.items "params" rfl (fun _ => rfl) ParameterDeclaration.read?_prune
  refine record_reads rfl (by decide) ?_
  rw [isReturnType, areParameters]
  rfl

theorem read?_prune {target : TypedefTarget}
    (omits : selection.OmitsDefaults default? target.toJson) :
    read? (target.toJson.prune selection) = some target := by
  cases target with
  | type spelling =>
      have chosen := omits.choice rfl
      have content := TypeSpelling.read?_prune (omits.member "type" rfl fun _ => rfl)
      rw [toJson, read?, chosen]
      simp only [content, Option.map_some]
  | function returnType parameters =>
      have chosen := omits.choice rfl
      have content := readFunction?_prune (omits.member "function" rfl fun _ => rfl)
      rw [toJson, read?, chosen]
      exact content

theorem readable_toJson (target : TypedefTarget) : target.toJson.Readable := by
  cases target with
  | type spelling => exact readable_record (by simp [spelling.readable_toJson])
  | function returnType parameters =>
      refine readable_record (List.forall_mem_singleton.2 (readable_record ?_))
      simp [returnType.readable_toJson, readable_ofList ParameterDeclaration.readable_toJson]

end TypedefTarget

namespace TypedefDeclaration

def default? : Path → Option Json
  | .member "target" :: path => TypedefTarget.default? path
  | _ => none

theorem read?_prune {declaration : TypedefDeclaration}
    (omits : selection.OmitsDefaults default? declaration.toJson) :
    read? (declaration.toJson.prune selection) = some declaration := by
  have name := omits.required "name" rfl rfl (text?_prune declaration.name)
  have target := omits.required "target" rfl rfl
    (TypedefTarget.read?_prune (omits.member "target" rfl fun _ => rfl))
  refine record_reads rfl (by decide) ?_
  rw [name, target]
  rfl

theorem readable_toJson (declaration : TypedefDeclaration) : declaration.toJson.Readable :=
  readable_record (by simp [readable_ofString, declaration.target.readable_toJson])

end TypedefDeclaration

namespace HeaderDeclarations

def default? : Path → Option Json
  | .member "functions" :: path => defaultInList FunctionDeclaration.default? path
  | .member "enums" :: path => defaultInList EnumDeclaration.default? path
  | .member "structs" :: path => defaultInList (fun _ => none) path
  | .member "types" :: path => defaultInList TypedefDeclaration.default? path
  | _ => none

theorem read?_prune {header : HeaderDeclarations}
    (omits : selection.OmitsDefaults default? header.toJson) :
    read? (header.toJson.prune selection) = some header := by
  have file := omits.required "file" rfl rfl (text?_prune header.file)
  have functions := omits.items "functions" rfl (fun _ => rfl) FunctionDeclaration.read?_prune
  have enums := omits.items "enums" rfl (fun _ => rfl) EnumDeclaration.read?_prune
  have structs := omits.items "structs" rfl (fun _ => rfl) fun _ => text?_prune _
  have typedefs := omits.items "types" rfl (fun _ => rfl) TypedefDeclaration.read?_prune
  refine record_reads rfl (by decide) ?_
  rw [file, functions, enums, structs, typedefs]
  rfl

theorem readable_toJson (header : HeaderDeclarations) : header.toJson.Readable :=
  readable_record (by
    simp [readable_ofString, readable_ofList FunctionDeclaration.readable_toJson,
      readable_ofList EnumDeclaration.readable_toJson, readable_ofList readable_ofString,
      readable_ofList TypedefDeclaration.readable_toJson])

end HeaderDeclarations

namespace DeclarationSet

/-- The list of headers itself cannot be left out. -/
def default? : Path → Option Json
  | .member "headers" :: .item _ :: path => HeaderDeclarations.default? path
  | _ => none

theorem read?_prune {declarations : DeclarationSet}
    (omits : selection.OmitsDefaults default? declarations.toJson) :
    read? (declarations.toJson.prune selection) = some declarations := by
  have inHeaders := omits.member "headers" rfl fun _ => rfl
  have headers := omits.required "headers" rfl rfl (list?_prune_self fun _ _ found =>
    HeaderDeclarations.read?_prune (inHeaders.item found fun _ => rfl))
  refine record_reads rfl (by decide) ?_
  rw [headers]
  rfl

theorem readable_toJson (declarations : DeclarationSet) : declarations.toJson.Readable :=
  readable_record (by simp [readable_ofList HeaderDeclarations.readable_toJson])

/-- Declarations are loaded from their text as they were, whatever members are left out of it that
hold their default. -/
theorem ofText_prune (declarations : DeclarationSet) (selection : Selection) {text : String}
    (omits : selection.OmitsDefaults default? declarations.toJson)
    (written : text = compact (declarations.toJson.prune selection) ∨
      text = pretty (declarations.toJson.prune selection)) :
    ofText .json text = .ok declarations := by
  have readable := declarations.readable_toJson.prune selection
  have parsed := ofText?_of_written readable written
  have reads := read?_prune omits
  simp only [ofText, readText?, parsed, Option.bind_eq_bind, Option.bind_some, reads]

/-- The members that can be left out of a callback and of a handle, one of them kept. -/
def omittedInTypedefs : List Path :=
  let inHeader (path : Path) : Path := .member "headers" :: .item 0 :: path
  let inCallback (path : Path) : Path :=
    inHeader (.member "types" :: .item 0 :: .member "target" :: .member "function" :: path)
  let inHandle (path : Path) : Path :=
    inHeader (.member "types" :: .item 1 :: .member "target" :: .member "type" :: path)
  [inHeader [.member "functions"], inHeader [.member "enums"],
    inCallback [.member "return_type", .member "const"],
    inCallback [.member "params", .item 0, .member "name"],
    inCallback [.member "params", .item 0, .member "type", .member "const"],
    inHandle [.member "pointer"], inHandle [.member "const"]]

/-- A callback and a handle, each told with no more than it needs. -/
theorem ofText_prune_toxTypedefs :
    ofText .json (compact (record [("headers", array [record [
      ("file", ofString "tox.h"),
      ("structs", array [ofString "Tox"]),
      ("types", array [
        record [("name", ofString "tox_log_cb"), ("target", record [("function", record [
          ("return_type", record [("name", ofString "void"), ("pointer", bool false)]),
          ("params", array [record [("type", record [
            ("name", ofString "Tox"), ("pointer", bool true)])]])])])],
        record [("name", ofString "Tox_Friend_Number"), ("target", record [
          ("type", record [("name", ofString "uint32_t")])])]])]])])) =
      .ok { headers := [{
        file := "tox.h"
        structs := ["Tox"]
        typedefs := [
          { name := "tox_log_cb",
            target := .function { name := "void" }
              [{ type := { name := "Tox", isPointer := true } }] },
          { name := "Tox_Friend_Number", target := .type { name := "uint32_t" } }] }] } := by
  refine ofText_prune _ (fun path => omittedInTypedefs.contains path) (fun path selected => ?_)
    (.inl (congrArg compact (by rfl)))
  have isOmitted : path ∈ omittedInTypedefs := by simpa using selected
  simp only [omittedInTypedefs, List.mem_cons, List.not_mem_nil, or_false] at isOmitted
  rcases isOmitted with rfl | rfl | rfl | rfl | rfl | rfl | rfl <;> exact ⟨_, rfl, rfl⟩

end DeclarationSet

end Bindery
