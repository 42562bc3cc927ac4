import Bindery.Declaration.Basic
import Bindery.Written

/-!
# Reading declarations

How each kind of declaration is read from a written value.  A field that has an empty or false
value of its own may be left out.
-/

namespace Bindery

variable {σ : Type} [Written σ]

open Written

namespace TypeSpelling

def read? (source : σ) : Option TypeSpelling := do
  let fields ← fields? ["name", "pointer", "const"] source
  let name ← required fields "name" text?
  let isPointer ← withDefault fields "pointer" false flag?
  let isConst ← withDefault fields "const" false flag?
  return { name, isPointer, isConst }

end TypeSpelling

namespace ParameterDeclaration

def read? (source : σ) : Option ParameterDeclaration := do
  let fields ← fields? ["name", "type"] source
  let name ← withDefault fields "name" "" text?
  let type ← required fields "type" TypeSpelling.read?
  return { name, type }

end ParameterDeclaration

namespace FunctionDeclaration

def read? (source : σ) : Option FunctionDeclaration := do
  let fields ← fields? ["name", "return_type", "params"] source
  let name ← required fields "name" text?
  let returnType ← required fields "return_type" TypeSpelling.read?
  let parameters ← withDefault fields "params" [] (list? ParameterDeclaration.read?)
  return { name, returnType, parameters }

end FunctionDeclaration

namespace EnumeratorDeclaration

def read? (source : σ) : Option EnumeratorDeclaration := do
  let fields ← fields? ["name", "ordinal"] source
  let name ← required fields "name" text?
  let ordinal ← required fields "ordinal" integer?
  return { name, ordinal }

end EnumeratorDeclaration

namespace EnumDeclaration

def read? (source : σ) : Option EnumDeclaration := do
  let fields ← fields? ["name", "values"] source
  let name ← required fields "name" text?
  let values ← withDefault fields "values" [] (list? EnumeratorDeclaration.read?)
  return { name, values }

end EnumDeclaration

namespace TypedefTarget

/-- The signature of a callback. -/
def readFunction? (source : σ) : Option TypedefTarget := do
  let fields ← fields? ["return_type", "params"] source
  let returnType ← required fields "return_type" TypeSpelling.read?
  let parameters ← withDefault fields "params" [] (list? ParameterDeclaration.read?)
  return .function returnType parameters

def read? (source : σ) : Option TypedefTarget :=
  match choice? source with
  | some ("type", content) => (TypeSpelling.read? content).map .type
  | some ("function", content) => readFunction? content
  | _ => none

end TypedefTarget

namespace TypedefDeclaration

def read? (source : σ) : Option TypedefDeclaration := do
  let fields ← fields? ["name", "target"] source
  let name ← required fields "name" text?
  let target ← required fields "target" TypedefTarget.read?
  return { name, target }

end TypedefDeclaration

namespace HeaderDeclarations

def read? (source : σ) : Option HeaderDeclarations := do
  let fields ← fields? ["file", "functions", "enums", "structs", "types"] source
  let file ← required fields "file" text?
  let functions ← withDefault fields "functions" [] (list? FunctionDeclaration.read?)
  let enums ← withDefault fields "enums" [] (list? EnumDeclaration.read?)
  let structs ← withDefault fields "structs" [] (list? text?)
  let typedefs ← withDefault fields "types" [] (list? TypedefDeclaration.read?)
  return { file, functions, enums, structs, typedefs }

end HeaderDeclarations

namespace DeclarationSet

def read? (source : σ) : Option DeclarationSet := do
  let fields ← fields? ["headers"] source
  let headers ← required fields "headers" (list? HeaderDeclarations.read?)
  return { headers }

end DeclarationSet

end Bindery
