import Bindery.Declaration.Basic
import Bindery.Json.Basic

/-!
# Declarations in JSON

Each declaration as an object with all of its fields, also those that could be left out.
-/

namespace Bindery

namespace TypeSpelling

def toJson (spelling : TypeSpelling) : Json :=
  .record [
    ("name", .ofString spelling.name),
    ("pointer", .bool spelling.isPointer),
    ("const", .bool spelling.isConst)]

end TypeSpelling

namespace ParameterDeclaration

def toJson (declaration : ParameterDeclaration) : Json :=
  .record [
    ("name", .ofString declaration.name),
    ("type", declaration.type.toJson)]

end ParameterDeclaration

namespace FunctionDeclaration

def toJson (declaration : FunctionDeclaration) : Json :=
  .record [
    ("name", .ofString declaration.name),
    ("return_type", declaration.returnType.toJson),
    ("params", .ofList ParameterDeclaration.toJson declaration.parameters)]

end FunctionDeclaration

namespace EnumeratorDeclaration

def toJson (declaration : EnumeratorDeclaration) : Json :=
  .record [
    ("name", .ofString declaration.name),
    ("ordinal", .ofInt declaration.ordinal.toInt)]

end EnumeratorDeclaration

namespace EnumDeclaration

def toJson (declaration : EnumDeclaration) : Json :=
  .record [
    ("name", .ofString declaration.name),
    ("values", .ofList EnumeratorDeclaration.toJson declaration.values)]

end EnumDeclaration

namespace TypedefTarget

def toJson : TypedefTarget → Json
  | .type spelling => .record [("type", spelling.toJson)]
  | .function returnType parameters =>
    .record [
      ("function", .record [
        ("return_type", returnType.toJson),
        ("params", .ofList ParameterDeclaration.toJson parameters)])]

end TypedefTarget

namespace TypedefDeclaration

def toJson (declaration : TypedefDeclaration) : Json :=
  .record [
    ("name", .ofString declaration.name),
    ("target", declaration.target.toJson)]

end TypedefDeclaration

namespace HeaderDeclarations

def toJson (header : HeaderDeclarations) : Json :=
  .record [
    ("file", .ofString header.file),
    ("functions", .ofList FunctionDeclaration.toJson header.functions),
    ("enums", .ofList EnumDeclaration.toJson header.enums),
    ("structs", .ofList Json.ofString header.structs),
    ("types", .ofList TypedefDeclaration.toJson header.typedefs)]

end HeaderDeclarations

namespace DeclarationSet

def toJson (declarations : DeclarationSet) : Json :=
  .record [("headers", .ofList HeaderDeclarations.toJson declarations.headers)]

end DeclarationSet

end Bindery
