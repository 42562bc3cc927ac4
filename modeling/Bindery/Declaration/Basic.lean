/-!
# Declarations

What a C header declares, as it comes from a parser of headers: functions, enums, struct names and
typedefs, in source order.  The order of every list is significant and kept throughout.
-/

namespace Bindery

/-- A C type as spelled in a header, such as `const struct Tox *`. -/
structure TypeSpelling where
  name : String
  isPointer : Bool := false
  isConst : Bool := false
  deriving DecidableEq, Inhabited

structure ParameterDeclaration where
  name : String := ""
  type : TypeSpelling
  deriving DecidableEq, Inhabited

namespace ParameterDeclaration

/-- The single unnamed `void` parameter of a declaration such as `f(void)`. -/
def isVoidMarker (parameter : ParameterDeclaration) : Bool :=
  parameter.name == "" && parameter.type.name == "void" && !parameter.type.isPointer

end ParameterDeclaration

structure FunctionDeclaration where
  name : String
  returnType : TypeSpelling
  parameters : List ParameterDeclaration := []
  deriving DecidableEq, Inhabited

structure EnumeratorDeclaration where
  name : String
  ordinal : Int64
  deriving DecidableEq

structure EnumDeclaration where
  name : String
  values : List EnumeratorDeclaration := []
  deriving DecidableEq

/-- What a typedef names: another type, or the signature of a callback. -/
inductive TypedefTarget where
  | type (spelling : TypeSpelling)
  | function (returnType : TypeSpelling) (parameters : List ParameterDeclaration)
  deriving DecidableEq

structure TypedefDeclaration where
  name : String
  target : TypedefTarget
  deriving DecidableEq

namespace TypedefDeclaration

/-- The signature as a function declaration of the typedef's name. -/
def asFunction? (declaration : TypedefDeclaration) : Option FunctionDeclaration :=
  match declaration.target with
  | .function returnType parameters => some { name := declaration.name, returnType, parameters }
  | .type _ => none

end TypedefDeclaration

/-- All declarations of one header file. -/
structure HeaderDeclarations where
  file : String
  functions : List FunctionDeclaration := []
  enums : List EnumDeclaration := []
  structs : List String := []
  typedefs : List TypedefDeclaration := []
  deriving DecidableEq

structure DeclarationSet where
  headers : List HeaderDeclarations
  deriving DecidableEq

end Bindery
