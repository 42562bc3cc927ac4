import Bindery.Declaration.Basic
import Bindery.Identifier
import Bindery.Model.Class
import Bindery.Settings.Basic
import Bindery.Text.Search

/-!
# Intake of declarations

What each C declaration is before any class is formed: types become scalars or references to
classes, functions keep their parameters, and enums lose the prefix that their values repeat.
-/

namespace Bindery

namespace TypeSpelling

/-- The type that the spelling names.  A pointer to a scalar is a buffer, except that nothing is
known of what `void *` points at.  Names of no scalar are references. -/
def intake (spelling : TypeSpelling) : ValueType :=
  let base := Identifier.withoutStruct spelling.name
  let ctype : CType := { name := spelling.name, isPointer := spelling.isPointer }
  let mutable := !spelling.isConst
  match Scalar.ofCName? base with
  | some .void => { kind := .scalar .void, mutable, isArray := false, ctype }
  | some scalar => { kind := .scalar scalar, mutable, isArray := spelling.isPointer, ctype }
  | none =>
    { kind := .reference (Identifier.snakeToPascal base), mutable, isArray := false, ctype }

end TypeSpelling

namespace ParameterDeclaration

/-- Byte buffers whose name reads like text. -/
def isText (settings : Settings) (declaration : ParameterDeclaration) : Bool :=
  declaration.type.intake.ctype.name == "uint8_t" && declaration.type.intake.isArray &&
    settings.markers.text.any (Text.contains declaration.name)

def intake (settings : Settings) (declaration : ParameterDeclaration) : Argument :=
  .plain {
    name := declaration.name
    type := { declaration.type.intake with actsAsString := declaration.isText settings } }

end ParameterDeclaration

namespace FunctionDeclaration

/-- A parameter list that starts with the marker `void` is empty. -/
def intakeParameters (settings : Settings) (declaration : FunctionDeclaration) : List Argument :=
  if declaration.parameters.head?.any (·.isVoidMarker) then []
  else declaration.parameters.map (·.intake settings)

def intake (settings : Settings) (declaration : FunctionDeclaration) : Function where
  name := declaration.name
  cname := declaration.name
  ret := { type := declaration.returnType.intake }
  params := declaration.intakeParameters settings

def isExcluded (settings : Settings) (declaration : FunctionDeclaration) : Bool :=
  settings.excludedFunctionMarkers.any (Text.contains declaration.name)

end FunctionDeclaration

namespace EnumDeclaration

def isSkipped (settings : Settings) (declaration : EnumDeclaration) : Bool :=
  settings.skippedEnums.contains declaration.name

/-- What the names of the values start with: values of `Tox_Err_New` and of `ToxErrNew` look like
`TOX_ERR_NEW_OK`. -/
def valuePrefix (declaration : EnumDeclaration) : String :=
  let snake :=
    if declaration.name.toList.contains '_' then declaration.name
    else Identifier.pascalToSnake declaration.name
  Text.toUppercase snake ++ "_"

/-- The name of a value without the common prefix, unless nothing else is left of it. -/
def bareName (declaration : EnumDeclaration) (name : String) : String :=
  match Text.dropPrefix? name declaration.valuePrefix with
  | some bare => if bare == "" then name else bare
  | none => name

def intake (declaration : EnumDeclaration) : Enumeration where
  name := Text.replaceAll declaration.name "_" ""
  cname := declaration.name
  values := declaration.values.map fun value =>
    { name := declaration.bareName value.name, cname := value.name, ordinal := value.ordinal }

end EnumDeclaration

namespace Intake

/-- The functions of a header, without the excluded ones. -/
def functions (settings : Settings) (declarations : List FunctionDeclaration) : List Function :=
  (declarations.filter (!·.isExcluded settings)).map (·.intake settings)

/-- The names of the functions that are left out. -/
def excludedFunctions (settings : Settings) (declarations : List FunctionDeclaration) :
    List String :=
  (declarations.filter (·.isExcluded settings)).map (·.name)

/-- The enums of a header, without the skipped ones. -/
def enums (settings : Settings) (declarations : List EnumDeclaration) : List Enumeration :=
  (declarations.filter (!·.isSkipped settings)).map (·.intake)

/-- The names of the enums that are left out. -/
def skippedEnums (settings : Settings) (declarations : List EnumDeclaration) : List String :=
  (declarations.filter (·.isSkipped settings)).map (·.name)

end Intake

end Bindery
