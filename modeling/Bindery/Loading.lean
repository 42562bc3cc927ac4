import Bindery.Declaration.Reading
import Bindery.Failure
import Bindery.Json.Reader
import Bindery.Settings.Reading
import Bindery.Yaml.Node

/-!
# Loading texts

Declarations and settings from a text in either format.  A text is taken as a whole or refused as
malformed.
-/

namespace Bindery

/-- Reads a text in the given format. -/
def readText? {α : Type} (readJson : Json → Option α) (readYaml : Yaml.Node → Option α)
    (format : TextFormat) (text : String) : Option α :=
  match format with
  | .json => Json.ofText? text >>= readJson
  | .yaml => Yaml.Node.ofText? text >>= readYaml

namespace Settings

def ofText (format : TextFormat) (text : String) : Except InputFailure Settings :=
  match readText? read? read? format text with
  | some settings => .ok settings
  | none => .error (.malformedSettings format)

end Settings

namespace DeclarationSet

def ofText (format : TextFormat) (text : String) : Except InputFailure DeclarationSet :=
  match readText? read? read? format text with
  | some declarations => .ok declarations
  | none => .error (.malformedDeclarations format)

end DeclarationSet

end Bindery
