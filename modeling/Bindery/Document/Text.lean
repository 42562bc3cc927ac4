import Bindery.Document.Json
import Bindery.Json.Writer
import Bindery.Yaml.Writer

/-!
# Documents as text
-/

namespace Bindery.Document

def toPrettyJson (document : Document) : String :=
  document.toJson.pretty

def toCompactJson (document : Document) : String :=
  document.toJson.compact

def toYaml (document : Document) : String :=
  Yaml.write document.toJson

end Bindery.Document
