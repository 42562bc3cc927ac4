import Bindery.Document.Text
import Bindery.Journal
import Bindery.Loading
import Bindery.Storage.Basic

/-!
# Exchange with a storage

Settings are loaded from a file, and a document is written to one.
-/

namespace Bindery

namespace Settings

/-- Loads settings from a YAML file, which has to be valid text. -/
def load (storage : Storage) (path : String) : Journal × Except InputFailure Settings :=
  match storage.read? path >>= String.fromUTF8? with
  | none => ({}, .error (.unreadable path))
  | some text =>
    (Journal.write {} .debug s!"Loaded pipeline configuration from {path}", ofText .yaml text)

end Settings

namespace Document

/-- Writes the document to a file, as indented JSON that ends in a line break. -/
def save (document : Document) (storage : Storage) (path : String) (journal : Journal) :
    Journal × Except OutputFailure Storage :=
  match storage.write? path (document.toPrettyJson ++ "\n").toUTF8 with
  | none => (journal, .error .writing)
  | some storage => (journal.write .info s!"Wrote IR document to `{path}`", .ok storage)

end Document

end Bindery
