/-!
# Journals

What is worth telling about a conversion while it runs.  Every line has a level, and a journal
holds its lines with the latest first.
-/

namespace Bindery

inductive Level where
  | info
  | debug
  | trace
  | warn
  deriving DecidableEq

namespace Level

def name : Level → String
  | info => "INFO"
  | debug => "DEBUG"
  | trace => "TRACE"
  | warn => "WARN"

end Level

structure Line where
  level : Level
  text : String
  deriving DecidableEq

namespace Line

def render (line : Line) : String :=
  line.level.name ++ " " ++ line.text

end Line

/-- Lines with the latest first. -/
structure Journal where
  latestFirst : List Line := []
  deriving DecidableEq, Inhabited

namespace Journal

def write (journal : Journal) (level : Level) (text : String) : Journal :=
  { latestFirst := { level, text } :: journal.latestFirst }

/-- The lines in the order in which they were written. -/
def lines (journal : Journal) : List Line :=
  journal.latestFirst.reverse

end Journal

end Bindery
