/-!
# Storage

Directories and files below one root, as values.  A path is followed step by step: `.` stays, `..`
goes back, and every step but the last has to lead to a directory that exists.
-/

namespace Bindery

/-- A path from the root, one name for each step. -/
abbrev Location := List String

structure Storage where
  /-- The directories below the root. -/
  directories : List Location := []
  files : List (Location × ByteArray) := []

namespace Storage

/-- The names that a path goes through. -/
def steps (path : String) : List String :=
  (path.splitOn "/").filter (· != "")

/-- Whether anything can have this name: it is at most 255 bytes long and without a zero. -/
def isName (name : String) : Bool :=
  name.utf8ByteSize ≤ 255 && !name.toList.contains (Char.ofNat 0)

def isDirectory (storage : Storage) (location : Location) : Bool :=
  location.isEmpty || storage.directories.contains location

def file? (storage : Storage) (location : Location) : Option ByteArray :=
  storage.files.lookup location

/-- The directory that the steps lead to, starting from one that exists. -/
def follow? (storage : Storage) : Location → List String → Option Location
  | here, [] => some here
  | here, step :: steps =>
    if step = "." then storage.follow? here steps
    else if step = ".." then
      if here.isEmpty then none else storage.follow? here.dropLast steps
    else
      let next := here ++ [step]
      if storage.isDirectory next then storage.follow? next steps else none

/-- The directory and the name that a path to a file consists of.  A path that starts or ends in a
slash, ends in a step that names no file, or takes more than 4095 bytes, is none. -/
def target? (storage : Storage) (path : String) : Option Location := do
  let names := steps path
  let name ← names.getLast?
  guard (!path.startsWith "/" && !path.endsWith "/" && path.utf8ByteSize ≤ 4095)
  guard (name != "." && name != ".." && isName name)
  let directory ← storage.follow? [] names.dropLast
  return directory ++ [name]

def read? (storage : Storage) (path : String) : Option ByteArray :=
  storage.target? path >>= storage.file?

/-- Puts a file in the place of whatever file is there.  A directory is not replaced. -/
def write? (storage : Storage) (path : String) (content : ByteArray) : Option Storage := do
  let location ← storage.target? path
  guard (!storage.isDirectory location)
  return { storage with
    files := (location, content) :: storage.files.filter (·.1 != location) }

/-- Takes one step from a directory, which makes the directory that it leads to. -/
def enter (step : String) (state : Storage × Location) : Storage × Location :=
  let (storage, here) := state
  if step = "." then state
  else if step = ".." then (storage, here.dropLast)
  else
    let next := here ++ [step]
    ({ storage with directories := next :: storage.directories }, next)

/-- Makes a directory, and every other one that the path goes through. -/
def makeDirectory (storage : Storage) (path : String) : Storage :=
  ((steps path).foldl (fun state step => enter step state) (storage, [])).1

end Storage

end Bindery
