import Bindery.Draft
import Bindery.Settings.Basic
import Bindery.Text.Search

/-!
# The search for size accessors

C passes a buffer as a bare pointer and tells its size in a companion function.  The companion is
found by name: it contains a keyword, which is usually what the method's own name says after
`get_` or `set_`, and ends like a size.
-/

namespace Bindery.Sizing

def isSizeName (settings : Settings) (name : String) : Bool :=
  settings.markers.sizeSuffixes.any (Text.endsWith name)

/-- Whether a name tells the size of what the keyword names. -/
def isSizeOf (settings : Settings) (keyword name : String) : Bool :=
  Text.contains name keyword && isSizeName settings name

/-- The first of a class's own methods that tells the size. -/
def ownAccessor? (settings : Settings) (forest : Forest) (keyword : String) (c : ClassId) :
    Option FunctionId :=
  (forest.methods c).find? fun id => isSizeOf settings keyword (forest.functionAt id).name

/-- The first static method of a class that tells the size, or else the getter of its first static
property that does. -/
def staticAccessor? (settings : Settings) (forest : Forest) (keyword : String) (c : ClassId) :
    Option FunctionId :=
  let method := (forest.methods c).find? fun id =>
    let function := forest.functionAt id
    function.isStatic && isSizeOf settings keyword function.name
  let property := (forest.classAt c).properties.find? fun property =>
    property.isStatic && isSizeOf settings keyword property.name
  method.or (property.map (·.getter))

/-- The accessor for a keyword, as seen from a class: its own methods come first, and then what is
static in any of the given classes. -/
def accessor? (settings : Settings) (forest : Forest) (keyword : String) (c : ClassId)
    (classes : List ClassId) : Option FunctionId :=
  (ownAccessor? settings forest keyword c).or
    (classes.findSome? (staticAccessor? settings forest keyword))

/-- The same, told in the journal. -/
def searchAmong (settings : Settings) (draft : Draft) (keyword : String) (c : ClassId)
    (classes : List ClassId) : Draft × Option FunctionId :=
  let className := draft.forest.className c
  (draft.note .trace s!"Searching size accessor for `{keyword}` from `{className}`",
    accessor? settings draft.forest keyword c classes)

/-- The search among all classes. -/
def search (settings : Settings) (draft : Draft) (keyword : String) (c : ClassId) :
    Draft × Option FunctionId :=
  searchAmong settings draft keyword c draft.forest.allClasses

/-- Takes an accessor off the methods of a class, if it is one of them and its name has the
marker: from now on it only serves one buffer. -/
def detach (draft : Draft) (c : ClassId) (accessor : FunctionId) (marker : String) : Draft :=
  let function := draft.forest.functionAt accessor
  if Text.contains function.name marker ∧ accessor ∈ draft.forest.methods c then
    let draft := draft.onForest fun forest =>
      { forest.removeMethod c accessor with detached := forest.detached ++ [(accessor, c)] }
    let className := draft.forest.className c
    draft.note .debug s!"Detached `{function.name}` from `{className}` as a size accessor"
  else draft

/-- The keyword to search with, and all that were considered. -/
structure Keyword where
  search : String
  tried : List String
  deriving DecidableEq

namespace Keyword

def derived (keyword : String) : Keyword where
  search := keyword
  tried := [keyword]

/-- Searches with the override instead, if there is one. -/
def overriddenBy (keyword : Keyword) (override? : Option String) : Keyword :=
  match override? with
  | some override => { search := override, tried := keyword.tried ++ [override] }
  | none => keyword

end Keyword

/-- The search for the accessor of a method's buffer came to nothing. -/
def missing (draft : Draft) (keyword : Keyword) (c : ClassId) (id : FunctionId) : Stopped where
  cause := .convention <| .missingSizeAccessor (draft.forest.qualifiedName c)
    (draft.forest.functionAt id).name keyword.tried
  draft

end Bindery.Sizing
