import Bindery.Draft
import Bindery.Identifier
import Bindery.Settings.Basic
import Bindery.Text.Search

/-!
# Hoisting functions into classes

Functions that make, take or destroy a known struct go to the class of that struct, and whatever
is left over goes to the root class of its header.  Afterwards nothing is free.
-/

namespace Bindery.Hoisting

def isKnownStruct (structs : List String) (typeName : String) : Bool :=
  structs.any fun known =>
    Identifier.withoutStruct known == Identifier.withoutStruct typeName

/-- A function leaves the free list. -/
def takeFree (draft : Draft) (id : FunctionId) : Draft :=
  draft.onForest fun forest => { forest with free := forest.free.filter (· != id) }

/-- Reports a function that would fill a slot of a class that wraps a number. -/
def noteLeftFree (draft : Draft) (className function : String) : Draft :=
  draft.note .warn s!"`{className}` wraps a numeric handle; leaving `{function}` free"

/-- A function is an allocator if it returns a known struct and is named like one. -/
def isAllocator (structs : List String) (settings : Settings) (function : Function) : Bool :=
  isKnownStruct structs function.ret.type.ctype.name &&
    Text.contains function.name settings.markers.allocator

def hoistAllocator (structs : List String) (settings : Settings) (draft : Draft)
    (id : FunctionId) : Draft :=
  let function := draft.forest.functionAt id
  if !isAllocator structs settings function then draft
  else
    let className := function.ret.type.name
    let (draft, c) := draft.requireClass none className
    if !(draft.forest.classAt c).holdsObject then noteLeftFree draft className function.name
    else
      let draft := draft.modifyClass c (·.withAlloc id)
      let draft := draft.note .debug s!"`{function.name}` allocates `{className}`"
      let draft := draft.modifyFunction id fun function =>
        { function with name := settings.canonical.allocator, isStatic := true }
      takeFree draft id

def hoistAllocators (structs : List String) (settings : Settings) (draft : Draft) : Draft :=
  draft.forest.free.foldl (hoistAllocator structs settings) draft

/-- The class of the known struct that a function takes first. -/
def structParameter? (structs : List String) (function : Function) : Option String :=
  match function.params.head? with
  | some (.plain first) =>
    if isKnownStruct structs first.type.ctype.name then some first.type.name else none
  | _ => none

def isDeallocatorName (settings : Settings) (name : String) : Bool :=
  settings.markers.deallocators.any (Text.contains name)

def hoistStructFunction (structs : List String) (settings : Settings) (draft : Draft)
    (id : FunctionId) : Draft :=
  let function := draft.forest.functionAt id
  match structParameter? structs function with
  | none => draft
  | some className =>
    let (draft, c) := draft.requireClass none className
    if isDeallocatorName settings function.name then
      if !(draft.forest.classAt c).holdsObject then noteLeftFree draft className function.name
      else
        let draft := draft.modifyClass c (·.withDealloc id)
        let draft := draft.note .debug s!"`{function.name}` deallocates `{className}`"
        let draft := draft.modifyFunction id fun function =>
          { function.dropParameter 0 with
            name := settings.canonical.deallocator
            isStatic := true }
        takeFree draft id
    else
      let draft := draft.modifyFunction id (·.dropParameter 0)
      takeFree (draft.modifyClass c (·.addMethod id)) id

/-- Functions that take a known struct first become deallocators and methods of its class. -/
def hoistStructFunctions (structs : List String) (settings : Settings) (draft : Draft) : Draft :=
  draft.forest.free.foldl (hoistStructFunction structs settings) draft

/-- Everything that is still free becomes a static method of the root class. -/
def hoistLeftovers (rootClass : String) (draft : Draft) : Draft :=
  let leftovers := draft.forest.free
  let draft := draft.onForest fun forest => { forest with free := [] }
  let draft := leftovers.foldl (fun draft id =>
    draft.modifyFunction id fun function => { function with isStatic := true }) draft
  let count := leftovers.length
  let draft := draft.note .debug s!"{count} leftover functions go to `{rootClass}`"
  let (draft, root) := draft.requireClass none rootClass
  draft.modifyClass root fun c => { c with methods := c.methods ++ leftovers }

/-- The beginning of a method's name that only repeats the name of its class. -/
def classPrefix (className : String) : String :=
  Identifier.pascalToSnake className ++ "_"

def stripPrefix (className : String) (function : Function) : Function :=
  function.rename ((Text.dropPrefix? function.name (classPrefix className)).getD function.name)

/-- Takes the class name off the methods of the given classes: on `ToxOptions`, the method
`tox_options_get_udp_enabled` becomes `get_udp_enabled`. -/
def stripClassPrefixes (classes : List ClassId) (draft : Draft) : Draft :=
  classes.foldl (fun draft c =>
    (draft.forest.methods c).foldl (fun draft id =>
      draft.modifyFunction id (stripPrefix (draft.forest.className c))) draft) draft

end Bindery.Hoisting
