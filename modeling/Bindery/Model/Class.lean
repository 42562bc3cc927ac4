import Bindery.Model.Function

/-!
# Classes

What a class holds, and the enums and exceptions beside the classes.  Where a class stands and
what it is called belongs to the hierarchy of classes.
-/

namespace Bindery

structure Enumerator where
  name : String
  cname : String
  ordinal : Int64
  deriving DecidableEq

structure Enumeration where
  name : String
  cname : String
  values : List Enumerator
  deriving DecidableEq

/-- An exception and the error enum it was derived from. -/
structure Exception where
  name : String
  enumName : String
  deriving DecidableEq

/-- A getter and perhaps a setter, seen as one named value. -/
structure Property where
  name : String
  getter : FunctionId
  setter : Option FunctionId
  isStatic : Bool
  deriving DecidableEq

/-- What an instance holds on to: a C object with its allocator and deallocator, or a number. -/
inductive Handle where
  | native (alloc dealloc : Option FunctionId)
  | number (type : ValueType)
  deriving DecidableEq

structure Class where
  isCallback : Bool := false
  handle : Option Handle := none
  defaultInit : Option FunctionId := none
  properties : List Property := []
  methods : List FunctionId := []
  deriving DecidableEq, Inhabited

namespace Class

/-- Gives a class without a handle the handle of a C object that nothing is known of yet. -/
def ensureHandle (c : Class) : Class :=
  { c with handle := some (c.handle.getD (.native none none)) }

/-- Whether the class can hold a C object: it does so already, or has no handle. -/
def holdsObject (c : Class) : Bool :=
  match c.handle with
  | some (.number _) => false
  | _ => true

/-- Sets the allocator of a class that can hold a C object. -/
def withAlloc (c : Class) (id : FunctionId) : Class :=
  match c.handle with
  | none => { c with handle := some (.native (some id) none) }
  | some (.native _ dealloc) => { c with handle := some (.native (some id) dealloc) }
  | some (.number _) => c

/-- Sets the deallocator of a class that can hold a C object. -/
def withDealloc (c : Class) (id : FunctionId) : Class :=
  match c.handle with
  | none => { c with handle := some (.native none (some id)) }
  | some (.native alloc _) => { c with handle := some (.native alloc (some id)) }
  | some (.number _) => c

def addMethod (c : Class) (id : FunctionId) : Class :=
  { c with methods := c.methods ++ [id] }

def removeMethod (c : Class) (id : FunctionId) : Class :=
  { c with methods := c.methods.erase id }

def property? (c : Class) (name : String) : Option Property :=
  c.properties.find? (·.name == name)

end Class

end Bindery
