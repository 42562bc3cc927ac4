/-!
# Types of values

The types that parameters and returns have: a scalar or a class, with what C said about it and,
for a buffer, where its size comes from.
-/

namespace Bindery

/-- Functions are addressed by their position in the forest. -/
abbrev FunctionId := Nat

/-- Classes are addressed by their position in the forest. -/
abbrev ClassId := Nat

/-- The scalar types that C primitives stand for. -/
inductive Scalar where
  | byte
  | ushort
  | uint
  | ulong
  | char
  | bool
  | void
  deriving DecidableEq, Inhabited

namespace Scalar

def ofCName? (name : String) : Option Scalar :=
  if name = "uint8_t" then some byte
  else if name = "uint16_t" then some ushort
  else if name = "uint32_t" then some uint
  else if name = "uint64_t" ∨ name = "size_t" then some ulong
  else if name = "char" then some char
  else if name = "bool" then some bool
  else if name = "void" then some void
  else none

def name : Scalar → String
  | byte => "byte"
  | ushort => "ushort"
  | uint => "uint"
  | ulong => "ulong"
  | char => "char"
  | bool => "bool"
  | void => "void"

end Scalar

inductive TypeKind where
  | scalar (kind : Scalar)
  /-- A struct, enum or typedef, by its class name. -/
  | reference (className : String)
  deriving DecidableEq

namespace TypeKind

def name : TypeKind → String
  | scalar kind => kind.name
  | reference className => className

end TypeKind

/-- The C spelling that a type came from. -/
structure CType where
  name : String
  isPointer : Bool
  deriving DecidableEq

/-- The function that tells the size of a buffer, by the kind of method it was found for. -/
inductive SizeAccessor where
  | getter (function : FunctionId)
  | setter (function : FunctionId)
  deriving DecidableEq

namespace SizeAccessor

def function : SizeAccessor → FunctionId
  | getter id => id
  | setter id => id

end SizeAccessor

structure ValueType where
  kind : TypeKind
  mutable : Bool
  /-- A buffer of any length rather than a single value. -/
  isArray : Bool
  ctype : CType
  actsAsString : Bool := false
  containsNumberHandle : Bool := false
  sizeAccessor : Option SizeAccessor := none
  deriving DecidableEq

namespace ValueType

def void : ValueType where
  kind := .scalar .void
  mutable := true
  isArray := false
  ctype := { name := "void", isPointer := false }

instance : Inhabited ValueType := ⟨void⟩

def name (type : ValueType) : String :=
  type.kind.name

def isScalar (type : ValueType) (scalar : Scalar) : Bool :=
  type.kind == .scalar scalar

/-- Arrays of `char` carry their own terminator and need no size. -/
def isText (type : ValueType) : Bool :=
  type.isScalar .char && type.isArray

def sizeGetter? (type : ValueType) : Option FunctionId :=
  match type.sizeAccessor with
  | some (.getter id) => some id
  | _ => none

def sizeSetter? (type : ValueType) : Option FunctionId :=
  match type.sizeAccessor with
  | some (.setter id) => some id
  | _ => none

/-- The type as a reference to the class that wraps a number handle. -/
def asNumberHandle (type : ValueType) (className : String) : ValueType :=
  { type with kind := .reference className, containsNumberHandle := true }

def withGetter (type : ValueType) (function : FunctionId) : ValueType :=
  { type with sizeAccessor := some (.getter function) }

def withSetter (type : ValueType) (function : FunctionId) : ValueType :=
  { type with sizeAccessor := some (.setter function) }

end ValueType

end Bindery
