import Bindery.Model.Type

/-!
# Functions

A function keeps its C name for good, while its name, parameters and return change as it finds
its place in a class.
-/

namespace Bindery

structure Parameter where
  name : String
  type : ValueType
  deriving DecidableEq, Inhabited

/-- One parameter as callers see it: a value, or a buffer that is passed to C as its data and its
length. -/
inductive Argument where
  | plain (parameter : Parameter)
  | buffer (data length : Parameter)
  deriving DecidableEq

namespace Argument

/-- The name, which for a buffer is that of its data. -/
def name : Argument → String
  | plain parameter => parameter.name
  | buffer data _ => data.name

/-- The type, which for a buffer is that of its data. -/
def type : Argument → ValueType
  | plain parameter => parameter.type
  | buffer data _ => data.type

def plain? : Argument → Option Parameter
  | plain parameter => some parameter
  | buffer _ _ => none

/-- The C parameters that the argument stands for, in order. -/
def flatten : Argument → List Parameter
  | plain parameter => [parameter]
  | buffer data length => [data, length]

/-- Changes a plain parameter and leaves a buffer as it is. -/
def mapPlain (change : Parameter → Parameter) : Argument → Argument
  | plain parameter => plain (change parameter)
  | buffer data length => buffer data length

def isPlainArray (argument : Argument) : Bool :=
  argument.plain?.any (·.type.isArray)

/-- Whether this is a plain array whose size is still unknown. -/
def isUnsizedBuffer (argument : Argument) : Bool :=
  argument.plain?.any fun parameter =>
    parameter.type.isArray && parameter.type.sizeAccessor.isNone

end Argument

structure Return where
  type : ValueType
  /-- The C return type, where another type has taken its place. -/
  replaced : Option ValueType := none
  /-- The position among the parameters that the value was promoted from. -/
  promotedFrom : Option Nat := none
  deriving DecidableEq, Inhabited

namespace Return

/-- Puts `type` in the place of the present type, which is kept as the replaced one. -/
def replaceBy (ret : Return) (type : ValueType) : Return :=
  { ret with type, replaced := some ret.type }

end Return

structure Function where
  name : String
  cname : String
  ret : Return
  params : List Argument
  /-- The name of the exception that reports failure. -/
  throws : Option String := none
  isStatic : Bool := false
  deriving DecidableEq, Inhabited

namespace Function

def plainParameters (function : Function) : List Parameter :=
  function.params.filterMap Argument.plain?

def rename (function : Function) (name : String) : Function :=
  { function with name }

/-- Takes away the parameter at a position. -/
def dropParameter (function : Function) (position : Nat) : Function :=
  { function with params := function.params.eraseIdx position }

/-- Changes the plain parameter at a position. -/
def mapParameter (function : Function) (position : Nat) (change : Parameter → Parameter) :
    Function :=
  { function with params := function.params.modify position (·.mapPlain change) }

/-- How much there is left to name and to pass: a count of the characters of its name and of its
parameters with their names. -/
def weight (function : Function) : Nat :=
  function.params.foldr (fun argument rest => argument.name.length + 1 + rest)
    function.name.length

end Function

end Bindery
