import Bindery.Model.Class

/-!
# Documents

The form in which a finished forest is handed on.  A document is a tree: where the forest points
at a function, the document shows it.  A type shows its size accessor as a whole function, and that
function shows its types without accessors; the parameter `α` of the views of types, parameters and
functions is what they show for an accessor, and `Empty` where they show none.
-/

namespace Bindery

namespace View

structure TypeView (α : Type) where
  name : String
  mutable : Bool
  isArray : Bool
  actsAsString : Bool
  containsNumberHandle : Bool
  ctype : CType
  sizeGetter : Option α
  sizeSetter : Option α
  deriving DecidableEq

structure ParameterView (α : Type) where
  name : String
  type : TypeView α
  deriving DecidableEq

inductive ArgumentView (α : Type) where
  | plain (parameter : ParameterView α)
  | buffer (data length : ParameterView α)
  deriving DecidableEq

structure ReturnView (α : Type) where
  type : TypeView α
  replaced : Option (TypeView α)
  promotedFrom : Option Nat
  deriving DecidableEq

structure FunctionView (α : Type) where
  name : String
  cname : String
  ret : ReturnView α
  params : List (ArgumentView α)
  throws : Option String
  isStatic : Bool
  deriving DecidableEq

/-- The accessor of a buffer's size and where it is to be found. -/
structure AccessorView where
  /-- The qualified name of the class that holds the accessor, or held it before. -/
  className : Option String
  /-- The property whose getter or setter the accessor is. -/
  property : Option String
  /-- Whether it was taken off its class. -/
  isDetached : Bool
  function : FunctionView Empty
  deriving DecidableEq

inductive HandleView where
  | native (alloc dealloc : Option (FunctionView AccessorView))
  | number (type : TypeView AccessorView)
  | none
  deriving DecidableEq

structure PropertyView where
  name : String
  isStatic : Bool
  getter : FunctionView AccessorView
  setter : Option (FunctionView AccessorView)
  deriving DecidableEq

structure ClassView where
  name : String
  isCallback : Bool
  handle : HandleView
  defaultInit : Option (FunctionView AccessorView)
  properties : List PropertyView
  functions : List (FunctionView AccessorView)
  inner : List ClassView

end View

structure Document where
  irVersion : String
  libraryVersion : String
  enums : List Enumeration
  exceptions : List Exception
  classes : List View.ClassView

end Bindery
