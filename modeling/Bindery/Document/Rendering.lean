import Bindery.Document.Basic
import Bindery.Model.Ownership
import Bindery.Settings.Basic

/-!
# Rendering a forest

Which part of the forest each part of the document shows.
-/

namespace Bindery

namespace ValueType

open View

/-- The type, with what `show?` makes of its size accessor. -/
def view {α : Type} (show? : FunctionId → Option α) (type : ValueType) : TypeView α where
  name := type.name
  mutable := type.mutable
  isArray := type.isArray
  actsAsString := type.actsAsString
  containsNumberHandle := type.containsNumberHandle
  ctype := type.ctype
  sizeGetter := type.sizeGetter?.bind show?
  sizeSetter := type.sizeSetter?.bind show?

end ValueType

namespace Function

open View

variable {α : Type}

def viewParameter (show? : FunctionId → Option α) (parameter : Parameter) : ParameterView α where
  name := parameter.name
  type := parameter.type.view show?

def viewArgument (show? : FunctionId → Option α) : Argument → ArgumentView α
  | .plain parameter => .plain (viewParameter show? parameter)
  | .buffer data length => .buffer (viewParameter show? data) (viewParameter show? length)

def view (show? : FunctionId → Option α) (function : Function) : FunctionView α where
  name := function.name
  cname := function.cname
  ret := {
    type := function.ret.type.view show?
    replaced := function.ret.replaced.map (·.view show?)
    promotedFrom := function.ret.promotedFrom }
  params := function.params.map (viewArgument show?)
  throws := function.throws
  isStatic := function.isStatic

end Function

namespace Forest

open View

/-- A function without the accessors of its types. -/
def bareView (forest : Forest) (id : FunctionId) : FunctionView Empty :=
  (forest.functionAt id).view fun _ => none

def accessorView (forest : Forest) (id : FunctionId) : AccessorView :=
  let function := forest.bareView id
  match forest.ownerOf? id with
  | some (.detached c) =>
    { className := some (forest.qualifiedName c), property := none, isDetached := true, function }
  | some (.getter c property) | some (.setter c property) =>
    { className := some (forest.qualifiedName c), property := some property, isDetached := false,
      function }
  | some (.method c) | some (.alloc c) | some (.dealloc c) | some (.defaultInit c) =>
    { className := some (forest.qualifiedName c), property := none, isDetached := false,
      function }
  | some .free | none => { className := none, property := none, isDetached := false, function }

def functionView (forest : Forest) (id : FunctionId) : FunctionView AccessorView :=
  (forest.functionAt id).view fun accessor => some (forest.accessorView accessor)

def handleView (forest : Forest) : Option Handle → HandleView
  | some (.native alloc dealloc) =>
    .native (alloc.map forest.functionView) (dealloc.map forest.functionView)
  | some (.number type) => .number (type.view fun accessor => some (forest.accessorView accessor))
  | none => .none

def propertyView (forest : Forest) (property : Property) : PropertyView where
  name := property.name
  isStatic := property.isStatic
  getter := forest.functionView property.getter
  setter := property.setter.map forest.functionView

/-- A class with the classes in it, down to the given depth. -/
def classView (forest : Forest) (depth : Nat) (c : ClassId) : ClassView where
  name := forest.className c
  isCallback := (forest.classAt c).isCallback
  handle := forest.handleView (forest.classAt c).handle
  defaultInit := (forest.classAt c).defaultInit.map forest.functionView
  properties := (forest.classAt c).properties.map forest.propertyView
  functions := (forest.classAt c).methods.map forest.functionView
  inner :=
    match depth with
    | 0 => []
    | depth + 1 => (forest.hierarchy.inner c).map (forest.classView depth)

/-- The document that shows the forest.  No class lies deeper than there are classes. -/
def document (forest : Forest) (settings : Settings) : Document where
  irVersion := settings.irVersion
  libraryVersion := settings.libraryVersion
  enums := forest.enums
  exceptions := forest.exceptions
  classes := forest.hierarchy.roots.map (forest.classView forest.hierarchy.size)

end Forest

end Bindery
