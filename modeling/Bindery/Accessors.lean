import Bindery.Pass
import Bindery.Settings.Basic
import Bindery.Text.Search

/-!
# Properties from accessors

Getters and setters that belong together are folded into properties, and so are static methods
without parameters and the methods that the settings list.
-/

namespace Bindery.Accessors

/-- Makes a method the getter of a new property of its class. -/
def addProperty (settings : Settings) (draft : Draft) (c : ClassId) (getter : FunctionId)
    (name : String) (isStatic : Bool) : Draft :=
  let draft := draft.modifyFunction getter (·.rename settings.canonical.getter)
  let draft := draft.onForest (·.removeMethod c getter)
  let className := draft.forest.className c
  let draft := draft.note .debug s!"`{className}` gains property `{name}`"
  draft.modifyClass c fun c =>
    { c with properties := c.properties ++ [{ name, getter, setter := none, isStatic }] }

/-- Gives the last property of a class its setter. -/
def setLast (setter : FunctionId) (properties : List Property) : List Property :=
  properties.modify (properties.length - 1) fun property =>
    { property with setter := some setter }

/-- Makes a method the setter of the property that was added last. -/
def addSetter (settings : Settings) (draft : Draft) (c : ClassId) (setter : FunctionId) : Draft :=
  let draft := draft.modifyFunction setter (·.rename settings.canonical.setter)
  draft.modifyClass c fun c =>
    { c.removeMethod setter with properties := setLast setter c.properties }

def foldAccessor (settings : Settings) (c : ClassId) (id : FunctionId) (draft : Draft) : Draft :=
  let function := draft.forest.functionAt id
  let marker := settings.markers.getter
  if !Text.contains function.name marker || !function.params.isEmpty then draft
  else
    let propertyName := Text.replaceAll function.name marker ""
    let setterName := Text.replaceAll function.name marker settings.markers.setter
    let draft := addProperty settings draft c id propertyName false
    match draft.forest.findMethod? c setterName with
    | none => draft
    | some setter =>
      if (draft.forest.functionAt setter).params.length = 1 then addSetter settings draft c setter
      else draft

/-- Folds every getter `get_x` without parameters into a property `x`, with the method `set_x` of
one parameter as its setter, if there is one. -/
def foldAccessors (settings : Settings) (draft : Draft) : Draft :=
  draft.forEachMethod (foldAccessor settings)

/-- A method that throws tells success by not throwing, so that a truth value it returns says
nothing more. -/
def dropSuccess (function : Function) : Function :=
  if function.throws.isSome && function.ret.type.isScalar .bool then
    { function with ret := function.ret.replaceBy .void }
  else function

def dropSuccessReturns (draft : Draft) : Draft :=
  draft.forEachMethod fun _ id draft => draft.modifyFunction id dropSuccess

def foldStatic (settings : Settings) (c : ClassId) (id : FunctionId) (draft : Draft) : Draft :=
  let function := draft.forest.functionAt id
  if function.isStatic && function.params.isEmpty then
    addProperty settings draft c id (Text.replaceAll function.name settings.markers.getter "") true
  else draft

/-- Folds every static method without parameters into a static property. -/
def foldStatics (settings : Settings) (draft : Draft) : Draft :=
  draft.forEachMethod (foldStatic settings)

def foldForced (settings : Settings) (c : ClassId) (id : FunctionId) (draft : Draft) : Draft :=
  let function := draft.forest.functionAt id
  if settings.forcedProperties.contains function.name then
    addProperty settings draft c id function.name false
  else draft

/-- Folds the configured methods into properties of their own name. -/
def foldForcedProperties (settings : Settings) (draft : Draft) : Draft :=
  draft.forEachMethod (foldForced settings)

def passes (settings : Settings) : List Pass :=
  [ Pass.ofTotal (foldAccessors settings),
    Pass.ofTotal dropSuccessReturns,
    Pass.ofTotal (foldStatics settings),
    Pass.ofTotal (foldForcedProperties settings) ]

def formProperties (settings : Settings) : Pass :=
  Pass.run (passes settings)

end Bindery.Accessors
