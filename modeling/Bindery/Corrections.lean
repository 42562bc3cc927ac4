import Bindery.Draft
import Bindery.Settings.Basic

/-!
# Corrections

What the names do not tell and the settings have to say: which functions return number handles,
which methods initialize their class, and what should be called something else.
-/

namespace Bindery.Corrections

/-- Makes the return of the configured functions a reference to the class of its handle. -/
def retypeHandleReturns (settings : Settings) (draft : Draft) : Draft :=
  draft.forEachMethod fun _ id draft =>
    draft.modifyFunction id fun function =>
      match settings.numberHandleReturns.get? function.name with
      | some className =>
        { function with
          ret := { function.ret with type := function.ret.type.asNumberHandle className } }
      | none => function

/-- Moves the configured method of a class, if it is there, to the slot of default
initialization. -/
def extractInitializer (settings : Settings) (c : ClassId) (draft : Draft) : Draft :=
  let className := draft.forest.className c
  match settings.defaultInitializers.get? className with
  | none => draft
  | some name =>
    match draft.forest.findMethod? c name with
    | none => draft
    | some id =>
      let draft := draft.modifyClass c fun c => { c.removeMethod id with defaultInit := some id }
      draft.note .debug s!"`{name}` default-initializes `{className}`"

def extractInitializers (settings : Settings) (draft : Draft) : Draft :=
  draft.forEachClass (extractInitializer settings)

def renameProperty (names : Table String) (property : Property) : Property :=
  { property with name := (names.get? property.name).getD property.name }

def renameMethod (names : Table String) (draft : Draft) (id : FunctionId) : Draft :=
  let name := (draft.forest.functionAt id).name
  match names.get? name with
  | some renamed =>
    (draft.note .debug s!"Renamed `{name}` to `{renamed}`").modifyFunction id (·.rename renamed)
  | none => draft

def renameMembers (settings : Settings) (c : ClassId) (draft : Draft) : Draft :=
  match settings.renames.get? (draft.forest.className c) with
  | none => draft
  | some names =>
    let draft := draft.modifyClass c fun c =>
      { c with properties := c.properties.map (renameProperty names.properties) }
    (draft.forest.methods c).foldl (renameMethod names.functions) draft

/-- Gives the members of classes their configured names. -/
def applyRenames (settings : Settings) (draft : Draft) : Draft :=
  draft.forEachClass (renameMembers settings)

end Bindery.Corrections
