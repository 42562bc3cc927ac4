import Bindery.Draft
import Bindery.Intake

/-!
# Listeners

The typedef of a callback becomes a class with one method, which users implement to be called.
-/

namespace Bindery.Listeners

def isCallback (settings : Settings) (declaration : TypedefDeclaration) : Bool :=
  Text.endsWith declaration.name settings.markers.callbackSuffix

/-- Makes the listener of one callback, and adds it to those already made. -/
def extractOne (settings : Settings) (state : Draft × List ClassId)
    (declaration : TypedefDeclaration) : Draft × List ClassId :=
  let (draft, listeners) := state
  match declaration.asFunction? with
  | none =>
    (draft.note .warn s!"Callback typedef `{declaration.name}` is not a function type", listeners)
  | some signature =>
    let function := (signature.intake settings).rename settings.canonical.callback
    let (draft, id) := draft.addFunction function
    let (draft, c) := draft.requireClass none (Identifier.snakeToPascal declaration.name)
    let draft := draft.modifyClass c fun c => { c.addMethod id with isCallback := true }
    let className := draft.forest.className c
    (draft.note .debug s!"`{declaration.name}` becomes listener `{className}`", listeners ++ [c])

/-- Makes a listener class of every typedef that is named like a callback, and tells them in
order: `tox_friend_name_cb` becomes `ToxFriendNameCb`. -/
def extract (settings : Settings) (typedefs : List TypedefDeclaration) (draft : Draft) :
    Draft × List ClassId :=
  (typedefs.filter (isCallback settings)).foldl (extractOne settings) (draft, [])

end Bindery.Listeners
