import Bindery.Failure
import Bindery.Journal
import Bindery.Model.Forest

/-!
# Drafts

A forest in the making, with the journal of what was done to it.  A pass is a function on drafts.
One that can fail stops at a draft that shows how far it came, so that whoever wants to can go on
from there.
-/

namespace Bindery

structure Draft where
  forest : Forest := .empty
  journal : Journal := {}
  deriving DecidableEq, Inhabited

/-- Why and where a pass gave up. -/
structure Stopped where
  cause : Failure
  draft : Draft
  deriving DecidableEq

namespace Draft

def note (draft : Draft) (level : Level) (text : String) : Draft :=
  { draft with journal := draft.journal.write level text }

def onForest (draft : Draft) (change : Forest → Forest) : Draft :=
  { draft with forest := change draft.forest }

def modifyFunction (draft : Draft) (id : FunctionId) (change : Function → Function) : Draft :=
  draft.onForest (·.modifyFunction id change)

def modifyClass (draft : Draft) (id : ClassId) (change : Class → Class) : Draft :=
  draft.onForest (·.modifyClass id change)

/-- Stores a function that nothing holds yet, and tells its id. -/
def addFunction (draft : Draft) (function : Function) : Draft × FunctionId :=
  (draft.onForest (·.addFunction function), draft.forest.functionCount)

/-- Stores functions that no class has taken yet. -/
def addFree (draft : Draft) (functions : List Function) : Draft :=
  functions.foldl (fun draft function =>
    draft.onForest fun forest =>
      { forest.addFunction function with free := forest.free ++ [forest.functionCount] }) draft

def requireClass (draft : Draft) (parent : Option ClassId) (name : String) : Draft × ClassId :=
  let (forest, id) := draft.forest.requireClass parent name
  let required : Draft := { draft with forest }
  if forest.hierarchy.size = draft.forest.hierarchy.size then (required, id)
  else (required.note .debug s!"Created class `{forest.qualifiedName id}`", id)

/-- Runs a step for every method of every class.  The classes are those at the start, and the
methods of a class are those it has when its turn comes. -/
def forEachMethod (draft : Draft) (step : ClassId → FunctionId → Draft → Draft) : Draft :=
  draft.forest.allClasses.foldl (fun draft c =>
    (draft.forest.methods c).foldl (fun draft id => step c id draft) draft) draft

/-- The same with a step that can give up. -/
def tryForEachMethod (draft : Draft)
    (step : ClassId → FunctionId → Draft → Except Stopped Draft) : Except Stopped Draft :=
  draft.forest.allClasses.foldlM (fun draft c =>
    (draft.forest.methods c).foldlM (fun draft id => step c id draft) draft) draft

def forEachClass (draft : Draft) (step : ClassId → Draft → Draft) : Draft :=
  draft.forest.allClasses.foldl (fun draft c => step c draft) draft

@[simp]
theorem forest_note (draft : Draft) (level : Level) (text : String) :
    (draft.note level text).forest = draft.forest :=
  rfl

@[simp]
theorem forest_onForest (draft : Draft) (change : Forest → Forest) :
    (draft.onForest change).forest = change draft.forest :=
  rfl

@[simp]
theorem forest_modifyFunction (draft : Draft) (id : FunctionId) (change : Function → Function) :
    (draft.modifyFunction id change).forest = draft.forest.modifyFunction id change :=
  rfl

@[simp]
theorem forest_modifyClass (draft : Draft) (id : ClassId) (change : Class → Class) :
    (draft.modifyClass id change).forest = draft.forest.modifyClass id change :=
  rfl

@[simp]
theorem forest_requireClass (draft : Draft) (parent : Option ClassId) (name : String) :
    (draft.requireClass parent name).1.forest = (draft.forest.requireClass parent name).1 := by
  unfold requireClass
  dsimp only
  split <;> rfl

@[simp]
theorem snd_requireClass (draft : Draft) (parent : Option ClassId) (name : String) :
    (draft.requireClass parent name).2 = (draft.forest.requireClass parent name).2 := by
  unfold requireClass
  dsimp only
  split <;> rfl

end Draft

end Bindery
