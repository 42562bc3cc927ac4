import Bindery.Model.Forest

/-!
# Ownership

Who holds which function.  In a finished forest every function is held in exactly one slot; the
functions of which this fails are the violations.
-/

namespace Bindery

/-- The places that can hold a function. -/
inductive Slot where
  | free
  | method (c : ClassId)
  | getter (c : ClassId) (property : String)
  | setter (c : ClassId) (property : String)
  | alloc (c : ClassId)
  | dealloc (c : ClassId)
  | defaultInit (c : ClassId)
  /-- Taken off the class to tell a size and nothing else. -/
  | detached (c : ClassId)
  deriving DecidableEq

namespace Handle

/-- The functions that a handle holds for the class. -/
def owners (handle : Handle) (c : ClassId) : List (FunctionId × Slot) :=
  match handle with
  | .native alloc dealloc =>
    (alloc.toList.map (·, .alloc c)) ++ (dealloc.toList.map (·, .dealloc c))
  | .number _ => []

end Handle

namespace Property

def owners (property : Property) (c : ClassId) : List (FunctionId × Slot) :=
  (property.getter, .getter c property.name) ::
    property.setter.toList.map (·, .setter c property.name)

end Property

namespace Class

def owners (content : Class) (c : ClassId) : List (FunctionId × Slot) :=
  content.handle.toList.flatMap (·.owners c)
    ++ content.defaultInit.toList.map (·, .defaultInit c)
    ++ content.properties.flatMap (·.owners c)
    ++ content.methods.map (·, .method c)

end Class

namespace Forest

/-- Every function that is held, with the slot that holds it: the free list, the detached
functions, and then class after class. -/
def owners (forest : Forest) : List (FunctionId × Slot) :=
  forest.free.map (·, .free)
    ++ forest.detached.map (fun (id, c) => (id, .detached c))
    ++ forest.allClasses.flatMap fun c => (forest.classAt c).owners c

/-- The first slot that holds the function. -/
def ownerOf? (forest : Forest) (id : FunctionId) : Option Slot :=
  forest.owners.lookup id

/-- The functions that are held by no slot, or by more than one. -/
def ownershipViolations (forest : Forest) : List FunctionId :=
  let held := forest.owners.map (·.1)
  (List.range forest.functionCount).filter fun id => held.count id != 1

end Forest

end Bindery
