import Bindery.Model.Class
import Bindery.Model.Hierarchy

/-!
# Forests

Everything a conversion works on: all functions, all classes, and who holds what.  Functions are
stored once and addressed by number, so moving one between the free list, a class and a property
moves its number only, and a size accessor points at a function without holding it.

An id that is not in the forest answers with an empty function or class; every operation that
stores an id takes it from the forest.
-/

namespace Bindery

structure Forest where
  functions : List Function
  hierarchy : Hierarchy
  /-- What each class holds, in the order of the hierarchy. -/
  classes : List Class
  classes_length : classes.length = hierarchy.size
  /-- Functions that no class has taken yet. -/
  free : List FunctionId
  /-- Functions taken off a class to serve as size accessors only. -/
  detached : List (FunctionId × ClassId)
  enums : List Enumeration
  exceptions : List Exception
  deriving DecidableEq

namespace Forest

def empty : Forest where
  functions := []
  hierarchy := .empty
  classes := []
  classes_length := rfl
  free := []
  detached := []
  enums := []
  exceptions := []

instance : Inhabited Forest := ⟨empty⟩

def functionCount (forest : Forest) : Nat :=
  forest.functions.length

def functionAt (forest : Forest) (id : FunctionId) : Function :=
  forest.functions[id]?.getD default

def classAt (forest : Forest) (id : ClassId) : Class :=
  forest.classes[id]?.getD default

def className (forest : Forest) (id : ClassId) : String :=
  forest.hierarchy.name id

def qualifiedName (forest : Forest) (id : ClassId) : String :=
  forest.hierarchy.qualifiedName id

/-- The classes in the order in which passes visit them. -/
def allClasses (forest : Forest) : List ClassId :=
  forest.hierarchy.all

def methods (forest : Forest) (id : ClassId) : List FunctionId :=
  (forest.classAt id).methods

/-- Stores a function that nothing holds yet.  Its id is the number of functions before it. -/
def addFunction (forest : Forest) (function : Function) : Forest :=
  { forest with functions := forest.functions ++ [function] }

def modifyFunction (forest : Forest) (id : FunctionId) (change : Function → Function) : Forest :=
  { forest with functions := forest.functions.modify id change }

def modifyClass (forest : Forest) (id : ClassId) (change : Class → Class) : Forest :=
  { forest with
    classes := forest.classes.modify id change
    classes_length := by simp [forest.classes_length] }

/-- The class of a name below `parent`, or at the top, which is created if it is not there. -/
def requireClass (forest : Forest) (parent : Option ClassId) (name : String) :
    Forest × ClassId :=
  let required := forest.hierarchy.require parent name
  ({ forest with
      hierarchy := required.1
      classes := forest.classes ++ List.replicate (required.1.size - forest.hierarchy.size) {}
      classes_length := by
        have grows := forest.hierarchy.size_le_size_require parent name
        simp only [List.length_append, List.length_replicate, forest.classes_length]
        exact Nat.add_sub_cancel' grows },
    required.2)

def findMethod? (forest : Forest) (c : ClassId) (name : String) : Option FunctionId :=
  (forest.methods c).find? fun id => (forest.functionAt id).name == name

def removeMethod (forest : Forest) (c : ClassId) (id : FunctionId) : Forest :=
  forest.modifyClass c (·.removeMethod id)

/-- Moves a method from one class to the end of another.  What is no method of `source` stays
where it is. -/
def moveMethod (forest : Forest) (source target : ClassId) (id : FunctionId) : Forest :=
  if id ∈ forest.methods source then
    (forest.removeMethod source id).modifyClass target (·.addMethod id)
  else forest

/-! ## What the operations change -/

@[simp]
theorem functionCount_modifyFunction (forest : Forest) (id : FunctionId)
    (change : Function → Function) :
    (forest.modifyFunction id change).functionCount = forest.functionCount := by
  simp [functionCount, modifyFunction]

@[simp]
theorem functionCount_addFunction (forest : Forest) (function : Function) :
    (forest.addFunction function).functionCount = forest.functionCount + 1 := by
  simp [functionCount, addFunction]

theorem functionAt_modifyFunction_self {forest : Forest} {id : FunctionId}
    {change : Function → Function} (present : id < forest.functionCount) :
    (forest.modifyFunction id change).functionAt id = change (forest.functionAt id) := by
  have bound : id < forest.functions.length := present
  simp [functionAt, modifyFunction, bound]

theorem functionAt_modifyFunction_of_ne {forest : Forest} {id other : FunctionId}
    {change : Function → Function} (different : other ≠ id) :
    (forest.modifyFunction id change).functionAt other = forest.functionAt other := by
  simp [functionAt, modifyFunction, Ne.symm different]

theorem functionAt_addFunction_of_lt {forest : Forest} {id : FunctionId} {function : Function}
    (present : id < forest.functionCount) :
    (forest.addFunction function).functionAt id = forest.functionAt id := by
  have bound : id < forest.functions.length := present
  simp [functionAt, addFunction, List.getElem?_append_left bound]

theorem classAt_modifyClass_self {forest : Forest} {id : ClassId} {change : Class → Class}
    (present : id < forest.hierarchy.size) :
    (forest.modifyClass id change).classAt id = change (forest.classAt id) := by
  have bound : id < forest.classes.length := by
    rw [forest.classes_length]
    exact present
  simp [classAt, modifyClass, bound]

theorem classAt_modifyClass_of_ne {forest : Forest} {id other : ClassId}
    {change : Class → Class} (different : other ≠ id) :
    (forest.modifyClass id change).classAt other = forest.classAt other := by
  simp [classAt, modifyClass, Ne.symm different]

@[simp]
theorem classAt_modifyFunction (forest : Forest) (id : FunctionId)
    (change : Function → Function) (c : ClassId) :
    (forest.modifyFunction id change).classAt c = forest.classAt c :=
  rfl

@[simp]
theorem functionAt_modifyClass (forest : Forest) (c : ClassId) (change : Class → Class)
    (id : FunctionId) :
    (forest.modifyClass c change).functionAt id = forest.functionAt id :=
  rfl

/-- A class that has just been asked for holds nothing, and the others keep what they hold. -/
theorem classAt_requireClass (forest : Forest) (parent : Option ClassId) (name : String)
    (c : ClassId) :
    (forest.requireClass parent name).1.classAt c = forest.classAt c := by
  simp only [classAt, requireClass]
  rcases Nat.lt_or_ge c forest.classes.length with old | new
  · rw [List.getElem?_append_left old]
  · rw [List.getElem?_append_right new, List.getElem?_eq_none new, List.getElem?_replicate]
    split <;> rfl

@[simp]
theorem functionAt_requireClass (forest : Forest) (parent : Option ClassId) (name : String)
    (id : FunctionId) :
    (forest.requireClass parent name).1.functionAt id = forest.functionAt id :=
  rfl

end Forest

end Bindery
