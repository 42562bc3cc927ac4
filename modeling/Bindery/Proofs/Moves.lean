import Bindery.Accessors
import Bindery.Corrections
import Bindery.Grouping
import Bindery.Listeners
import Bindery.Sizing
import Bindery.Throwing
import Bindery.Proofs.Holding
import Mathlib.Data.Set.Insert
import Mathlib.Logic.Relation

/-!
# Moves

What the passes do to a forest comes down to few moves.  An edit rewrites one function and leaves
it where it is; every other move takes functions from one slot to another or adds classes.  The
relations below list the moves with the conditions under which they are made.  What every move
preserves holds in every state of every conversion, and a pass is described by the kinds of moves
it makes.
-/

namespace Bindery

/-- The ways in which a function is rewritten. -/
inductive EditKind where
  | convertError
  | makeAllocator
  | makeDeallocator
  | makeMethod
  | makeStatic
  | rename
  | refer
  | sizeReturn
  | promote
  | sizeParameter
  | pair
  | retype
  | dropSuccess
  deriving DecidableEq

/-- Whether an argument stays as it is or is a number handle that becomes a reference. -/
def Refers (settings : Settings) (before after : Argument) : Prop :=
  after = before ∨ ∃ parameter base,
    before = .plain parameter ∧
    Text.dropSuffix? parameter.name settings.markers.numberHandle = some base ∧
    after = .plain (NumberHandles.asReference base parameter)

/-- The ways in which a function gets another name: it loses what repeats the name of its class, it
becomes the accessor of a property, or the settings ask for it. -/
inductive Renames (settings : Settings) (name : String) : String → Prop
  | keep : Renames settings name name
  | strip {front bare : String} (strips : Text.dropPrefix? name front = some bare) :
      Renames settings name bare
  | getter : Renames settings name settings.canonical.getter
  | setter : Renames settings name settings.canonical.setter
  | configured {className renamed : String} {names : Renaming}
      (found : settings.renames.get? className = some names)
      (renames : names.functions.get? name = some renamed) : Renames settings name renamed

/-- The rewritings of one function. -/
inductive Edit (settings : Settings) : EditKind → Function → Function → Prop
  | convertError {function : Function} {position : Nat} (exception : String)
      (found : Throwing.errorPosition? settings function = some position) :
      Edit settings .convertError function
        { function.dropParameter position with throws := some exception }
  | makeAllocator (function : Function) :
      Edit settings .makeAllocator function
        { function with name := settings.canonical.allocator, isStatic := true }
  | makeDeallocator (function : Function) :
      Edit settings .makeDeallocator function
        { function.dropParameter 0 with name := settings.canonical.deallocator, isStatic := true }
  | makeMethod (function : Function) :
      Edit settings .makeMethod function (function.dropParameter 0)
  | makeStatic (function : Function) :
      Edit settings .makeStatic function { function with isStatic := true }
  | rename {function : Function} {name : String}
      (renames : Renames settings function.name name) :
      Edit settings .rename function (function.rename name)
  | refer {function : Function} {params : List Argument}
      (pointwise : List.Forall₂ (Refers settings) function.params params) :
      Edit settings .refer function { function with params }
  | sizeReturn {function : Function} (accessor : FunctionId)
      (needed : Sizing.needsReturnAccessor settings function = true) :
      Edit settings .sizeReturn function
        { function with
          ret := { function.ret with type := function.ret.type.withGetter accessor } }
  | promote {function : Function} {position : Nat} (accessor : FunctionId)
      (found : Sizing.filledBuffer? settings function = some position) :
      Edit settings .promote function (Sizing.promote position accessor function)
  | sizeParameter {function : Function} {position : Nat} (accessor : SizeAccessor)
      (unsized : function.params[position]?.any (·.isUnsizedBuffer) = true) :
      Edit settings .sizeParameter function
        (function.mapParameter position fun parameter =>
          { parameter with type := { parameter.type with sizeAccessor := some accessor } })
  | pair (function : Function) :
      Edit settings .pair function
        { function with
          params := Sizing.pairLengths settings.markers.length function.params }
  | retype (function : Function) (className : String) :
      Edit settings .retype function
        { function with
          ret := { function.ret with type := function.ret.type.asNumberHandle className } }
  | dropSuccess (function : Function) :
      Edit settings .dropSuccess function (Accessors.dropSuccess function)

inductive MoveKind where
  | register
  | intake
  | listen
  | edit (kind : EditKind)
  | require
  | allocate
  | deallocate
  | adopt
  | adoptAll
  | descend
  | detach
  | takeInitializer
  | addProperty
  | addSetter
  | renameProperties
  deriving DecidableEq

namespace MoveKind

/-- Whether moves of this kind add a function. -/
def adds : MoveKind → Bool
  | intake | listen => true
  | _ => false

/-- Whether moves of this kind fill a slot that may be filled already. -/
def evicts : MoveKind → Bool
  | allocate | deallocate | takeInitializer => true
  | _ => false

end MoveKind

namespace Forest

/-- A function leaves the free list. -/
def takeFree (forest : Forest) (id : FunctionId) : Forest :=
  { forest with free := forest.free.filter (· != id) }

/-- A method is taken off its class to tell a size. -/
def detach (forest : Forest) (c : ClassId) (id : FunctionId) : Forest :=
  { forest.removeMethod c id with detached := forest.detached ++ [(id, c)] }

/-- A method moves to the class of its first parameter, which it loses. -/
def descend (forest : Forest) (c inner : ClassId) (id : FunctionId) (type : ValueType) : Forest :=
  ((forest.modifyFunction id (·.dropParameter 0)).modifyClass inner
    (NumberHandles.wrapNumber type)).moveMethod c inner id

end Forest

/-- The changes of a forest that passes are made of. -/
inductive Move (settings : Settings) : MoveKind → Forest → Forest → Prop
  | register {forest : Forest} (enums : List Enumeration) :
      Move settings .register forest
        { forest with
          exceptions := forest.exceptions ++ Throwing.deriveExceptions settings enums
          enums := forest.enums ++ enums }
  | intake {forest : Forest} (function : Function) :
      Move settings .intake forest
        { forest.addFunction function with free := forest.free ++ [forest.functionCount] }
  | listen {forest : Forest} (function : Function) (name : String) :
      Move settings .listen forest
        (((forest.addFunction function).requireClass none name).1.modifyClass
          ((forest.addFunction function).requireClass none name).2
          fun c => { c.addMethod forest.functionCount with isCallback := true })
  | edit {forest : Forest} {kind : EditKind} {id : FunctionId} {change : Function → Function}
      (edited : Edit settings kind (forest.functionAt id) (change (forest.functionAt id))) :
      Move settings (.edit kind) forest (forest.modifyFunction id change)
  | require {forest : Forest} {parent : Option ClassId} (name : String)
      (below : ∀ outer ∈ parent, outer < forest.hierarchy.size) :
      Move settings .require forest (forest.requireClass parent name).1
  | allocate {forest : Forest} {c : ClassId} {id : FunctionId}
      (valid : c < forest.hierarchy.size) (isRoot : forest.hierarchy.parent? c = none)
      (vacant : (forest.classAt c).holdsObject = true) (isFree : id ∈ forest.free) :
      Move settings .allocate forest ((forest.modifyClass c (·.withAlloc id)).takeFree id)
  | deallocate {forest : Forest} {c : ClassId} {id : FunctionId}
      (valid : c < forest.hierarchy.size) (isRoot : forest.hierarchy.parent? c = none)
      (vacant : (forest.classAt c).holdsObject = true) (isFree : id ∈ forest.free) :
      Move settings .deallocate forest ((forest.modifyClass c (·.withDealloc id)).takeFree id)
  | adopt {forest : Forest} {c : ClassId} {id : FunctionId}
      (valid : c < forest.hierarchy.size) (isFree : id ∈ forest.free) :
      Move settings .adopt forest ((forest.modifyClass c (·.addMethod id)).takeFree id)
  | adoptAll {forest : Forest} {c : ClassId} (valid : c < forest.hierarchy.size) :
      Move settings .adoptAll forest
        { forest.modifyClass c fun c => { c with methods := c.methods ++ forest.free } with
          free := [] }
  | descend {forest : Forest} {c inner : ClassId} {id : FunctionId} {first : Parameter}
      {rest : List Argument} (isMethod : id ∈ forest.methods c)
      (valid : inner < forest.hierarchy.size)
      (isInner : forest.hierarchy.parent? inner = some c)
      (leading : (forest.functionAt id).params = .plain first :: rest)
      (marked : Text.endsWith first.name settings.markers.numberHandle = true) :
      Move settings .descend forest (forest.descend c inner id first.type)
  | detach {forest : Forest} {c : ClassId} {id : FunctionId} (isMethod : id ∈ forest.methods c) :
      Move settings .detach forest (forest.detach c id)
  | takeInitializer {forest : Forest} {c : ClassId} {id : FunctionId}
      (isMethod : id ∈ forest.methods c) :
      Move settings .takeInitializer forest
        (forest.modifyClass c fun c => { c.removeMethod id with defaultInit := some id })
  | addProperty {forest : Forest} {c : ClassId} {id : FunctionId}
      (isMethod : id ∈ forest.methods c) (name : String) (isStatic : Bool) :
      Move settings .addProperty forest
        (forest.modifyClass c fun c =>
          { c.removeMethod id with
            properties := c.properties ++ [{ name, getter := id, setter := none, isStatic }] })
  | addSetter {forest : Forest} {c : ClassId} {id : FunctionId} {front : List Property}
      {last : Property} (isMethod : id ∈ forest.methods c)
      (isLast : (forest.classAt c).properties = front ++ [last]) (vacant : last.setter = none) :
      Move settings .addSetter forest
        (forest.modifyClass c fun c =>
          { c.removeMethod id with properties := Accessors.setLast id c.properties })
  | renameProperties {forest : Forest} (c : ClassId) (names : Table String) :
      Move settings .renameProperties forest
        (forest.modifyClass c fun c =>
          { c with properties := c.properties.map (Corrections.renameProperty names) })

/-- Any number of moves of the given kinds. -/
def Moves (settings : Settings) (kinds : Set MoveKind) : Forest → Forest → Prop :=
  Relation.ReflTransGen fun before after => ∃ kind ∈ kinds, Move settings kind before after

namespace Accessors

theorem setLast_append (setter : FunctionId) (front : List Property) (last : Property) :
    setLast setter (front ++ [last]) = front ++ [{ last with setter := some setter }] := by
  rw [setLast, List.modify_eq_set_getElem?]
  simp

end Accessors

end Bindery
