import Bindery.Sizing.Search

/-!
# Buffers that are passed

A parameter that is a buffer only learns where its size comes from.  If nothing tells it, the
parameter stays as it is.
-/

namespace Bindery.Sizing

/-- The buffer of a setter, which is the first whose size is unknown, in a method that is named
like a setter and returns nothing. -/
def setBuffer? (settings : Settings) (function : Function) : Option Nat :=
  if Text.contains function.name settings.markers.setter && function.ret.type.isScalar .void then
    function.params.findIdx? (·.isUnsizedBuffer)
  else none

/-- The keyword for a setter. -/
def setterKeyword (settings : Settings) (function : Function) : String :=
  let derived := Text.afterFirst function.name settings.markers.setter
  (settings.keywords.setters.get? derived).getD derived

/-- Records where the size of a parameter comes from. -/
def attach (draft : Draft) (id : FunctionId) (position : Nat)
    (change : ValueType → ValueType) : Draft :=
  draft.modifyFunction id (·.mapParameter position fun parameter =>
    { parameter with type := change parameter.type })

def resolveSetter (settings : Settings) (c : ClassId) (id : FunctionId) (draft : Draft) : Draft :=
  let function := draft.forest.functionAt id
  match setBuffer? settings function with
  | none => draft
  | some position =>
    if id ∉ draft.forest.methods c then draft
    else
      let keyword := setterKeyword settings function
      match search settings draft keyword c with
      | (draft, none) =>
        draft.note .debug
          s!"No size accessor for setter `{function.name}` (keyword `{keyword}`)"
      | (draft, some accessor) =>
        let draft := detach draft c accessor settings.markers.setter
        attach draft id position (·.withSetter accessor)

/-- Sizes the buffers of setters where an accessor is found. -/
def resolveSetters (settings : Settings) (draft : Draft) : Draft :=
  draft.forEachMethod (resolveSetter settings)

/-- Sizes a buffer with the accessor for a keyword, if there is one. -/
def resolveBuffer (settings : Settings) (c : ClassId) (id : FunctionId) (position : Nat)
    (keyword : String) (draft : Draft) : Draft :=
  match search settings draft keyword c with
  | (draft, none) => draft
  | (draft, some accessor) => attach draft id position (·.withGetter accessor)

def resolveOverride (settings : Settings) (c : ClassId) (id : FunctionId) (draft : Draft) :
    Draft :=
  let function := draft.forest.functionAt id
  match settings.keywords.parameters.get? function.name,
      function.params.findIdx? (·.isUnsizedBuffer) with
  | some keyword, some position => resolveBuffer settings c id position keyword draft
  | _, _ => draft

/-- Sizes the buffers of the methods that have a keyword of their own. -/
def resolveOverrides (settings : Settings) (draft : Draft) : Draft :=
  draft.forEachMethod (resolveOverride settings)

/-- Sizes one parameter by its own name, if it is a buffer of unknown size. -/
def resolveResidual (settings : Settings) (c : ClassId) (id : FunctionId) (draft : Draft)
    (position : Nat) : Draft :=
  match (draft.forest.functionAt id).params[position]? with
  | some argument =>
    if argument.isUnsizedBuffer then
      resolveBuffer settings c id position argument.name draft
    else draft
  | none => draft

/-- Sizes the buffers that are still without an accessor by the names of the parameters. -/
def resolveResiduals (settings : Settings) (draft : Draft) : Draft :=
  draft.forEachMethod fun c id draft =>
    (List.range (draft.forest.functionAt id).params.length).foldl
      (resolveResidual settings c id) draft

end Bindery.Sizing
