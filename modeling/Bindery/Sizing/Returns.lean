import Bindery.Sizing.Search

/-!
# Buffers that are returned

A method that returns a buffer, or fills one for its caller, is of no use without its size, so a
missing accessor ends the conversion.  Methods that fill a buffer end up returning it.
-/

namespace Bindery.Sizing

/-- A buffer is returned if the type says so, unless it is text or stands in for another type. -/
def returnsBuffer (function : Function) : Bool :=
  function.ret.type.isArray && !function.ret.type.isText && function.ret.replaced.isNone

/-- An event pointer is sized like a buffer. -/
def returnsEvent (settings : Settings) (function : Function) : Bool :=
  function.ret.type.ctype.isPointer && Text.contains function.cname settings.markers.event &&
    !settings.eventReturnExclusions.contains function.ret.type.name

def needsReturnAccessor (settings : Settings) (function : Function) : Bool :=
  (returnsBuffer function || returnsEvent settings function) &&
    function.ret.type.sizeAccessor.isNone

/-- The keyword for a method that returns a buffer. -/
def returnKeyword (settings : Settings) (className : String) (function : Function) : Keyword :=
  let derived := Text.afterFirst function.name settings.markers.getter
  Keyword.derived derived |>.overriddenBy <|
    (settings.keywords.returns.get? derived).or
      (settings.returnMethodKeyword? className function.name)

def resolveReturn (settings : Settings) (c : ClassId) (id : FunctionId) (draft : Draft) :
    Except Stopped Draft :=
  let function := draft.forest.functionAt id
  if id ∉ draft.forest.methods c ∨ !needsReturnAccessor settings function then .ok draft
  else
    let keyword := returnKeyword settings (draft.forest.className c) function
    match search settings draft keyword.search c with
    | (draft, none) => .error (missing draft keyword c id)
    | (draft, some accessor) =>
      let draft := detach draft c accessor settings.markers.getter
      .ok <| draft.modifyFunction id fun function =>
        { function with
          ret := { function.ret with type := function.ret.type.withGetter accessor } }

/-- Gives every returned buffer its size accessor. -/
def resolveReturns (settings : Settings) (draft : Draft) : Except Stopped Draft :=
  draft.tryForEachMethod (resolveReturn settings)

/-- Where the buffer stands that a getter fills: it is the first plain array of a method that is
named like a getter, or configured as one, and returns nothing or only success. -/
def filledBuffer? (settings : Settings) (function : Function) : Option Nat :=
  if Text.contains function.name settings.markers.getter
      || (settings.keywords.getterFunctions.get? function.name).isSome then
    if function.ret.type.isScalar .void || function.ret.type.isScalar .bool then
      function.params.findIdx? (·.isPlainArray)
    else none
  else none

/-- The keyword for a method that fills a buffer. -/
def getterKeyword (settings : Settings) (function : Function) : Keyword :=
  let derived := Text.afterFirst function.name settings.markers.getter
  Keyword.derived derived |>.overriddenBy <|
    (settings.keywords.getters.get? derived).or
      (settings.keywords.getterFunctions.get? function.name)

/-- Makes a plain parameter the return value. -/
def promote (position : Nat) (accessor : FunctionId) (function : Function) : Function :=
  match function.params[position]? with
  | some (.plain parameter) =>
    { function.dropParameter position with
      ret := { function.ret.replaceBy (parameter.type.withGetter accessor) with
        promotedFrom := some position } }
  | _ => function

def resolveFilled (settings : Settings) (c : ClassId) (id : FunctionId) (draft : Draft) :
    Except Stopped Draft :=
  let function := draft.forest.functionAt id
  match filledBuffer? settings function with
  | none => .ok draft
  | some position =>
    if id ∉ draft.forest.methods c then .ok draft
    else
      let keyword := getterKeyword settings function
      match search settings draft keyword.search c with
      | (draft, none) => .error (missing draft keyword c id)
      | (draft, some accessor) =>
        let draft := detach draft c accessor settings.markers.getter
        let buffer := (function.params[position]?.map (·.name)).getD ""
        let draft := draft.modifyFunction id (promote position accessor)
        .ok (draft.note .debug s!"`{function.name}` now returns its `{buffer}` buffer")

/-- Makes every buffer that a getter fills its return value, with a size accessor. -/
def resolveFilledBuffers (settings : Settings) (draft : Draft) : Except Stopped Draft :=
  draft.tryForEachMethod (resolveFilled settings)

end Bindery.Sizing
