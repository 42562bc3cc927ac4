import Bindery.Hoisting

/-!
# Number handles

C addresses the parts of an object by numbers: a method whose first parameter is `friend_number`
is about a friend.  Such methods move to a nested class that wraps the number, round after round,
until none is left to move.  Every round shortens names or parameter lists, and the one exception,
an empty marker with methods that must not move, is recognised and reported.
-/

namespace Bindery.NumberHandles

/-- A method whose first parameter is a number handle. -/
structure Match where
  c : ClassId
  function : FunctionId
  /-- The name of the parameter without the marker, such as `friend`. -/
  base : String
  deriving DecidableEq

/-- The first parameter's name without the marker, if it ends in it. -/
def handleBase? (settings : Settings) (function : Function) : Option String :=
  match function.params.head? with
  | some (.plain first) => Text.dropSuffix? first.name settings.markers.numberHandle
  | _ => none

def findMatches (settings : Settings) (forest : Forest) : List Match :=
  forest.allClasses.flatMap fun c =>
    (forest.methods c).filterMap fun function =>
      (handleBase? settings (forest.functionAt function)).map ({ c, function, base := · })

/-- A number handle parameter as a reference to the class of the handle. -/
def asReference (base : String) (parameter : Parameter) : Parameter where
  name := base
  type := parameter.type.asNumberHandle (Identifier.snakeToPascal base)

/-- Makes a class wrap a number of the given type, unless it has a handle. -/
def wrapNumber (type : ValueType) (c : Class) : Class :=
  { c with handle := some (c.handle.getD (.number type)) }

/-- Moves one method to the class of its number handle, or, where the method is exempt, turns the
parameter into a reference. -/
def relocate (settings : Settings) (draft : Draft) (found : Match) : Draft :=
  let owner := draft.forest.className found.c
  let function := draft.forest.functionAt found.function
  if settings.isHandleExempt function.name owner then
    draft.modifyFunction found.function (·.mapParameter 0 (asReference found.base))
  else
    let (draft, inner) :=
      draft.requireClass (some found.c) (Identifier.snakeToPascal found.base)
    let draft := draft.modifyFunction found.function (·.dropParameter 0)
    match function.params.head? with
    | some (.plain first) =>
      let draft := draft.modifyClass inner (wrapNumber first.type)
      let draft := draft.onForest (·.moveMethod found.c inner found.function)
      let target := draft.forest.qualifiedName inner
      draft.note .debug s!"Moved `{function.name}` from `{owner}` to `{target}`"
    | _ => draft

/-- One round over all methods that match at its start.  Tells whether there were any. -/
def relocateMethods (settings : Settings) (draft : Draft) : Draft × Bool :=
  let found := findMatches settings draft.forest
  (found.foldl (relocate settings) draft, !found.isEmpty)

/-- One round, and then the removal of class prefixes, which may now be longer. -/
def round (settings : Settings) (draft : Draft) : Draft × Bool :=
  let (relocated, found) := relocateMethods settings draft
  (Hoisting.stripClassPrefixes relocated.forest.allClasses relocated, found)

/-- How much there is left to shorten in names and parameter lists. -/
def weight (forest : Forest) : Nat :=
  forest.functions.foldr (fun function rest => function.weight + rest) 0

/-- Goes through rounds until one finds nothing, and tells how many found something after the
given number.  A round that finds methods and shortens nothing would be repeated for ever. -/
def extractFrom (settings : Settings) (rounds : Nat) (draft : Draft) :
    Except Stopped (Draft × Nat) :=
  match round settings draft with
  | (next, false) => .ok (next, rounds)
  | (next, true) =>
    if weight next.forest < weight draft.forest then
      let count := rounds + 1
      extractFrom settings count (next.note .trace s!"Numeric handle round {count} done")
    else .error { cause := .convention .unsettledHandles, draft := next }
termination_by weight draft.forest

/-- Moves methods until no first parameter is a number handle.  Tells the number of rounds. -/
def extract (settings : Settings) (draft : Draft) : Except Stopped (Draft × Nat) :=
  extractFrom settings 0 draft

/-- A parameter that is a number handle, in any position, as a reference. -/
def referTo (settings : Settings) (parameter : Parameter) : Parameter :=
  match Text.dropSuffix? parameter.name settings.markers.numberHandle with
  | some base => asReference base parameter
  | none => parameter

/-- Turns the number handles that are left anywhere in the parameters of methods into references:
`friend_number` of type `uint32_t` becomes `friend` of type `Friend`. -/
def convertLeftoverParameters (settings : Settings) (draft : Draft) : Draft :=
  draft.forEachMethod fun _ id draft =>
    draft.modifyFunction id fun function =>
      { function with params := function.params.map (·.mapPlain (referTo settings)) }

end Bindery.NumberHandles
