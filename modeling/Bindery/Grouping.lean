import Bindery.NumberHandles
import Bindery.Pass

/-!
# Forming classes

How the free functions of one header become the methods of classes: what structs and the root class
take comes first, and then methods move on to the classes of number handles.
-/

namespace Bindery.Grouping

/-- Takes the names of the top classes off their methods. -/
def stripRootPrefixes (draft : Draft) : Draft :=
  Hoisting.stripClassPrefixes draft.forest.hierarchy.roots draft

/-- Moves methods to number handles, and notes how many rounds it took. -/
def settleHandles (settings : Settings) : Pass := fun draft => do
  let (draft, rounds) ← NumberHandles.extract settings draft
  return draft.note .debug s!"Numeric handle extraction settled after {rounds} rounds"

def passes (structs : List String) (rootClass : String) (settings : Settings) : List Pass :=
  [ Pass.ofTotal (Hoisting.hoistAllocators structs settings),
    Pass.ofTotal (Hoisting.hoistStructFunctions structs settings),
    Pass.ofTotal (Hoisting.hoistLeftovers rootClass),
    Pass.ofTotal stripRootPrefixes,
    settleHandles settings ]

def formClasses (structs : List String) (rootClass : String) (settings : Settings) : Pass :=
  Pass.run (passes structs rootClass settings)

end Bindery.Grouping
