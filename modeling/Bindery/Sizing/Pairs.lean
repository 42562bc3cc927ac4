import Bindery.Draft
import Bindery.Settings.Basic
import Bindery.Text.Search

/-!
# Buffers with a length beside them

Where a length follows the data in the parameter list, the two are one argument.
-/

namespace Bindery.Sizing

/-- Whether the second parameter is the length of the first: the first is an array that no getter
tells the size of, and the second is named like a length. -/
def arePair (marker : String) (data length : Parameter) : Bool :=
  data.type.isArray && data.type.sizeGetter?.isNone && Text.contains length.name marker

/-- Joins each array with the length right after it, from left to right. -/
def pairLengths (marker : String) : List Argument → List Argument
  | [] => []
  | .plain data :: .plain length :: rest =>
    if arePair marker data length then .buffer data length :: pairLengths marker rest
    else .plain data :: pairLengths marker (.plain length :: rest)
  | argument :: rest => argument :: pairLengths marker rest

/-- Joins the buffers in the parameter lists of all methods with their lengths. -/
def pairParameters (settings : Settings) (draft : Draft) : Draft :=
  draft.forEachMethod fun _ id draft =>
    draft.modifyFunction id fun function =>
      { function with params := pairLengths settings.markers.length function.params }

end Bindery.Sizing
