import Bindery.Draft
import Bindery.Settings.Basic
import Bindery.Text.Search

/-!
# Throwing functions

C functions report failure through an error parameter that points at an error enum.  Each error
enum becomes an exception, and each error parameter becomes a mark on its function that says which
exception it throws.
-/

namespace Bindery.Throwing

/-- The exception of an error enum: `ToxErrNew` gives `ToxNew`. -/
def exceptionOf? (settings : Settings) (enumeration : Enumeration) : Option Exception :=
  if Text.startsWith enumeration.name settings.errorEnumPrefix then
    some {
      name := Text.replaceFirst enumeration.name settings.errorEnumPrefix settings.exceptionPrefix
      enumName := enumeration.name }
  else none

def deriveExceptions (settings : Settings) (enums : List Enumeration) : List Exception :=
  enums.filterMap (exceptionOf? settings)

/-- Where the error parameter of a function stands. -/
def errorPosition? (settings : Settings) (function : Function) : Option Nat :=
  function.params.findIdx? (·.name == settings.markers.errorParameter)

/-- The first exception that was derived from the enum. -/
def exceptionFor? (forest : Forest) (enumName : String) : Option Exception :=
  forest.exceptions.find? (·.enumName == enumName)

/-- Turns the error parameter of one function, if it has one, into the exception it throws. -/
def convertFunction (settings : Settings) (draft : Draft) (id : FunctionId) :
    Except Stopped Draft :=
  let function := draft.forest.functionAt id
  match errorPosition? settings function with
  | none => .ok draft
  | some position =>
    let enumName := (function.params[position]?.map (·.type.name)).getD ""
    match exceptionFor? draft.forest enumName with
    | none => .error { cause := .convention (.missingException enumName function.name), draft }
    | some exception =>
      let converted := draft.modifyFunction id fun function =>
        { function.dropParameter position with throws := some exception.name }
      .ok (converted.note .debug s!"`{function.name}` throws `{exception.name}`")

/-- Converts all free functions in order, up to the first whose exception is missing. -/
def convertErrorParameters (settings : Settings) (draft : Draft) : Except Stopped Draft :=
  draft.forest.free.foldlM (convertFunction settings) draft

end Bindery.Throwing
