import Bindery.Table

/-!
# Settings

The naming conventions and the tables of exceptions that steer a conversion.  Nothing about a
particular library is built into the passes: all of it is here.
-/

namespace Bindery

/-- The parts of C names that give a function or parameter away. -/
structure Markers where
  getter : String
  setter : String
  allocator : String
  deallocators : List String
  numberHandle : String
  callbackSuffix : String
  errorParameter : String
  sizeSuffixes : List String
  length : String
  event : String
  text : List String
  deriving DecidableEq

/-- The names that functions get once they fill a fixed slot of a class. -/
structure SlotNames where
  allocator : String
  deallocator : String
  getter : String
  setter : String
  callback : String
  deriving DecidableEq

/-- The keyword with which the size of one method's buffer is searched. -/
structure MethodKeyword where
  className : String
  method : String
  keyword : String
  deriving DecidableEq

/-- Keywords that replace the derived ones in the search for size accessors, one table for each
kind of buffer. -/
structure KeywordOverrides where
  /-- Replacements of derived keywords for methods that return a buffer. -/
  returns : Table String
  /-- Keywords of single methods that return a buffer. -/
  returnMethods : List MethodKeyword
  /-- Replacements of derived keywords for getters that fill a buffer. -/
  getters : Table String
  /-- Methods that count as getters that fill a buffer, with their keyword. -/
  getterFunctions : Table String
  setters : Table String
  /-- Methods whose buffer parameter is searched with a keyword of its own. -/
  parameters : Table String
  deriving DecidableEq

/-- A method that keeps its number handle parameter, as a typed reference, instead of moving to
the class of the handle.  Without a class it is exempt on every class. -/
structure HandleExemption where
  function : String
  className : Option String := none
  deriving DecidableEq

namespace HandleExemption

def covers (exemption : HandleExemption) (function className : String) : Bool :=
  exemption.function == function &&
    match exemption.className with
    | some name => name == className
    | none => true

end HandleExemption

/-- New names for the properties and methods of one class. -/
structure Renaming where
  properties : Table String
  functions : Table String
  deriving DecidableEq, Inhabited

structure Settings where
  irVersion : String
  libraryVersion : String
  /-- For each header file, the class that its leftover functions go to. -/
  headers : Table String
  markers : Markers
  canonical : SlotNames
  /-- Error enums start with this, and it gives way to `exceptionPrefix` in exception names. -/
  errorEnumPrefix : String
  exceptionPrefix : String
  excludedFunctionMarkers : List String
  /-- Enums that are no part of the library but come up in the declarations. -/
  skippedEnums : List String
  /-- Classes that the rule for event pointers does not apply to. -/
  eventReturnExclusions : List String
  numberHandleExemptions : List HandleExemption
  keywords : KeywordOverrides
  /-- For each function that returns a bare number handle, the class of the handle. -/
  numberHandleReturns : Table String
  /-- For each class, the method that becomes its default initializer. -/
  defaultInitializers : Table String
  forcedProperties : List String
  renames : Table Renaming
  deriving DecidableEq

namespace Settings

def rootClass? (settings : Settings) (file : String) : Option String :=
  settings.headers.get? file

def isHandleExempt (settings : Settings) (function className : String) : Bool :=
  settings.numberHandleExemptions.any (·.covers function className)

def returnMethodKeyword? (settings : Settings) (className method : String) : Option String :=
  (settings.keywords.returnMethods.find? fun entry =>
    entry.className == className && entry.method == method).map (·.keyword)

end Settings

end Bindery
