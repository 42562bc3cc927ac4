import Bindery.Accessors
import Bindery.Corrections
import Bindery.Document.Rendering
import Bindery.Grouping
import Bindery.Listeners
import Bindery.Sizing
import Bindery.Throwing

/-!
# Conversion

The headers of a declaration set go into one forest, one after the other, and every pass sees what
earlier headers left.  A conversion succeeds as a whole or not at all.
-/

namespace Bindery.Conversion

/-- What is wrong with the headers before any of them is processed: there are none, or one has no
root class to go to. -/
def headerFault? (settings : Settings) (declarations : DeclarationSet) : Option InputFailure :=
  if declarations.headers.isEmpty then some .noHeaders
  else
    (declarations.headers.find? fun header => (settings.rootClass? header.file).isNone).map
      fun header => .unsupportedHeader header.file

/-- Takes in the enums of a header, with the exceptions derived from them. -/
def takeEnums (settings : Settings) (declarations : List EnumDeclaration) (draft : Draft) :
    Draft :=
  let enums := Intake.enums settings declarations
  let draft := (Intake.skippedEnums settings declarations).foldl (fun draft name =>
    draft.note .debug s!"Skipping artifact enum `{name}`") draft
  draft.onForest fun forest =>
    { forest with
      exceptions := forest.exceptions ++ Throwing.deriveExceptions settings enums
      enums := forest.enums ++ enums }

/-- Takes in the functions of a header, all of them free. -/
def takeFunctions (settings : Settings) (declarations : List FunctionDeclaration)
    (draft : Draft) : Draft :=
  let draft := (Intake.excludedFunctions settings declarations).foldl (fun draft name =>
    draft.note .debug s!"Skipping excluded function `{name}`") draft
  draft.addFree (Intake.functions settings declarations)

/-- Notes what the forest holds once a header is done. -/
def noteDone (header : HeaderDeclarations) (draft : Draft) : Draft :=
  let classes := draft.forest.allClasses.length
  let enums := draft.forest.enums.length
  let exceptions := draft.forest.exceptions.length
  draft.note .info
    s!"`{header.file}` done: {classes} classes, {enums} enums, {exceptions} exceptions"

/-- Everything that is done for one header, once its root class is known. -/
def passes (settings : Settings) (rootClass : String) (header : HeaderDeclarations) : List Pass :=
  [ Pass.ofTotal (·.note .info s!"Processing `{header.file}` into root class `{rootClass}`"),
    Pass.ofTotal (takeEnums settings header.enums),
    Pass.ofTotal (takeFunctions settings header.functions),
    Throwing.convertErrorParameters settings ]
  ++ Grouping.passes header.structs rootClass settings
  ++ [ Pass.ofTotal fun draft => (Listeners.extract settings header.typedefs draft).1,
    Pass.ofTotal (NumberHandles.convertLeftoverParameters settings) ]
  ++ Sizing.passes settings
  ++ [ Pass.ofTotal (Corrections.retypeHandleReturns settings),
    Pass.ofTotal (Corrections.extractInitializers settings) ]
  ++ Accessors.passes settings
  ++ [ Pass.ofTotal (Corrections.applyRenames settings),
    Pass.ofTotal (noteDone header) ]

/-- Adds one header to what the headers before it have made. -/
def processHeader (settings : Settings) (draft : Draft) (header : HeaderDeclarations) :
    Except Stopped Draft :=
  match settings.rootClass? header.file with
  | some rootClass => Pass.run (passes settings rootClass header) draft
  | none => .error { cause := .input (.unsupportedHeader header.file), draft }

/-- A finished conversion. -/
structure Result where
  draft : Draft
  document : Document

/-- Notes how many functions are held by no slot or by several, if there are any. -/
def noteViolations (draft : Draft) : Draft :=
  let count := draft.forest.ownershipViolations.length
  if count = 0 then draft else draft.note .warn s!"{count} functions have no single owner"

def convert (settings : Settings) (declarations : DeclarationSet) : Except Stopped Result := do
  if let some fault := headerFault? settings declarations then
    throw { cause := .input fault, draft := {} }
  let draft ← declarations.headers.foldlM (processHeader settings) {}
  return {
    draft := noteViolations draft
    document := draft.forest.document settings }

end Bindery.Conversion
