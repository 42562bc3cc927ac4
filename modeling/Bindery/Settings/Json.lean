import Bindery.Json.Basic
import Bindery.Settings.Basic

/-!
# Settings in JSON

Settings as an object with every field, in the form in which they are read.
-/

namespace Bindery

namespace Table

variable {α : Type}

def toJson (encode : α → Json) (table : Table α) : Json :=
  .record (table.entries.map fun (key, value) => (key, encode value))

end Table

namespace Markers

def toJson (markers : Markers) : Json :=
  .record [
    ("getter", .ofString markers.getter),
    ("setter", .ofString markers.setter),
    ("allocator", .ofString markers.allocator),
    ("deallocators", .ofList Json.ofString markers.deallocators),
    ("number_handle", .ofString markers.numberHandle),
    ("callback_suffix", .ofString markers.callbackSuffix),
    ("error_param", .ofString markers.errorParameter),
    ("size_suffixes", .ofList Json.ofString markers.sizeSuffixes),
    ("length", .ofString markers.length),
    ("event", .ofString markers.event),
    ("text", .ofList Json.ofString markers.text)]

end Markers

namespace SlotNames

def toJson (names : SlotNames) : Json :=
  .record [
    ("allocator", .ofString names.allocator),
    ("deallocator", .ofString names.deallocator),
    ("getter", .ofString names.getter),
    ("setter", .ofString names.setter),
    ("callback", .ofString names.callback)]

end SlotNames

namespace MethodKeyword

def toJson (entry : MethodKeyword) : Json :=
  .record [
    ("class", .ofString entry.className),
    ("method", .ofString entry.method),
    ("keyword", .ofString entry.keyword)]

end MethodKeyword

namespace KeywordOverrides

def toJson (overrides : KeywordOverrides) : Json :=
  .record [
    ("returns", overrides.returns.toJson Json.ofString),
    ("return_methods", .ofList MethodKeyword.toJson overrides.returnMethods),
    ("getters", overrides.getters.toJson Json.ofString),
    ("getter_functions", overrides.getterFunctions.toJson Json.ofString),
    ("setters", overrides.setters.toJson Json.ofString),
    ("parameters", overrides.parameters.toJson Json.ofString)]

end KeywordOverrides

namespace HandleExemption

def toJson (exemption : HandleExemption) : Json :=
  .record [
    ("function", .ofString exemption.function),
    ("class", .ofOption Json.ofString exemption.className)]

end HandleExemption

namespace Renaming

def toJson (names : Renaming) : Json :=
  .record [
    ("properties", names.properties.toJson Json.ofString),
    ("functions", names.functions.toJson Json.ofString)]

end Renaming

namespace Settings

def toJson (settings : Settings) : Json :=
  .record [
    ("ir_version", .ofString settings.irVersion),
    ("library_version", .ofString settings.libraryVersion),
    ("headers", settings.headers.toJson Json.ofString),
    ("markers", settings.markers.toJson),
    ("canonical", settings.canonical.toJson),
    ("error_enum_prefix", .ofString settings.errorEnumPrefix),
    ("exception_prefix", .ofString settings.exceptionPrefix),
    ("excluded_function_markers", .ofList Json.ofString settings.excludedFunctionMarkers),
    ("skipped_enums", .ofList Json.ofString settings.skippedEnums),
    ("event_return_exclusions", .ofList Json.ofString settings.eventReturnExclusions),
    ("number_handle_exemptions", .ofList HandleExemption.toJson settings.numberHandleExemptions),
    ("keywords", settings.keywords.toJson),
    ("number_handle_returns", settings.numberHandleReturns.toJson Json.ofString),
    ("default_initializers", settings.defaultInitializers.toJson Json.ofString),
    ("forced_properties", .ofList Json.ofString settings.forcedProperties),
    ("renames", settings.renames.toJson Renaming.toJson)]

end Settings

end Bindery
