import Bindery.Settings.Defaults
import Bindery.Written

/-!
# Reading settings

Every part that is left out keeps its default value.  A table or list that is given takes the
place of the default one as a whole; the two are never merged.
-/

namespace Bindery

variable {σ : Type} [Written σ]

open Written

namespace Table

variable {α : Type}

def read? (readValue : σ → Option α) (source : σ) : Option (Table α) := do
  let entries ← entries? source
  let bindings ← entries.mapM fun (key, value) => (readValue value).map (key, ·)
  return .ofList bindings

end Table

namespace Markers

def read? (source : σ) : Option Markers := do
  let fields ← fields? ["getter", "setter", "allocator", "deallocators", "number_handle",
    "callback_suffix", "error_param", "size_suffixes", "length", "event", "text"] source
  let getter ← withDefault fields "getter" default.getter text?
  let setter ← withDefault fields "setter" default.setter text?
  let allocator ← withDefault fields "allocator" default.allocator text?
  let deallocators ← withDefault fields "deallocators" default.deallocators (list? text?)
  let numberHandle ← withDefault fields "number_handle" default.numberHandle text?
  let callbackSuffix ← withDefault fields "callback_suffix" default.callbackSuffix text?
  let errorParameter ← withDefault fields "error_param" default.errorParameter text?
  let sizeSuffixes ← withDefault fields "size_suffixes" default.sizeSuffixes (list? text?)
  let length ← withDefault fields "length" default.length text?
  let event ← withDefault fields "event" default.event text?
  let text ← withDefault fields "text" default.text (list? text?)
  return { getter, setter, allocator, deallocators, numberHandle, callbackSuffix, errorParameter,
           sizeSuffixes, length, event, text }

end Markers

namespace SlotNames

def read? (source : σ) : Option SlotNames := do
  let fields ← fields? ["allocator", "deallocator", "getter", "setter", "callback"] source
  let allocator ← withDefault fields "allocator" default.allocator text?
  let deallocator ← withDefault fields "deallocator" default.deallocator text?
  let getter ← withDefault fields "getter" default.getter text?
  let setter ← withDefault fields "setter" default.setter text?
  let callback ← withDefault fields "callback" default.callback text?
  return { allocator, deallocator, getter, setter, callback }

end SlotNames

namespace MethodKeyword

def read? (source : σ) : Option MethodKeyword := do
  let fields ← fields? ["class", "method", "keyword"] source
  let className ← required fields "class" text?
  let method ← required fields "method" text?
  let keyword ← required fields "keyword" text?
  return { className, method, keyword }

end MethodKeyword

namespace KeywordOverrides

def read? (source : σ) : Option KeywordOverrides := do
  let fields ← fields? ["returns", "return_methods", "getters", "getter_functions", "setters",
    "parameters"] source
  let returns ← withDefault fields "returns" default.returns (Table.read? text?)
  let returnMethods ←
    withDefault fields "return_methods" default.returnMethods (list? MethodKeyword.read?)
  let getters ← withDefault fields "getters" default.getters (Table.read? text?)
  let getterFunctions ←
    withDefault fields "getter_functions" default.getterFunctions (Table.read? text?)
  let setters ← withDefault fields "setters" default.setters (Table.read? text?)
  let parameters ← withDefault fields "parameters" default.parameters (Table.read? text?)
  return { returns, returnMethods, getters, getterFunctions, setters, parameters }

end KeywordOverrides

namespace HandleExemption

def read? (source : σ) : Option HandleExemption := do
  let fields ← fields? ["function", "class"] source
  let function ← required fields "function" text?
  let className ← withDefault fields "class" none (option? text?)
  return { function, className }

end HandleExemption

namespace Renaming

def read? (source : σ) : Option Renaming := do
  let fields ← fields? ["properties", "functions"] source
  let properties ← withDefault fields "properties" default.properties (Table.read? text?)
  let functions ← withDefault fields "functions" default.functions (Table.read? text?)
  return { properties, functions }

end Renaming

namespace Settings

def read? (source : σ) : Option Settings := do
  let fields ← fields? ["ir_version", "library_version", "headers", "markers", "canonical",
    "error_enum_prefix", "exception_prefix", "excluded_function_markers", "skipped_enums",
    "event_return_exclusions", "number_handle_exemptions", "keywords", "number_handle_returns",
    "default_initializers", "forced_properties", "renames"] source
  let irVersion ← withDefault fields "ir_version" default.irVersion text?
  let libraryVersion ← withDefault fields "library_version" default.libraryVersion text?
  let headers ← withDefault fields "headers" default.headers (Table.read? text?)
  let markers ← withDefault fields "markers" default.markers Markers.read?
  let canonical ← withDefault fields "canonical" default.canonical SlotNames.read?
  let errorEnumPrefix ← withDefault fields "error_enum_prefix" default.errorEnumPrefix text?
  let exceptionPrefix ← withDefault fields "exception_prefix" default.exceptionPrefix text?
  let excludedFunctionMarkers ←
    withDefault fields "excluded_function_markers" default.excludedFunctionMarkers (list? text?)
  let skippedEnums ← withDefault fields "skipped_enums" default.skippedEnums (list? text?)
  let eventReturnExclusions ←
    withDefault fields "event_return_exclusions" default.eventReturnExclusions (list? text?)
  let numberHandleExemptions ←
    withDefault fields "number_handle_exemptions" default.numberHandleExemptions
      (list? HandleExemption.read?)
  let keywords ← withDefault fields "keywords" default.keywords KeywordOverrides.read?
  let numberHandleReturns ←
    withDefault fields "number_handle_returns" default.numberHandleReturns (Table.read? text?)
  let defaultInitializers ←
    withDefault fields "default_initializers" default.defaultInitializers (Table.read? text?)
  let forcedProperties ←
    withDefault fields "forced_properties" default.forcedProperties (list? text?)
  let renames ← withDefault fields "renames" default.renames (Table.read? Renaming.read?)
  return { irVersion, libraryVersion, headers, markers, canonical, errorEnumPrefix,
           exceptionPrefix, excludedFunctionMarkers, skippedEnums, eventReturnExclusions,
           numberHandleExemptions, keywords, numberHandleReturns, defaultInitializers,
           forcedProperties, renames }

end Settings

end Bindery
