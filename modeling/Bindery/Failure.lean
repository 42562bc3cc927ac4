/-!
# Failures

Why a conversion can fail, and what is said about it.  Every cause has a message, a code that
tells causes apart, and perhaps advice.
-/

namespace Bindery

/-- The formats that declarations, settings and documents come in. -/
inductive TextFormat where
  | json
  | yaml
  deriving DecidableEq

/-- Problems with what was handed in, found before any function is looked at. -/
inductive InputFailure where
  | unsupportedHeader (file : String)
  | noHeaders
  | malformedDeclarations (format : TextFormat)
  | malformedSettings (format : TextFormat)
  | unreadable (path : String)
  deriving DecidableEq

/-- The declarations break a convention that the conversion relies on. -/
inductive ConventionFailure where
  | missingException (enumName function : String)
  | missingSizeAccessor (className function : String) (keywords : List String)
  /-- Every round of moving methods onto number handles would find the same methods again. -/
  | unsettledHandles
  deriving DecidableEq

/-- Problems with handing out the document. -/
inductive OutputFailure where
  | encoding (format : TextFormat)
  | writing
  deriving DecidableEq

inductive Failure where
  | input (cause : InputFailure)
  | convention (cause : ConventionFailure)
  | output (cause : OutputFailure)
  deriving DecidableEq

namespace InputFailure

def message : InputFailure → String
  | unsupportedHeader file => s!"The header `{file}` is not supported"
  | noHeaders => "The declaration set contains no headers"
  | malformedDeclarations _ => "Malformed declaration set"
  | malformedSettings _ => "Malformed pipeline configuration"
  | unreadable path => s!"Could not read `{path}`"

def code : InputFailure → String
  | unsupportedHeader _ => "input::unsupported_header"
  | noHeaders => "input::no_headers"
  | malformedDeclarations .json => "input::malformed_json"
  | malformedDeclarations .yaml => "input::malformed_yaml"
  | malformedSettings .yaml => "input::malformed_config"
  | malformedSettings .json => "input::malformed_config_json"
  | unreadable _ => "input::io"

def help? : InputFailure → Option String
  | unsupportedHeader _ =>
    some ("Remove the header from the declaration set or map it to a root class in the "
      ++ "configuration.")
  | noHeaders => some "Run the C parser over at least one supported header first."
  | _ => none

end InputFailure

namespace ConventionFailure

def message : ConventionFailure → String
  | missingException enumName function =>
    s!"Could not find an exception for the error enum `{enumName}` used by `{function}`"
  | missingSizeAccessor className function keywords =>
    let tried := ", ".intercalate keywords
    s!"Could not find a size accessor for `{className}.{function}` (tried keywords: {tried})"
  | unsettledHandles => "Moving methods onto number handles never comes to an end"

def code : ConventionFailure → String
  | missingException _ _ => "convention::missing_exception"
  | missingSizeAccessor _ _ _ => "convention::missing_size_accessor"
  | unsettledHandles => "convention::unsettled_handles"

def help? : ConventionFailure → Option String
  | missingException _ _ =>
    some ("Error enums must carry the configured error prefix so an exception is derived for "
      ++ "them.")
  | missingSizeAccessor _ _ _ =>
    some "Add a keyword override for this method to the pipeline configuration."
  | unsettledHandles => none

end ConventionFailure

namespace OutputFailure

def message : OutputFailure → String
  | encoding .json => "Failed to encode the IR document"
  | encoding .yaml => "Failed to encode the IR document as YAML"
  | writing => "I/O error while writing the IR document"

def code : OutputFailure → String
  | encoding .json => "output::encode"
  | encoding .yaml => "output::encode_yaml"
  | writing => "output::io"

end OutputFailure

namespace Failure

def message : Failure → String
  | input cause => cause.message
  | convention cause => cause.message
  | output cause => cause.message

def code : Failure → String
  | input cause => cause.code
  | convention cause => cause.code
  | output cause => cause.code

def help? : Failure → Option String
  | input cause => cause.help?
  | convention cause => cause.help?
  | output _ => none

end Failure

end Bindery
