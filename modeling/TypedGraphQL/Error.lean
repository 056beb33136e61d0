import TypedGraphQL.Document.Parse
import TypedGraphQL.Http.Header
import TypedGraphQL.Http.Status
import TypedGraphQL.Input
import TypedGraphQL.Response
import TypedGraphQL.Selection
import TypedGraphQL.Yaml.Problem

/-!
# What can go wrong

An operation is compiled, sent and decoded, and each stage can fail in its own way.

## What is here

* `ConfigError` — a configuration that cannot be used.
* `Error` — a failure of any stage, with its cause.
* `Complaint` — a failure once its cause is put into words; `Complaint.text` is the sentence.
* `Error.complaint`, `Error.message` — the words for a failure.
-/

set_option autoImplicit false

namespace TypedGraphQL

open Json

/-- A configuration that cannot be used. -/
inductive ConfigError
  /-- There is no such file. -/
  | noFile (path : String)
  | unusable (problem : Yaml.Problem)
  | header (cause : Http.HeaderError)
  deriving DecidableEq, Repr

/-- The reason in words. -/
def ConfigError.message : ConfigError → String
  | noFile path =>
    "Failed to read config file " ++ path ++ ": No such file or directory (os error 2)"
  | unusable problem => "Failed to parse config: " ++ problem.message
  | header cause => cause.message

/-- A failure, with its cause. -/
inductive Error
  /-- The shape has no selection. -/
  | invalidShape (cause : ShapeError)
  /-- The type of a variable has no signature. -/
  | unsupportedVariableType (cause : UnsupportedType)
  /-- The value of a variable could not be encoded. -/
  | variableEncode (name : String) (cause : EncodeFailure)
  /-- The body of a response does not read as the type asked for. -/
  | decode (cause : ReadError)
  /-- The server answered with errors. -/
  | response (errors : List GraphQLError)
  /-- The compiled text is no document. -/
  | invalidQuery (cause : Document.SyntaxError)
  /-- The server answered with a status that is no success. -/
  | status (code : Nat) (body : String)
  | config (cause : ConfigError)

/-- A failure once its cause is put into words. -/
inductive Complaint
  | invalidShape (cause : String)
  | unsupportedVariableType (name cause : String)
  | variableEncode (name cause : String)
  | decode (cause : String)
  | response (messages : List String)
  | invalidQuery (cause : String)
  | status (code : Nat) (body : String)
  | config (cause : String)
  deriving DecidableEq, Repr

/-- The sentence. -/
def Complaint.text : Complaint → String
  | invalidShape cause => "invalid query shape: " ++ cause
  | unsupportedVariableType name cause =>
    "unsupported variable type " ++ Text.quoted name ++ ": " ++ cause
  | variableEncode name cause => "failed to encode variable $" ++ name ++ ": " ++ cause
  | decode cause => "failed to decode response: " ++ cause
  | response messages =>
    "server returned " ++ toString messages.length ++ " error(s): " ++
      String.intercalate "; " messages
  | invalidQuery cause => "compiled operation is not valid GraphQL: " ++ cause
  | status code body => "non-success status " ++ Http.statusText code ++ ": " ++ body
  | config cause => "configuration error: " ++ cause

/-- What is wrong with a type name. -/
def UnsupportedType.message (_ : UnsupportedType) : String :=
  "not a valid GraphQL type name"

namespace Error

/-- The failure with its cause in words. -/
def complaint : Error → Complaint
  | invalidShape cause => .invalidShape cause.message
  | unsupportedVariableType cause => .unsupportedVariableType cause.name cause.message
  | variableEncode name cause => .variableEncode name cause.text
  | decode cause => .decode cause.message
  | response errors => .response (errors.map (·.message))
  | invalidQuery cause => .invalidQuery cause.message
  | status code body => .status code body
  | config cause => .config cause.message

/-- The sentence for a failure. -/
def message (e : Error) : String :=
  e.complaint.text

end Error

end TypedGraphQL
