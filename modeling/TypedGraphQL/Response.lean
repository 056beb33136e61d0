import TypedGraphQL.Schema

/-!
# Responses of a server

A response is an object with the data that was asked for, a list of errors, or both.

## What is here

* `Location`, `GraphQLError` — an error of the server; `GraphQLError.schema` is how it travels, and
  `GraphQLError.ofValue`, `GraphQLError.toValue` go between the two.
* `Response` — data and errors; `Response.schema`, `Response.ofValue`.
* `Response.read` — reads a response from bytes.
* `Response.outcome` — what a response amounts to: errors take precedence over any data.
-/

set_option autoImplicit false

namespace TypedGraphQL

open Json

/-! ## Errors of the server -/

/-- A place in the text of an operation. -/
structure Location where
  line : UInt32
  column : UInt32
  deriving DecidableEq, Repr

/-- The integers that lines and columns are counted in. -/
def Location.range : IntRange := .unsigned 32

/-- How a place travels. -/
def Location.schema : Schema :=
  .record "Location"
    (.required "line" (.integer range) (.required "column" (.integer range) .nil))

/-- The member of the range that a counter is. -/
def Location.counter (n : UInt32) : Location.range.Member :=
  ⟨n.toNat, by
    have hleast : range.least = 0 := rfl
    have hgreatest : range.greatest = 4294967295 := rfl
    have := n.toNat_lt
    omega⟩

/-- The place that was read. -/
def Location.ofValue (v : Location.schema.Value) : Location :=
  match v with
  | (line, column, ()) => ⟨.ofNat line.val.toNat, .ofNat column.val.toNat⟩

/-- The place as it travels. -/
def Location.toValue (l : Location) : Location.schema.Value :=
  (counter l.line, counter l.column, ())

/-- One error of the server. -/
structure GraphQLError where
  message : String
  locations : Option (List Location) := none
  path : Option (List Json) := none
  extensions : Option Json := none

namespace GraphQLError

/-- How an error travels. -/
def schema : Schema :=
  .record "GraphQLError"
    (.required "message" .text
      (.sparse "locations" (.list Location.schema)
        (.sparse "path" (.list .free) (.sparse "extensions" .free .nil))))

/-- The error that was read. -/
def ofValue (v : schema.Value) : GraphQLError :=
  match v with
  | (message, locations, path, extensions, ()) =>
    ⟨message, locations.map (List.map Location.ofValue), path, extensions⟩

/-- The error as it travels. -/
def toValue (e : GraphQLError) : schema.Value :=
  (e.message, e.locations.map (List.map Location.toValue), e.path, e.extensions, ())

/-- The JSON of an error.  Members that are absent stay absent. -/
def toJson (e : GraphQLError) : Json :=
  schema.write e.toValue

end GraphQLError

/-! ## The response -/

/-- Data of a type, and errors. -/
structure Response (target : Schema) where
  data : Option target.Value
  errors : Option (List GraphQLError)

namespace Response

/-- How a response travels. -/
def schema (target : Schema) : Schema :=
  .record "GraphQLResponse"
    (.required "data" (.optional target) (.sparse "errors" (.list GraphQLError.schema) .nil))

/-- The response that was read. -/
def ofValue {target : Schema} (v : (schema target).Value) : Response target :=
  match v with
  | (data, errors, ()) => ⟨data, errors.map (List.map GraphQLError.ofValue)⟩

/-- Reads a response. -/
def read (target : Schema) (body : Bytes) : Except ReadError (Response target) := do
  let v ← (schema target).readText body
  return ofValue v

/-- What a response amounts to. -/
inductive Outcome (target : Schema)
  | data (v : target.Value)
  | errors (es : List GraphQLError)
  /-- Neither data nor errors. -/
  | nothing

/-- Errors take precedence over any data. -/
def outcome {target : Schema} (r : Response target) : Outcome target :=
  match r.errors, r.data with
  | some (e :: es), _ => .errors (e :: es)
  | _, some v => .data v
  | _, none => .nothing

end Response

end TypedGraphQL
