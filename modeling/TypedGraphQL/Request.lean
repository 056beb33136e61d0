import TypedGraphQL.Schema

/-!
# Requests to a server

A request carries the text of an operation, its variables and its name.  What is absent is left out
of the JSON.
-/

set_option autoImplicit false

namespace TypedGraphQL

open Json

/-- The body of a request. -/
structure Request where
  query : String
  /-- The values of the variables. -/
  values : Option Json := none
  operationName : Option String := none

namespace Request

/-- How a request travels. -/
def schema : Schema :=
  .record "GraphQLRequest"
    (.required "query" .text
      (.sparse "variables" .free (.sparse "operationName" .text .nil)))

/-- The request that was read. -/
def ofValue (v : schema.Value) : Request :=
  match v with
  | (query, values, operationName, ()) => ⟨query, values, operationName⟩

/-- The request as it travels. -/
def toValue (r : Request) : schema.Value :=
  (r.query, r.values, r.operationName, ())

/-- The JSON of a request. -/
def toJson (r : Request) : Json :=
  schema.write r.toValue

/-- Reads a request. -/
def read (body : Bytes) : Except ReadError Request := do
  let v ← schema.readText body
  return ofValue v

end Request

end TypedGraphQL
