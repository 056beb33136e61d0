import TypedGraphQL.Operation
import TypedGraphQL.Request

/-!
# The client

A client compiles an operation, hands the request to a transport and decodes what comes back.

## What is here

* `decode` — the data in the body of a response.
* `Client` — the options of the compiled text, and whether it is checked before it is sent.
* `Client.compile` — the text of an operation.
* `Client.run` — sends an operation; `Exchange` is what was sent and what came of it.
* `Client.query`, `Client.namedQuery`, `Client.mutate`, `Client.namedMutate` — `run` for the usual
  kinds.

A transport is any function from requests to bodies that may fail.  Nothing here depends on how it
works.
-/

set_option autoImplicit false

namespace TypedGraphQL

open Json

/-- The data in the body of a response. -/
def decode (target : Schema) (body : Bytes) : Except Error target.Value :=
  match Response.read target body with
  | .error cause => .error (.decode cause)
  | .ok response =>
    match response.outcome with
    | .data v => .ok v
    | .errors es => .error (.response es)
    | .nothing => .error (.decode (.mismatch .noData))

/-- How operations are compiled. -/
structure Client where
  options : CompileOptions := {}
  validateQueries : Bool := false
  deriving DecidableEq, Repr

/-- Hands a request to a server and returns the body of its response. -/
abbrev Transport := Request → Except Error Bytes

/-- What was sent, and what came of it. -/
structure Exchange (target : Schema) where
  sent : List Request
  result : Except Error target.Value

namespace Client

variable {R : Type}

/-- The text of an operation, checked if the client does so. -/
def compile (c : Client) (catalog : Catalog R) (root : TypeShape R) (kind : OperationKind)
    (name : String) (vs : Variables) : Except Error String := do
  let text ← TypedGraphQL.compile catalog c.options root vs kind name
  if c.validateQueries then
    match Document.parse text with
    | .ok _ => .ok text
    | .error cause => .error (.invalidQuery cause)
  else .ok text

/-- The request that carries a text. -/
def request (text name : String) (vs : Variables) : Request where
  query := text
  values := if vs.isEmpty then none else some vs.toJson
  operationName := if name = "" then none else some name

/-- Compiles an operation, sends it and decodes the answer. -/
def run (c : Client) (transport : Transport) (catalog : Catalog R) (root : TypeShape R)
    (target : Schema) (kind : OperationKind) (name : String) (vs : Variables) : Exchange target :=
  match c.compile catalog root kind name vs with
  | .error e => ⟨[], .error e⟩
  | .ok text =>
    let request := request text name vs
    ⟨[request], do
      let body ← transport request
      decode target body⟩

/-- Sends an anonymous query. -/
def query (c : Client) (transport : Transport) (catalog : Catalog R) (root : TypeShape R)
    (target : Schema) (vs : Variables) : Exchange target :=
  c.run transport catalog root target .query "" vs

/-- Sends a named query. -/
def namedQuery (c : Client) (transport : Transport) (catalog : Catalog R) (root : TypeShape R)
    (target : Schema) (name : String) (vs : Variables) : Exchange target :=
  c.run transport catalog root target .query name vs

/-- Sends an anonymous mutation. -/
def mutate (c : Client) (transport : Transport) (catalog : Catalog R) (root : TypeShape R)
    (target : Schema) (vs : Variables) : Exchange target :=
  c.run transport catalog root target .mutation "" vs

/-- Sends a named mutation. -/
def namedMutate (c : Client) (transport : Transport) (catalog : Catalog R) (root : TypeShape R)
    (target : Schema) (name : String) (vs : Variables) : Exchange target :=
  c.run transport catalog root target .mutation name vs

end Client

end TypedGraphQL
