import TypedGraphQL.Client
import TypedGraphQL.Yaml.Field

/-!
# Configuration of a client

A configuration names the server, further headers of every request, and how operations are
compiled.  It is kept in a text in YAML.

## What is here

* `ClientConfig` — a configuration.
* `ClientConfig.ofYaml` — the configuration that a text holds.
* `ClientConfig.headersToSend` — the headers of every request, if they can all be sent.
* `ClientConfig.client` — the client of a configuration.
-/

set_option autoImplicit false

namespace TypedGraphQL

open Yaml

/-- The configuration of a client. -/
structure ClientConfig where
  /-- Where requests are sent to. -/
  endpoint : String
  /-- Further headers of every request, in the order of their names. -/
  headers : List (String × String) := []
  /-- Compiled operations are checked before they are sent. -/
  validateQueries : Bool := false
  compile : CompileOptions := {}
  deriving DecidableEq, Repr

/-! ## Reading a configuration -/

/-- Every limit that a configuration can give is below this one. -/
def depthBound : Nat := Nat.pow 2 64

/-- The options of the compiled text; those that are not given keep their defaults. -/
def CompileOptions.ofNode (t : Tree) (node : Node) : Except Problem CompileOptions := do
  let fields ← t.fields ["max_depth", "bare_anonymous_query", "bare_anonymous_subscription",
    "mutation_optional_as_required", "double_required_marker"] node
  let flag (name : String) (default : Bool) := fieldOr fields name t.bool default
  let defaults : CompileOptions := {}
  return {
    maxDepth := ← fieldOr fields "max_depth" (t.natural depthBound) defaults.maxDepth
    bareAnonymousQuery := ← flag "bare_anonymous_query" defaults.bareAnonymousQuery
    bareAnonymousSubscription :=
      ← flag "bare_anonymous_subscription" defaults.bareAnonymousSubscription
    mutationOptionalAsRequired :=
      ← flag "mutation_optional_as_required" defaults.mutationOptionalAsRequired
    doubleRequiredMarker := ← flag "double_required_marker" defaults.doubleRequiredMarker }

namespace ClientConfig

/-- Headers; of those with the same name the last one counts. -/
def headersOfNode (t : Tree) (node : Node) : Except Problem (List (String × String)) := do
  (← t.entries node).foldlM (fun headers entry =>
    return insertEntry (← t.text entry.1) (← t.text entry.2) headers) []

/-- The configuration that a document holds. -/
def ofTree (t : Tree) : Except Problem ClientConfig := do
  let fields ← t.fields ["endpoint", "headers", "validate_queries", "compile"] t.root
  return {
    endpoint := ← field fields "endpoint" t.text
    headers := ← fieldOr fields "headers" (headersOfNode t) []
    validateQueries := ← fieldOr fields "validate_queries" t.bool false
    compile := ← fieldOr fields "compile" (CompileOptions.ofNode t) {} }

/-- The configuration that a text holds. -/
def ofYaml (text : String) : Except Error ClientConfig :=
  match Tree.ofText text >>= ofTree with
  | .ok config => .ok config
  | .error problem => .error (.config (.unusable problem))

/-! ## Using a configuration -/

/-- The headers of every request. -/
def headersToSend (c : ClientConfig) : Except Error Http.Headers :=
  match Http.Headers.ofEntries c.headers with
  | .ok headers => .ok headers
  | .error cause => .error (.config (.header cause))

/-- The client of a configuration; its headers must be such that they can be sent. -/
def client (c : ClientConfig) : Except Error Client := do
  let _ ← c.headersToSend
  return ⟨c.compile, c.validateQueries⟩

end ClientConfig

end TypedGraphQL
