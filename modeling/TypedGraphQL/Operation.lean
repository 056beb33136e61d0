import TypedGraphQL.Draft
import TypedGraphQL.Variables

/-!
# Operations

An operation is written as a keyword, a name, a header that declares its variables, and its
selection set.  An anonymous query without variables may be its selection set alone.

## What is here

* `construct` — puts the parts together.
* `compileSelection` — the text of a selection set; `compile` — the text of an operation.
-/

set_option autoImplicit false

namespace TypedGraphQL

/-- An anonymous operation of the kind, without variables, is written without its keyword.
Mutations always carry it. -/
def OperationKind.isBareWhenAnonymous (options : CompileOptions) : OperationKind → Bool
  | query => options.bareAnonymousQuery
  | subscription => options.bareAnonymousSubscription
  | mutation => false

/-- The text of an operation.  With a header the keyword, the name (which may be empty) and the
header come before the body; without one, the name decides. -/
def construct (options : CompileOptions) (kind : OperationKind) (name : String)
    (header : Option String) (body : String) : String :=
  match header with
  | some header => kind.keyword ++ " " ++ name ++ "(" ++ header ++ ")" ++ body
  | none =>
    if name ≠ "" then kind.keyword ++ " " ++ name ++ body
    else if kind.isBareWhenAnonymous options then body
    else kind.keyword ++ body

/-- The text of the selection set of a type. -/
def compileSelection {R : Type} (catalog : Catalog R) (options : CompileOptions)
    (root : TypeShape R) : Except Error String :=
  match writeSelection catalog options.maxDepth root with
  | .ok text => .ok text
  | .error cause => .error (.invalidShape cause)

/-- The header that declares the variables, if there are any. -/
def compileHeader (options : CompileOptions) (kind : OperationKind) (vs : Variables) :
    Except Error (Option String) :=
  if vs.isEmpty then .ok none
  else
    match vs.header options (kind == .mutation) with
    | .ok h => .ok (some h)
    | .error cause => .error (.unsupportedVariableType cause)

/-- The text of the operation that selects a type. -/
def compile {R : Type} (catalog : Catalog R) (options : CompileOptions) (root : TypeShape R)
    (vs : Variables) (kind : OperationKind) (name : String) : Except Error String := do
  let body ← compileSelection catalog options root
  let header ← compileHeader options kind vs
  return construct options kind name header body

end TypedGraphQL
