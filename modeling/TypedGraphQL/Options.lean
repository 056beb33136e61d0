/-!
# Options of the compiled text

The choices that change the text of an operation.  The defaults are part of the format: two of
them keep peculiar spellings that servers have come to accept, an optional variable written as
required in a mutation, and a second `!` after the types whose entry in the type table ends in one
already.
-/

set_option autoImplicit false

namespace TypedGraphQL

/-- The choices that change the text of an operation. -/
structure CompileOptions where
  /-- How many levels of records may be nested. -/
  maxDepth : Nat := 64
  /-- An anonymous query without variables is written as its selection alone. -/
  bareAnonymousQuery : Bool := true
  /-- An anonymous subscription without variables is written as its selection alone. -/
  bareAnonymousSubscription : Bool := false
  /-- An optional variable of a mutation is written as required. -/
  mutationOptionalAsRequired : Bool := true
  /-- The `!` of an entry of the type table is written. -/
  doubleRequiredMarker : Bool := true
  deriving DecidableEq, Repr

end TypedGraphQL
