/-!
# Kinds of operations
-/

set_option autoImplicit false

namespace TypedGraphQL

/-- What an operation does on the server. -/
inductive OperationKind
  | query
  | mutation
  | subscription
  deriving DecidableEq, Repr

namespace OperationKind

/-- The word that begins an operation of the kind. -/
def keyword : OperationKind → String
  | query => "query"
  | mutation => "mutation"
  | subscription => "subscription"

/-- The kind that a word begins. -/
def ofKeyword? (s : String) : Option OperationKind :=
  if s = "query" then some query
  else if s = "mutation" then some mutation
  else if s = "subscription" then some subscription
  else none

@[simp] theorem ofKeyword?_keyword (k : OperationKind) : ofKeyword? k.keyword = some k := by
  cases k <;> decide

end OperationKind

end TypedGraphQL
