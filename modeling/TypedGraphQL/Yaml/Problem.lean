/-!
# Why a configuration text cannot be used
-/

set_option autoImplicit false

namespace TypedGraphQL.Yaml

/-- Why a configuration text cannot be used. -/
inductive Problem
  /-- The text is not YAML. -/
  | syntaxError
  /-- The text holds no document, or more than one. -/
  | documentCount
  /-- An alias names no anchor. -/
  | unknownAlias (name : String)
  | wrongType (expected : String)
  | missingField (name : String)
  | duplicateField (name : String)
  deriving DecidableEq, Repr

/-- The reason in words. -/
def Problem.message : Problem → String
  | syntaxError => "the text is not YAML"
  | documentCount => "exactly one document is expected"
  | unknownAlias name => "unknown anchor " ++ name
  | wrongType expected => "expected " ++ expected
  | missingField name => "missing field " ++ name
  | duplicateField name => "duplicate field " ++ name

end TypedGraphQL.Yaml
