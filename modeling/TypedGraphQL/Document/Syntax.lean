import TypedGraphQL.OperationKind

/-!
# The parts of a document

A document is a list of operations and fragments.  These types say what they consist of; blanks,
commas and comments have no place in them.
-/

set_option autoImplicit false

namespace TypedGraphQL.Document

/-- A type as it is written in the header of an operation. -/
inductive TypeRef
  | named (name : String) (nonNull : Bool)
  | list (item : TypeRef) (nonNull : Bool)
  deriving DecidableEq, Repr

/-- A value. -/
inductive Value
  | variable (name : String)
  | int (n : Int)
  | float (text : String)
  | str (s : String)
  | block (raw : String)
  /-- An enumeration value, a boolean or `null`. -/
  | name (s : String)
  | list (items : List Value)
  | object (members : List (String × Value))
  deriving Repr

/-- Values by name. -/
abbrev Arguments := List (String × Value)

/-- A directive. -/
structure Directive where
  name : String
  arguments : Arguments
  deriving Repr

/-- One entry of a selection set. -/
inductive Selection
  | field (outputName : Option String) (name : String) (arguments : Arguments)
      (directives : List Directive) (selections : List Selection)
  | spread (fragment : String) (directives : List Directive)
  | inline (on : Option String) (directives : List Directive) (selections : List Selection)
  deriving Repr

/-- The declaration of a variable. -/
structure VariableDefinition where
  name : String
  type : TypeRef
  default : Option Value
  deriving Repr

/-- An operation or a fragment. -/
inductive Definition
  /-- A selection set alone, which is a query. -/
  | bare (selections : List Selection)
  | operation (kind : OperationKind) (name : Option String)
      (header : List VariableDefinition) (directives : List Directive)
      (selections : List Selection)
  | fragment (name on : String) (directives : List Directive) (selections : List Selection)
  deriving Repr

end TypedGraphQL.Document

namespace TypedGraphQL

/-- A document. -/
structure Document where
  definitions : List Document.Definition
  deriving Repr

end TypedGraphQL
