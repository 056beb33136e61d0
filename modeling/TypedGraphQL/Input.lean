import TypedGraphQL.Schema
import TypedGraphQL.VariableType

/-!
# Values that are sent as variables

A value of a variable comes with its type, and the type decides both the signature in the header
and the JSON of the value.

## What is here

* `ScalarKind.schema`, `Schema.nullable` — the nullable scalars as types that travel as JSON.
* `Schema.point` — a geographic point.
* `InputType` — the types of values that can be sent; `InputType.schema` and
  `InputType.variableType` are their two sides.
* `Input` — a value ready to be sent: its type and its JSON, unless it could not be encoded.
* `Variable` — an entry of the variables of an operation.
-/

set_option autoImplicit false

namespace TypedGraphQL

/-! ## Scalars and points -/

/-- The plain value inside a nullable scalar. -/
def ScalarKind.plainSchema : ScalarKind → Schema
  | .bool => .flag
  | .float64 => .float .double
  | .int64 => .integer (.signed 64)
  | .string => .text
  | .time => .time
  | .id => .text

/-- A nullable scalar. -/
def ScalarKind.schema (k : ScalarKind) : Schema :=
  .optional k.plainSchema

/-- A geographic point.  A coordinate that is not known is left out. -/
def Schema.point : Schema :=
  .record "GqlPoint"
    (.sparse "latitude" (.float .double) (.sparse "longitude" (.float .double) .nil))

/-! ## Types of inputs -/

/-- The types of values that can be sent. -/
inductive InputType
  | text
  | flag
  | integer (range : IntRange)
  | float (width : FloatWidth)
  | time
  | id
  /-- A nullable scalar. -/
  | scalar (kind : ScalarKind)
  | point
  | optional (t : InputType)
  | list (t : InputType)
  /-- A list of exactly two values. -/
  | pair (t : InputType)
  deriving DecidableEq, Repr

namespace InputType

/-- The type as it travels. -/
def schema : InputType → Schema
  | text => .text
  | flag => .flag
  | integer range => .integer range
  | float width => .float width
  | time => .time
  | id => .text
  | scalar kind => kind.schema
  | point => .point
  | optional t => .optional t.schema
  | list t => .list t.schema
  | pair t => .pair t.schema

/-- The type as it is declared. -/
def variableType : InputType → VariableType
  | text => .named "String"
  | flag => .named "Boolean"
  | integer _ => .named "Int"
  | float _ => .named "Float"
  | time => .named "DateTime"
  | id => .named "ID"
  | scalar kind => .scalar kind
  | point => .named "Point"
  | optional t => .optional t.variableType
  | list t => .list t.variableType
  | pair t => .list t.variableType

end InputType

/-! ## Inputs and variables -/

/-- Why a value could not be encoded. -/
structure EncodeFailure where
  text : String
  deriving DecidableEq, Repr

/-- A value to be sent: its declared type, and its JSON if it can be encoded. -/
structure Input where
  type : VariableType
  encoded : Except EncodeFailure Json

/-- A value of one of the input types. -/
def Input.of (t : InputType) (v : t.schema.Value) : Input :=
  ⟨t.variableType, .ok (t.schema.write v)⟩

/-- A variable: a declared type and a value. -/
structure Variable where
  type : VariableType
  value : Json
  deriving Repr

/-- The variable that holds a value. -/
def Variable.ofInput (i : Input) : Except EncodeFailure Variable := do
  let value ← i.encoded
  return ⟨i.type, value⟩

/-- Equal types and equal values. -/
def Variable.same (v w : Variable) : Bool :=
  v.type == w.type && v.value.same w.value

end TypedGraphQL
