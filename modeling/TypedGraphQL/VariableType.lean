import TypedGraphQL.Document.Name
import TypedGraphQL.Options

/-!
# Types of variables and their signatures

The header of an operation gives the type of every variable, such as `[ID!]!`.  A `!` marks what
must not be null.

## What is here

* `ScalarKind` — the nullable scalars and their entries in the type table.
* `VariableType` — a type: a scalar kind or a name, below lists and optional wrappers.
* `VariableType.leaf`, `Leaf.spelling` — what stands at the bottom of a type and how it is spelled.
* `encodeType` — the signature of a type.

A `!` is written where a list or leaf is required.  It is required as the item of a list, or at the
top if the caller says so.  Directly below an optional wrapper it is not, except in a mutation whose
options ask for it.  Several entries of the type table end in a `!` of their own, which is written
in addition to that of the position unless the options drop it.
-/

set_option autoImplicit false

namespace TypedGraphQL

/-- The nullable scalars. -/
inductive ScalarKind
  | bool
  | float64
  | int64
  | string
  | time
  | id
  deriving DecidableEq, Repr

namespace ScalarKind

/-- The name of the type on the server. -/
def baseName : ScalarKind → String
  | bool => "Boolean"
  | float64 => "Float"
  | int64 => "Int"
  | string => "String"
  | time => "DateTime"
  | id => "ID"

/-- The entry of the type table ends in a `!`. -/
def isMarked : ScalarKind → Bool
  | bool => false
  | float64 => true
  | int64 => true
  | string => true
  | time => true
  | id => false

/-- The entry of the type table. -/
def tableName (k : ScalarKind) : String :=
  if k.isMarked then k.baseName ++ "!" else k.baseName

end ScalarKind

/-- The type of a variable. -/
inductive VariableType
  | scalar (kind : ScalarKind)
  /-- An enumeration, an input object or a built-in scalar. -/
  | named (name : String)
  | list (element : VariableType)
  | optional (element : VariableType)
  deriving DecidableEq, Repr

/-- What stands at the bottom of a type. -/
inductive Leaf
  | scalar (kind : ScalarKind)
  | named (name : String)
  deriving DecidableEq, Repr

/-- The name of a type that is no name. -/
structure UnsupportedType where
  name : String
  deriving DecidableEq, Repr

/-- How a leaf is spelled; a name must be one. -/
def Leaf.spelling (options : CompileOptions) : Leaf → Except UnsupportedType String
  | scalar kind => .ok (if options.doubleRequiredMarker then kind.tableName else kind.baseName)
  | named name => if Document.isName name then .ok name else .error ⟨name⟩

/-- The leaf of a type. -/
def VariableType.leaf : VariableType → Leaf
  | scalar kind => .scalar kind
  | named name => .named name
  | list t => t.leaf
  | optional t => t.leaf

/-- The mark of a required position. -/
def requiredMark (required : Bool) : String :=
  if required then "!" else ""

/-- The signature of a type at a position that is required or not. -/
def encodeType (options : CompileOptions) (isMutation : Bool) :
    VariableType → (required : Bool) → Except UnsupportedType String
  | .scalar kind, required => do
    let name ← (Leaf.scalar kind).spelling options
    return name ++ requiredMark required
  | .named name, required => do
    let name ← (Leaf.named name).spelling options
    return name ++ requiredMark required
  | .list t, required => do
    let item ← encodeType options isMutation t true
    return "[" ++ item ++ "]" ++ requiredMark required
  | .optional t, _ =>
    encodeType options isMutation t (isMutation && options.mutationOptionalAsRequired)

end TypedGraphQL
