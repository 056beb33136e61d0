import TypedGraphQL.Document.Syntax
import TypedGraphQL.Document.Token

/-!
# Reading a document

A text is cut into tokens and the tokens are read from left to right; one token always decides what
comes next.  Brackets may be nested to a limited depth only.

## What is here

* `value?`, `arguments?`, `directives?`, `typeRef?` — the parts of a selection and of a header.
* `selectionList?`, `selection?` — selection sets.
* `definition?`, `definitions?` — operations and fragments.
* `Document.parse` — a whole text; `SyntaxError` says why it is no document.

The readers are recursive in a number that bounds the depth of their calls.  Between two tokens
there are never more than four calls, so four times the number of tokens is enough.
-/

set_option autoImplicit false

namespace TypedGraphQL.Document

/-- Why a text is no document. -/
inductive SyntaxError
  /-- Some characters are no token. -/
  | badToken
  /-- Too many brackets are open at once. -/
  | tooDeep
  /-- The tokens are not arranged as a document. -/
  | badArrangement
  deriving DecidableEq, Repr

/-- The reason in words. -/
def SyntaxError.message : SyntaxError → String
  | badToken => "unknown token"
  | tooDeep => "too many open brackets"
  | badArrangement => "unexpected token"

/-! ## Brackets -/

/-- How many brackets may be open at once. -/
def maxOpen : Nat := 50

/-- The token opens a bracket. -/
def Token.opens (t : Token) : Bool :=
  t == .punct '(' || t == .punct '[' || t == .punct '{'

/-- The token closes a bracket. -/
def Token.closes (t : Token) : Bool :=
  t == .punct ')' || t == .punct ']' || t == .punct '}'

/-- No more than `room` further brackets are ever open. -/
def withinRoom (room : Nat) : List Token → Bool
  | [] => true
  | t :: rest =>
    if t.opens then
      match room with
      | 0 => false
      | room + 1 => withinRoom room rest
    else if t.closes then withinRoom (room + 1) rest
    else withinRoom room rest

/-! ## Values and types -/

mutual

/-- A value.  A constant one mentions no variable. -/
def value? (constant : Bool) : Nat → List Token → Option (Value × List Token)
  | 0, _ => none
  | n + 1, tokens =>
    match tokens with
    | .name s :: rest => some (.name s, rest)
    | .int i :: rest => some (.int i, rest)
    | .float s :: rest => some (.float s, rest)
    | .str s :: rest => some (.str s, rest)
    | .block s :: rest => some (.block s, rest)
    | .punct '$' :: .name s :: rest => if constant then none else some (.variable s, rest)
    | .punct '[' :: rest => do
      let (items, rest) ← items? constant n rest
      return (.list items, rest)
    | .punct '{' :: rest => do
      let (members, rest) ← members? constant n rest
      return (.object members, rest)
    | _ => none

/-- The items of a list and its end. -/
def items? (constant : Bool) : Nat → List Token → Option (List Value × List Token)
  | 0, _ => none
  | n + 1, tokens =>
    match tokens with
    | .punct ']' :: rest => some ([], rest)
    | tokens => do
      let (item, rest) ← value? constant n tokens
      let (items, rest) ← items? constant n rest
      return (item :: items, rest)

/-- The members of an object and its end. -/
def members? (constant : Bool) : Nat → List Token → Option (List (String × Value) × List Token)
  | 0, _ => none
  | n + 1, tokens =>
    match tokens with
    | .punct '}' :: rest => some ([], rest)
    | .name key :: .punct ':' :: rest => do
      let (value, rest) ← value? constant n rest
      let (members, rest) ← members? constant n rest
      return ((key, value) :: members, rest)
    | _ => none

end

/-- A mark behind a type, if there is one. -/
def nonNull (type : Bool → TypeRef) : List Token → TypeRef × List Token
  | .punct '!' :: rest => (type true, rest)
  | rest => (type false, rest)

/-- A type. -/
def typeRef? : Nat → List Token → Option (TypeRef × List Token)
  | 0, _ => none
  | n + 1, tokens =>
    match tokens with
    | .name s :: rest => some (nonNull (.named s) rest)
    | .punct '[' :: rest => do
      let (item, rest) ← typeRef? n rest
      match rest with
      | .punct ']' :: rest => some (nonNull (.list item) rest)
      | _ => none
    | _ => none

/-! ## Arguments and directives -/

/-- One or more arguments and their end. -/
def argumentList? : Nat → List Token → Option (Arguments × List Token)
  | 0, _ => none
  | n + 1, tokens =>
    match tokens with
    | .name key :: .punct ':' :: rest => do
      let (value, rest) ← value? false n rest
      match rest with
      | .punct ')' :: rest => some ([(key, value)], rest)
      | rest => do
        let (more, rest) ← argumentList? n rest
        return ((key, value) :: more, rest)
    | _ => none

/-- Arguments in brackets, if there are any. -/
def arguments? (n : Nat) (tokens : List Token) : Option (Arguments × List Token) :=
  match tokens with
  | .punct '(' :: rest => argumentList? n rest
  | rest => some ([], rest)

/-- Any number of directives. -/
def directives? : Nat → List Token → Option (List Directive × List Token)
  | 0, _ => none
  | n + 1, tokens =>
    match tokens with
    | .punct '@' :: rest =>
      match rest with
      | .name name :: rest => do
        let (arguments, rest) ← arguments? n rest
        let (more, rest) ← directives? n rest
        return (⟨name, arguments⟩ :: more, rest)
      | _ => none
    | rest => some ([], rest)

/-! ## Selections -/

mutual

/-- One or more selections and the end of their set. -/
def selectionList? : Nat → List Token → Option (List Selection × List Token)
  | 0, _ => none
  | n + 1, tokens => do
    let (selection, rest) ← selection? n tokens
    match rest with
    | .punct '}' :: rest => some ([selection], rest)
    | rest => do
      let (more, rest) ← selectionList? n rest
      return (selection :: more, rest)

/-- A selection. -/
def selection? : Nat → List Token → Option (Selection × List Token)
  | 0, _ => none
  | n + 1, tokens =>
    match tokens with
    | .name s :: rest =>
      match rest with
      | .punct ':' :: rest =>
        match rest with
        | .name name :: rest => field? n (some s) name rest
        | _ => none
      | rest => field? n none s rest
    | .spread :: rest =>
      match rest with
      | .name s :: rest =>
        if s = "on" then
          match rest with
          | .name type :: rest => inline? n (some type) rest
          | _ => none
        else do
          let (directives, rest) ← directives? n rest
          return (.spread s directives, rest)
      | rest => inline? n none rest
    | _ => none

/-- What follows the name of a field. -/
def field? : Nat → Option String → String → List Token → Option (Selection × List Token)
  | 0, _, _, _ => none
  | n + 1, outputName, name, tokens => do
    let (arguments, rest) ← arguments? n tokens
    let (directives, rest) ← directives? n rest
    match rest with
    | .punct '{' :: rest => do
      let (selections, rest) ← selectionList? n rest
      return (.field outputName name arguments directives selections, rest)
    | rest => some (.field outputName name arguments directives [], rest)

/-- What follows the type of an inline fragment. -/
def inline? : Nat → Option String → List Token → Option (Selection × List Token)
  | 0, _, _ => none
  | n + 1, on, tokens => do
    let (directives, rest) ← directives? n tokens
    match rest with
    | .punct '{' :: rest => do
      let (selections, rest) ← selectionList? n rest
      return (.inline on directives selections, rest)
    | _ => none

end

/-- A selection set. -/
def selectionSet? (n : Nat) (tokens : List Token) : Option (List Selection × List Token) :=
  match tokens with
  | .punct '{' :: rest => selectionList? n rest
  | _ => none

/-! ## Definitions -/

/-- A default value, if there is one. -/
def default? (n : Nat) (tokens : List Token) : Option (Option Value × List Token) :=
  match tokens with
  | .punct '=' :: rest => do
    let (value, rest) ← value? true n rest
    return (some value, rest)
  | rest => some (none, rest)

/-- One or more declarations of variables and their end. -/
def variableList? : Nat → List Token → Option (List VariableDefinition × List Token)
  | 0, _ => none
  | n + 1, tokens =>
    match tokens with
    | .punct '$' :: .name name :: .punct ':' :: rest => do
      let (type, rest) ← typeRef? n rest
      let (value, rest) ← default? n rest
      match rest with
      | .punct ')' :: rest => some ([⟨name, type, value⟩], rest)
      | rest => do
        let (more, rest) ← variableList? n rest
        return (⟨name, type, value⟩ :: more, rest)
    | _ => none

/-- The header of an operation, if there is one. -/
def header? (n : Nat) (tokens : List Token) : Option (List VariableDefinition × List Token) :=
  match tokens with
  | .punct '(' :: rest => variableList? n rest
  | rest => some ([], rest)

/-- A name, if there is one. -/
def optionalName (tokens : List Token) : Option String × List Token :=
  match tokens with
  | .name s :: rest => (some s, rest)
  | rest => (none, rest)

/-- What follows the keyword of an operation. -/
def operation? (n : Nat) (kind : OperationKind) (tokens : List Token) :
    Option (Definition × List Token) := do
  let (name, rest) := optionalName tokens
  let (header, rest) ← header? n rest
  let (directives, rest) ← directives? n rest
  let (selections, rest) ← selectionSet? n rest
  return (.operation kind name header directives selections, rest)

/-- What follows the keyword of a fragment. -/
def fragment? (n : Nat) (tokens : List Token) : Option (Definition × List Token) :=
  match tokens with
  | .name name :: .name on :: .name type :: rest =>
    if on = "on" then do
      let (directives, rest) ← directives? n rest
      let (selections, rest) ← selectionSet? n rest
      return (.fragment name type directives selections, rest)
    else none
  | _ => none

/-- An operation or a fragment. -/
def definition? (n : Nat) (tokens : List Token) : Option (Definition × List Token) :=
  match tokens with
  | .punct '{' :: rest => do
    let (selections, rest) ← selectionList? n rest
    return (.bare selections, rest)
  | .name s :: rest =>
    match OperationKind.ofKeyword? s with
    | some kind => operation? n kind rest
    | none => if s = "fragment" then fragment? n rest else none
  | _ => none

/-- One or more definitions and then the end. -/
def definitions? : Nat → List Token → Option (List Definition)
  | 0, _ => none
  | n + 1, tokens => do
    let (definition, rest) ← definition? n tokens
    match rest with
    | [] => some [definition]
    | rest => do
      let more ← definitions? n rest
      return definition :: more

/-- The document that tokens make up. -/
def ofTokens (tokens : List Token) : Except SyntaxError Document :=
  if withinRoom maxOpen tokens then
    match definitions? (4 * tokens.length + 4) tokens with
    | some definitions => .ok ⟨definitions⟩
    | none => .error .badArrangement
  else .error .tooDeep

/-- Reads a document. -/
def parse (text : String) : Except SyntaxError Document :=
  match tokens? text.toList with
  | some tokens => ofTokens tokens
  | none => .error .badToken

end TypedGraphQL.Document
