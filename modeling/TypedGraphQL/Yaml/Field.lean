import TypedGraphQL.Yaml.Node

/-!
# Values of fields

What a field may hold is up to the reader of a document, who asks for a text, a truth value, a
number or further fields.  Any scalar will do as a text, so `5` and `true` are texts where a text
is asked for; a truth value or a number must be written plainly, or in a block of lines with a tag
that says so.

## What is here

* `Tree.text`, `Tree.bool`, `Tree.natural` — single values.
* `Tree.entries` — keys and values; where nothing is written there are none.
* `Tree.fields` — the values under known names, each of which comes once at most.
-/

set_option autoImplicit false

namespace TypedGraphQL.Yaml

/-- The truth value that a plain scalar spells. -/
def boolOf? (text : String) : Option Bool :=
  if ["true", "True", "TRUE"].contains text then some true
  else if ["false", "False", "FALSE"].contains text then some false
  else none

/-- The value of digits to some base; `none` if there are none or if one is no digit. -/
def digitsTo? (base : Nat) (digits : List Char) : Option Nat :=
  if digits.isEmpty then none
  else digits.foldlM (fun n c => do
    let d ← hexValue? c
    if d < base then some (n * base + d) else none) 0

/-- The natural number that a plain scalar spells: in decimal without further zeros in front, or to
the base sixteen, eight or two. -/
def naturalOf? (text : String) : Option Nat :=
  let unsigned := match text.toList with
    | '+' :: rest => rest
    | chars => chars
  match unsigned with
  | '0' :: 'x' :: digits => digitsTo? 16 digits
  | '0' :: 'o' :: digits => digitsTo? 8 digits
  | '0' :: 'b' :: digits => digitsTo? 2 digits
  | '0' :: _ :: _ => none
  | digits => digitsTo? 10 digits

namespace Tree

/-- A text. -/
def text (t : Tree) (node : Node) : Except Problem String :=
  match t.resolve node with
  | .scalar _ _ text => .ok text
  | _ => .error (.wrongType "a string")

/-- What a scalar spells that is no text: it is written plainly, or its tag says what it is. -/
def spelled (t : Tree) (kind : String) (node : Node) : Option String :=
  match t.resolve node with
  | .scalar .plain _ text => some text
  | .scalar .literal (some tag) text =>
    if tag = "tag:yaml.org,2002:" ++ kind then some text else none
  | _ => none

/-- A truth value. -/
def bool (t : Tree) (node : Node) : Except Problem Bool :=
  match t.spelled "bool" node >>= boolOf? with
  | some b => .ok b
  | none => .error (.wrongType "a boolean")

/-- A natural number below a limit. -/
def natural (t : Tree) (limit : Nat) (node : Node) : Except Problem Nat :=
  match t.spelled "int" node >>= naturalOf? with
  | some n => if n < limit then .ok n else .error (.wrongType "a smaller integer")
  | none => .error (.wrongType "an integer")

/-- Keys and values. -/
def entries (t : Tree) (node : Node) : Except Problem (List (Node × Node)) :=
  match t.resolve node with
  | .mapping entries => .ok entries
  | .scalar .plain _ "" => .ok []
  | _ => .error (.wrongType "a map")

/-- The values under known names.  Other keys do not matter. -/
def fields (t : Tree) (names : List String) (node : Node) :
    Except Problem (List (String × Node)) := do
  let step (found : List (String × Node)) (entry : Node × Node) := do
    let key ← t.text entry.1
    if !names.contains key then return found
    else if (found.lookup key).isSome then throw (.duplicateField key)
    else return (key, entry.2) :: found
  (← t.entries node).foldlM step []

end Tree

/-- The value under a name, or something else if there is none. -/
def fieldOr {α : Type} (fields : List (String × Node)) (name : String)
    (read : Node → Except Problem α) (default : α) : Except Problem α :=
  match fields.lookup name with
  | some node => read node
  | none => .ok default

/-- The value under a name that must be there. -/
def field {α : Type} (fields : List (String × Node)) (name : String)
    (read : Node → Except Problem α) : Except Problem α :=
  match fields.lookup name with
  | some node => read node
  | none => .error (.missingField name)

end TypedGraphQL.Yaml
