import TypedGraphQL.Json.Number
import TypedGraphQL.Ordered

/-!
# JSON values

## What is here

* `Json` — the values.  An object lists its members in the order in which they are written.
* `Json.same` — equality of values, number by number as `Number.same` has it.
* `Json.objectOf` — the object with the given members, ordered by key; the last of several members
  with one key counts.
* `Json.write`, `Json.render` — the compact text of a value.
-/

set_option autoImplicit false

namespace TypedGraphQL

/-- A JSON value. -/
inductive Json
  | null
  | bool (b : Bool)
  | number (n : Json.Number)
  | str (s : String)
  | arr (items : List Json)
  | obj (members : List (String × Json))
  deriving Repr

namespace Json

/-- An integer as a value. -/
def int (n : Int) : Json := .number (.int n)

/-! ## Equality -/

mutual

/-- Equal as values. -/
def same : Json → Json → Bool
  | null, null => true
  | bool a, bool b => a == b
  | number m, number n => m.same n
  | str s, str t => s == t
  | arr xs, arr ys => sameItems xs ys
  | obj xs, obj ys => sameMembers xs ys
  | _, _ => false

/-- Equal item by item. -/
def sameItems : List Json → List Json → Bool
  | [], [] => true
  | x :: xs, y :: ys => x.same y && sameItems xs ys
  | _, _ => false

/-- Equal member by member. -/
def sameMembers : List (String × Json) → List (String × Json) → Bool
  | [], [] => true
  | (k, x) :: xs, (l, y) :: ys => k == l && x.same y && sameMembers xs ys
  | _, _ => false

end

/-! ## Objects -/

/-- The object with the given members, ordered by key. -/
def objectOf (members : List (String × Json)) : Json :=
  obj (members.foldl (fun done m => insertEntry m.1 m.2 done) [])

/-- The member of an object under a key. -/
def member? (key : String) : Json → Option Json
  | obj members => lookup? key members
  | _ => none

/-! ## Text -/

/-- The two hexadecimal digits of a number below 256. -/
def hexByte (n : Nat) : List Char :=
  [Nat.digitChar (n / 16), Nat.digitChar (n % 16)]

/-- One character inside a JSON string: only quotes, backslashes and controls are escaped. -/
def escapedChar (c : Char) : List Char :=
  match c with
  | '"' => ['\\', '"']
  | '\\' => ['\\', '\\']
  | '\x08' => ['\\', 'b']
  | '\x09' => ['\\', 't']
  | '\x0a' => ['\\', 'n']
  | '\x0c' => ['\\', 'f']
  | '\x0d' => ['\\', 'r']
  | c => if c.toNat < 32 then ['\\', 'u', '0', '0'] ++ hexByte c.toNat else [c]

/-- A string as a JSON string. -/
def writeString (s : String) : List Char :=
  '"' :: s.toList.flatMap escapedChar ++ ['"']

mutual

/-- The compact text of a value. -/
def write : Json → List Char
  | null => ['n', 'u', 'l', 'l']
  | bool true => ['t', 'r', 'u', 'e']
  | bool false => ['f', 'a', 'l', 's', 'e']
  | number n => n.text
  | str s => writeString s
  | arr items => '[' :: writeItems items ++ [']']
  | obj members => '{' :: writeMembers members ++ ['}']

/-- Items separated by commas. -/
def writeItems : List Json → List Char
  | [] => []
  | [x] => x.write
  | x :: y :: rest => x.write ++ ',' :: writeItems (y :: rest)

/-- Members separated by commas. -/
def writeMembers : List (String × Json) → List Char
  | [] => []
  | [(k, x)] => writeString k ++ ':' :: x.write
  | (k, x) :: y :: rest => writeString k ++ ':' :: x.write ++ ',' :: writeMembers (y :: rest)

end

/-- The compact text of a value, as a string. -/
def render (v : Json) : String :=
  String.ofList v.write

end Json

end TypedGraphQL
