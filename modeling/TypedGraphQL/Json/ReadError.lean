import TypedGraphQL.Json.ParseTree
import TypedGraphQL.Text.Quoted

/-!
# Why JSON does not read as a type

Either the text itself has a flaw, or it is JSON of another shape than the type asks for.

## What is here

* `Found` — what was found in place of something else; `Found.text` names it.
* `Mismatch` — how JSON differs from what a type asks for; `Mismatch.message` says so.
* `ReadError` — a flaw or a mismatch.
* `reject` — refuses a tree, naming what it is.  A tree that cannot be read is refused for its flaw.
-/

set_option autoImplicit false

namespace TypedGraphQL.Json

/-- What was found in place of something else. -/
inductive Found
  | null
  | bool (b : Bool)
  | number (n : Number)
  | str (s : String)
  | sequence
  | map
  deriving DecidableEq, Repr

/-- A name for what was found. -/
def Found.text : Found → String
  | null => "null"
  | bool true => "boolean `true`"
  | bool false => "boolean `false`"
  | number (.int n) => "integer `" ++ String.ofList (Number.int n).text ++ "`"
  | number (.float x) => "floating point `" ++ String.ofList (Number.float x).text ++ "`"
  | str s => "string " ++ Text.quoted s
  | sequence => "sequence"
  | map => "map"

/-- How JSON differs from what a type asks for. -/
inductive Mismatch
  | missingField (name : String)
  | duplicateField (name : String)
  | invalidType (found : Found) (expected : String)
  | invalidValue (found : Found) (expected : String)
  | invalidLength (length : Nat) (expected : String)
  /-- The text is no point in time. -/
  | invalidTime (text : String)
  /-- A response without errors has no data either. -/
  | noData
  deriving DecidableEq, Repr

/-- The difference in words. -/
def Mismatch.message : Mismatch → String
  | missingField name => "missing field `" ++ name ++ "`"
  | duplicateField name => "duplicate field `" ++ name ++ "`"
  | invalidType found expected => "invalid type: " ++ found.text ++ ", expected " ++ expected
  | invalidValue found expected => "invalid value: " ++ found.text ++ ", expected " ++ expected
  | invalidLength length expected =>
    "invalid length " ++ toString length ++ ", expected " ++ expected
  | invalidTime text => "not a date and time: " ++ Text.quoted text
  | noData => "response contains no data"

/-- Why JSON does not read as a type. -/
inductive ReadError
  | flaw (f : Flaw)
  | mismatch (m : Mismatch)
  deriving DecidableEq, Repr

/-- The reason in words. -/
def ReadError.message : ReadError → String
  | flaw .endsEarly => "the text ends too soon"
  | flaw .malformed => "the text is not JSON"
  | mismatch m => m.message

/-- What a tree is, if it can be read. -/
def ParseTree.found : ParseTree → Except ReadError Found
  | null => .ok .null
  | bool b => .ok (.bool b)
  | number (some n) => .ok (.number n)
  | number none => .error (.flaw .malformed)
  | str (some s) => .ok (.str s)
  | str none => .error (.flaw .malformed)
  | array .. => .ok .sequence
  | object .. => .ok .map
  | broken d => .error (.flaw d.whenRead)

/-- Refuses a tree where something else was expected. -/
def reject {α : Type} (expected : String) (t : ParseTree) : Except ReadError α := do
  let found ← t.found
  .error (.mismatch (.invalidType found expected))

/-- The end of a container that was read: it must have been closed. -/
def closed (unclosed : Option Damage) : Except ReadError Unit :=
  match unclosed with
  | none => .ok ()
  | some d => .error (.flaw d.whenRead)

end TypedGraphQL.Json
