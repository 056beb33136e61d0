import TypedGraphQL.Error
import TypedGraphQL.Json.ObjectWriter

/-!
# The variables of an operation

## What is here

* `Variables` — variables by name, in the order of their names.
* `Variables.set`, `Variables.insert` — an entry is set, or a value is encoded and set.
* `Variables.ofEntries` — the variables with the given entries; the last of several under one name
  counts.
* `Variables.toJson` — the object that is sent; `Variables.serialize` hands its entries to any
  writer of objects.
* `Variables.header` — the declarations in the header of an operation, such as `$a:Int!$b:Boolean`.
  No commas stand between them, since commas mean nothing in a document.
* `Variables.get?_set`, `Variables.ext` — the entries after a change, and that the entries are all
  there is.
-/

set_option autoImplicit false

namespace TypedGraphQL

open Json

/-- Variables by name. -/
structure Variables where
  entries : List (String × Variable)
  ordered : Ordered entries

namespace Variables

/-- No variables. -/
def empty : Variables := ⟨[], ordered_nil⟩

/-- The variable of a name. -/
def get? (vs : Variables) (name : String) : Option Variable :=
  lookup? name vs.entries

/-- The number of variables. -/
def length (vs : Variables) : Nat :=
  vs.entries.length

/-- There are no variables. -/
def isEmpty (vs : Variables) : Bool :=
  vs.entries.isEmpty

/-- The variables with one entry set. -/
def set (vs : Variables) (name : String) (v : Variable) : Variables :=
  ⟨insertEntry name v vs.entries, ordered_insertEntry vs.ordered⟩

/-- Encodes a value and sets it. -/
def insert (vs : Variables) (name : String) (i : Input) : Except Error Variables :=
  match Variable.ofInput i with
  | .ok v => .ok (vs.set name v)
  | .error cause => .error (.variableEncode name cause)

/-- The variables with the given entries. -/
def ofEntries (entries : List (String × Variable)) : Variables :=
  entries.foldl (fun vs e => vs.set e.1 e.2) empty

/-- Equal names, types and values. -/
def same (vs ws : Variables) : Bool :=
  vs.length == ws.length &&
    (vs.entries.zip ws.entries).all fun (e, f) => e.1 == f.1 && e.2.same f.2

/-- The names and values, in the order of the names. -/
def members (vs : Variables) : List (String × Json) :=
  vs.entries.map fun e => (e.1, e.2.value)

/-- The object that is sent. -/
def toJson (vs : Variables) : Json :=
  objectOf vs.members

/-- Hands the names and values to a writer of objects. -/
def serialize {σ τ : Type} (vs : Variables) (w : ObjectWriter σ τ) : τ :=
  w.write vs.members

/-- The declaration of one variable. -/
def declaration (options : CompileOptions) (isMutation : Bool) (e : String × Variable) :
    Except UnsupportedType String := do
  let signature ← encodeType options isMutation e.2.type true
  return "$" ++ e.1 ++ ":" ++ signature

/-- The declarations of some variables, one after the other. -/
def declarations (options : CompileOptions) (isMutation : Bool) :
    List (String × Variable) → Except UnsupportedType String
  | [] => .ok ""
  | e :: rest => do
    let first ← declaration options isMutation e
    let more ← declarations options isMutation rest
    return first ++ more

/-- The declarations in the header of an operation. -/
def header (options : CompileOptions) (isMutation : Bool) (vs : Variables) :
    Except UnsupportedType String :=
  declarations options isMutation vs.entries

/-! ## The entries are all there is -/

theorem get?_empty (name : String) : empty.get? name = none := rfl

/-- **After an entry is set, its name has the new variable and every other name its old one.** -/
theorem get?_set (vs : Variables) (name k : String) (v : Variable) :
    (vs.set name v).get? k = if k = name then some v else vs.get? k :=
  lookup?_insertEntry name k v vs.ordered

/-- The members of the object that is sent are in the order of their keys. -/
theorem ordered_members (vs : Variables) : Ordered vs.members :=
  List.pairwise_map.2 vs.ordered

/-- **Variables that agree on every name are equal.** -/
theorem ext {vs ws : Variables} (h : ∀ name, vs.get? name = ws.get? name) : vs = ws := by
  have he : vs.entries = ws.entries := eq_of_lookup?_eq vs.ordered ws.ordered h
  cases vs
  cases ws
  simp_all

end Variables

end TypedGraphQL
