import TypedGraphQL.Selection

/-!
# Writing a selection set in one pass

The text of a selection set is written while the shapes are walked.  All sets go into one text, and
a flag says whether the set that is open has an entry already, so that a comma stands between two
entries and nowhere else.  An inlined record writes into the set around it and shares its flag.

## What is here

* `Draft` — the text so far and the flag; `Draft.put`, `Draft.openSet`, `Draft.closeSet`.
* `writeFields`, `writeRecord` — write the fields of a record into the set that is open.
* `writeSelection` — the text of the selection set of a type.

Nothing is given back when a shape turns out to have no selection: the draft is dropped with the
first problem.  Which problem that is does not depend on the draft.
-/

set_option autoImplicit false

namespace TypedGraphQL

/-- Text under way. -/
structure Draft where
  /-- What has been written so far. -/
  text : String
  /-- The set that is open has no entry yet. -/
  first : Bool
  deriving DecidableEq, Repr

namespace Draft

/-- Opens a set. -/
def openSet (d : Draft) : Draft :=
  ⟨d.text ++ "\x7b", true⟩

/-- Closes the set that is open.  The set around it, if there is one, has the entry above. -/
def closeSet (d : Draft) : Draft :=
  ⟨d.text ++ "\x7d", false⟩

/-- Writes a name and the arguments behind it, after a comma unless the entry is the first. -/
def put (d : Draft) (entry : Entry) : Draft :=
  ⟨d.text ++ (if d.first then "" else ",") ++ entry.name ++ entry.arguments.getD "", false⟩

end Draft

section Writer

variable {R : Type}

/-- Writes the given fields of the record `typeName`, entered with `inverse`, into the set that is
open; `enter` writes the fields of a record below. -/
def writeFields (enter : Option String → R → Draft → Except ShapeError Draft) (typeName : String)
    (inverse : Option String) : List (FieldShape R) → Draft → Except ShapeError Draft
  | [], d => .ok d
  | f :: fields, d =>
    match f.role typeName inverse with
    | .skipped => writeFields enter typeName inverse fields d
    | .refused cause => .error cause
    | .splice child => do
      let d ← enter f.inverse child d
      writeFields enter typeName inverse fields d
    | .leaf entry => writeFields enter typeName inverse fields (d.put entry)
    | .branch entry child => do
      let d ← enter f.inverse child (d.put entry).openSet
      writeFields enter typeName inverse fields d.closeSet

/-- Writes the fields of a record entered with `inverse`, where `levels` more levels are allowed,
this one included, of `limit` in all. -/
def writeRecord (catalog : Catalog R) (limit : Nat) :
    (levels : Nat) → (inverse : Option String) → RecordShape R → Draft → Except ShapeError Draft
  | 0, _, record, _ => .error (.nestsTooDeep record.typeName limit)
  | levels + 1, inverse, record, d =>
    writeFields (fun inv r => writeRecord catalog limit levels inv (catalog r)) record.typeName
      inverse record.fields d

/-- The text of the selection set of the record below the wrappers of a type. -/
def writeSelection (catalog : Catalog R) (limit : Nat) (root : TypeShape R) :
    Except ShapeError String :=
  match root.record? with
  | none => .error .rootNotRecord
  | some r => do
    let d ← writeRecord catalog limit limit none (catalog r) ⟨"\x7b", true⟩
    return d.closeSet.text

end Writer

end TypedGraphQL
