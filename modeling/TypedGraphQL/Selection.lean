import TypedGraphQL.Shape

/-!
# Selection sets

A selection set lists what is read from a record: names, each with its arguments, and below a name
the set that is read from the record found there.  Its text is minified, `{login,posts{title}}`.

Here a set is a tree, and the walk over the shapes, which decides what is kept, never deals with
separators.  `TypedGraphQL.Draft` makes the same walk and writes the text as it goes.

## What is here

* `SelectionSet` — the tree: a list of entries, where an entry may have a set below it.  Entries
  and sets are one inductive type, which keeps every induction a plain one.
* `SelectionSet.render` — the text of a set.
* `ShapeError` — why a shape has no selection.
* `Role`, `FieldShape.role` — what one field contributes.
* `gather` — the entries of the fields of one record; `kept` — the entries of a record, reached
  with some number of levels still allowed.
* `selectRecord`, `select` — the set of a record and of any type.

## The walk

Fields are taken in declared order.  A field is passed over if its tag leaves it out, or if its
name is the *inverse* of the field that led to this record: such a field points back to where the
walk came from.  An inlined field contributes the entries of its record in its own place, and any
other field one entry, with the set of its record below it.  In both cases the field's own inverse
applies to the record below, and not the one this record was entered with.

The number of levels still allowed decreases with every record that is entered, so the walk is
recursive in that number, and no assumption about circles is needed.
-/

set_option autoImplicit false

namespace TypedGraphQL

/-! ## The tree and its text -/

/-- What stands for one field in a set: its name and the arguments after it. -/
structure Entry where
  name : String
  arguments : Option String := none
  deriving DecidableEq, Repr

/-- The name followed by the arguments. -/
def Entry.text (e : Entry) : String :=
  e.name ++ e.arguments.getD ""

/-- The entries of a selection set, in order. -/
inductive SelectionSet
  /-- No further entry. -/
  | nil
  /-- An entry with nothing below it. -/
  | leaf (entry : Entry) (rest : SelectionSet)
  /-- An entry with a set below it. -/
  | branch (entry : Entry) (children rest : SelectionSet)
  deriving DecidableEq, Repr

namespace SelectionSet

/-- The entries of one set followed by those of another. -/
def append : SelectionSet → SelectionSet → SelectionSet
  | nil, t => t
  | leaf e rest, t => leaf e (rest.append t)
  | branch e children rest, t => branch e children (rest.append t)

instance : Append SelectionSet := ⟨append⟩

@[simp] theorem nil_append (t : SelectionSet) : nil ++ t = t := rfl

@[simp] theorem leaf_append (e : Entry) (s t : SelectionSet) :
    leaf e s ++ t = leaf e (s ++ t) := rfl

@[simp] theorem branch_append (e : Entry) (c s t : SelectionSet) :
    branch e c s ++ t = branch e c (s ++ t) := rfl

theorem append_assoc (s t u : SelectionSet) : s ++ t ++ u = s ++ (t ++ u) := by
  induction s <;> simp_all

/-- The texts of the entries, in order.  A set below an entry stands in braces behind it. -/
def entryTexts : SelectionSet → List String
  | nil => []
  | leaf e rest => e.text :: rest.entryTexts
  | branch e children rest =>
    (e.text ++ "\x7b" ++ String.intercalate "," children.entryTexts ++ "\x7d") :: rest.entryTexts

@[simp] theorem entryTexts_append (s t : SelectionSet) :
    (s ++ t).entryTexts = s.entryTexts ++ t.entryTexts := by
  induction s with
  | nil => rfl
  | leaf e rest ih => simp [entryTexts, ih]
  | branch e children rest _ ih => simp [entryTexts, ih]

/-- The entries separated by single commas. -/
def entriesText (s : SelectionSet) : String :=
  String.intercalate "," s.entryTexts

@[simp] theorem entryTexts_eq_nil_iff {s : SelectionSet} : s.entryTexts = [] ↔ s = nil := by
  cases s <;> simp [entryTexts]

theorem entriesText_leaf_nil (e : Entry) : entriesText (leaf e nil) = e.text :=
  String.intercalate_singleton

theorem entriesText_leaf (e : Entry) {rest : SelectionSet} (h : rest ≠ nil) :
    entriesText (leaf e rest) = e.text ++ "," ++ rest.entriesText :=
  String.intercalate_cons_of_ne_nil (mt entryTexts_eq_nil_iff.1 h)

theorem entriesText_branch_nil (e : Entry) (children : SelectionSet) :
    entriesText (branch e children nil) = e.text ++ "\x7b" ++ children.entriesText ++ "\x7d" :=
  String.intercalate_singleton

theorem entriesText_branch (e : Entry) (children : SelectionSet) {rest : SelectionSet}
    (h : rest ≠ nil) :
    entriesText (branch e children rest) =
      e.text ++ "\x7b" ++ children.entriesText ++ "\x7d" ++ "," ++ rest.entriesText :=
  String.intercalate_cons_of_ne_nil (mt entryTexts_eq_nil_iff.1 h)

/-- The text of a set. -/
def render (s : SelectionSet) : String :=
  "\x7b" ++ s.entriesText ++ "\x7d"

end SelectionSet

/-! ## Why a shape has no selection -/

/-- Why a shape has no selection. -/
inductive ShapeError
  /-- The root is a scalar. -/
  | rootNotRecord
  /-- The record `typeName` lies deeper than `limit` levels. -/
  | nestsTooDeep (typeName : String) (limit : Nat)
  /-- The inlined field `ident` of `typeName` has no fields to give. -/
  | embeddedNotRecord (ident typeName : String)
  /-- The inlined field `ident` of `typeName` has arguments, but no name to put them after. -/
  | inlinedWithArguments (ident typeName : String)
  deriving DecidableEq, Repr

/-- The reason in words. -/
def ShapeError.message : ShapeError → String
  | rootNotRecord => "root of a selection must be a record"
  | nestsTooDeep typeName limit =>
    s!"selection under {typeName} nests deeper than {limit} levels"
  | embeddedNotRecord ident typeName => s!"embedded field {ident} of {typeName} is not a record"
  | inlinedWithArguments ident typeName =>
    s!"inlined field {ident} of {typeName} cannot take arguments"

/-! ## The part of a field -/

section Walk

variable {R : Type}

/-- What a field contributes to the selection of its record. -/
inductive Role (R : Type)
  /-- Nothing. -/
  | skipped
  /-- The selection cannot be made. -/
  | refused (cause : ShapeError)
  /-- The entries of a record in the place of the field. -/
  | splice (child : R)
  /-- An entry with nothing below it. -/
  | leaf (entry : Entry)
  /-- An entry with the set of a record below it. -/
  | branch (entry : Entry) (child : R)
  deriving DecidableEq, Repr

/-- What a field of the record `typeName` contributes when the record was entered with `inverse`. -/
def FieldShape.role (typeName : String) (inverse : Option String) (f : FieldShape R) : Role R :=
  match f.resolvedName? with
  | none => .skipped
  | some name =>
    if inverse = some name then .skipped
    else if f.isInlined then
      match f.type.record? with
      | none => .refused (.embeddedNotRecord f.ident typeName)
      | some child =>
        if f.arguments.isSome then .refused (.inlinedWithArguments f.ident typeName)
        else .splice child
    else
      match f.type.record? with
      | none => .leaf ⟨name, f.arguments⟩
      | some child => .branch ⟨name, f.arguments⟩ child

/-! ## The walk -/

/-- The entries of the given fields of the record `typeName`, entered with `inverse`; `enter` gives
the entries of a record below. -/
def gather (enter : Option String → R → Except ShapeError SelectionSet) (typeName : String)
    (inverse : Option String) : List (FieldShape R) → Except ShapeError SelectionSet
  | [] => .ok .nil
  | f :: fields =>
    match f.role typeName inverse with
    | .skipped => gather enter typeName inverse fields
    | .refused cause => .error cause
    | .splice child => do
      let spliced ← enter f.inverse child
      let rest ← gather enter typeName inverse fields
      return spliced ++ rest
    | .leaf entry => do
      let rest ← gather enter typeName inverse fields
      return .leaf entry rest
    | .branch entry child => do
      let children ← enter f.inverse child
      let rest ← gather enter typeName inverse fields
      return .branch entry children rest

/-- The entries of a record entered with `inverse`, where `levels` more levels are allowed, this
one included, of `limit` in all. -/
def kept (catalog : Catalog R) (limit : Nat) :
    (levels : Nat) → (inverse : Option String) → RecordShape R → Except ShapeError SelectionSet
  | 0, _, record => .error (.nestsTooDeep record.typeName limit)
  | levels + 1, inverse, record =>
    gather (fun inv r => kept catalog limit levels inv (catalog r)) record.typeName inverse
      record.fields

/-- The selection set of a record. -/
def selectRecord (catalog : Catalog R) (limit : Nat) (root : RecordShape R) :
    Except ShapeError SelectionSet :=
  kept catalog limit limit none root

/-- The selection set of the record below the wrappers of a type. -/
def select (catalog : Catalog R) (limit : Nat) (root : TypeShape R) :
    Except ShapeError SelectionSet :=
  match root.record? with
  | none => .error .rootNotRecord
  | some r => selectRecord catalog limit (catalog r)

end Walk

end TypedGraphQL
