import Mathlib.Data.List.Nodup
import TypedGraphQL.Proofs.Operation.Body
import TypedGraphQL.Proofs.Selection.Role

/-!
# The records that are expanded in a selection

The sets of a selection belong to records: the whole one to the root, and the set below an entry to
the record that the field of this name leads to.  This file reads a tree in this way, without
looking at the walk that made it.  It makes sense if a record has every name only once.

## What is here

* `Catalog.child?` — the record below the field of a name.
* `SelectionSet.expansions` — the records of a tree, each with its set, in the order of the text.
* `SelectionSet.leaves`, `RecordShape.scalarEntries` — the entries of a set with nothing below them,
  and those that the scalar fields of a record ask for.
* `child?_of_mem`, `nodup_scalarEntries` — a name belongs to one field.
-/

set_option autoImplicit false

namespace TypedGraphQL

variable {R : Type}

/-- The record below the field of `r` that has the given name. -/
def Catalog.child? (catalog : Catalog R) (r : R) (name : String) : Option R :=
  match (catalog r).fields.find? (·.resolvedName? == some name) with
  | some f => f.type.record?
  | none => none

/-- The entry of a scalar field. -/
def FieldShape.leaf? (f : FieldShape R) : Option Entry :=
  match f.type.record? with
  | none => f.resolvedName?.map fun name => ⟨name, f.arguments⟩
  | some _ => none

/-- The entries of the scalar fields of a record, in declared order. -/
def RecordShape.scalarEntries (record : RecordShape R) : List Entry :=
  record.fields.filterMap FieldShape.leaf?

namespace SelectionSet

/-- The entries of a set with nothing below them. -/
def leaves : SelectionSet → List Entry
  | nil => []
  | leaf e rest => e :: rest.leaves
  | branch _ _ rest => rest.leaves

/-- The records below the entries of a set that belongs to `r`, each with its own set. -/
def expandedBelow (catalog : Catalog R) : SelectionSet → (r : R) → List (R × SelectionSet)
  | nil, _ => []
  | leaf _ rest, r => rest.expandedBelow catalog r
  | branch e children rest, r =>
    (match catalog.child? r e.name with
     | some child => (child, children) :: children.expandedBelow catalog child
     | none => []) ++ rest.expandedBelow catalog r

/-- **The records that are expanded in a set that belongs to `r`**, each with its own set. -/
def expansions (catalog : Catalog R) (s : SelectionSet) (r : R) : List (R × SelectionSet) :=
  (r, s) :: s.expandedBelow catalog r

variable {catalog : Catalog R} {r child : R}

theorem expandedBelow_branch {e : Entry} {children rest : SelectionSet}
    (h : catalog.child? r e.name = some child) :
    (branch e children rest).expandedBelow catalog r =
      children.expansions catalog child ++ rest.expandedBelow catalog r := by
  rw [expandedBelow, h]
  rfl

end SelectionSet

/-! ## Names that belong to one field -/

section Names

variable {catalog : Catalog R} {r child : R} {f : FieldShape R} {name : String}

/-- **The record below a name is that of the field of this name.** -/
theorem child?_of_mem (hnames : ((catalog r).fields.map FieldShape.resolvedName?).Nodup)
    (hf : f ∈ (catalog r).fields) (hname : f.resolvedName? = some name) :
    catalog.child? r name = f.type.record? := by
  rw [Catalog.child?]
  cases hfind : (catalog r).fields.find? (·.resolvedName? == some name) with
  | none => exact absurd (beq_iff_eq.2 hname) (List.find?_eq_none.1 hfind f hf)
  | some g =>
    have hfound := List.find?_some hfind
    have hsame : g.resolvedName? = f.resolvedName? := (beq_iff_eq.1 hfound).trans hname.symm
    rw [List.inj_on_of_nodup_map hnames (List.mem_of_find?_eq_some hfind) hf hsame]

theorem FieldShape.leaf?_of_scalar (hname : f.resolvedName? = some name)
    (h : f.type.record? = none) : f.leaf? = some ⟨name, f.arguments⟩ := by
  rw [FieldShape.leaf?, h, hname]
  rfl

theorem FieldShape.leaf?_of_record (h : f.type.record? = some r) : f.leaf? = none := by
  rw [FieldShape.leaf?, h]

theorem resolvedName?_of_leaf? {e : Entry} (h : f.leaf? = some e) :
    f.resolvedName? = some e.name := by
  rw [FieldShape.leaf?] at h
  split at h
  · obtain ⟨name, hname, rfl⟩ := Option.map_eq_some_iff.1 h
    exact hname
  · cases h

/-- The entries of the scalar fields have different names. -/
theorem nodup_scalarEntries {record : RecordShape R}
    (hnames : (record.fields.map FieldShape.resolvedName?).Nodup) :
    (record.scalarEntries.map (·.name)).Nodup := by
  refine List.pairwise_map.2 (List.Pairwise.filterMap _ ?_ (List.pairwise_map.1 hnames))
  intro f g hne d hd e he heq
  refine hne ?_
  rw [resolvedName?_of_leaf? hd, resolvedName?_of_leaf? he, heq]

end Names

end TypedGraphQL
