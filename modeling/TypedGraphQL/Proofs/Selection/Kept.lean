import TypedGraphQL.Proofs.Selection.Role

/-!
# The kept tree of a record

`select` walks the shapes with a number of levels still allowed.  This file says what the walk is
after, without any such number: `KeptTree` describes the entries of a record by rules on its fields.
In a circle of records a tree need not exist, since derivations are finite; where one exists, it is
the only one.

## What is here

* `KeptTree` — the kept entries of some fields; `KeptTree.unique`.
* `keptTree_of_kept`, `keptTree_of_select` — the walk finds the kept tree.
-/

set_option autoImplicit false

namespace TypedGraphQL

variable {R : Type}

/-! ## The kept tree -/

/-- `KeptTree catalog inverse fields s`: the fields of a record entered with `inverse` keep the
entries `s`. -/
inductive KeptTree (catalog : Catalog R) :
    Option String → List (FieldShape R) → SelectionSet → Prop
  | nil {inverse : Option String} : KeptTree catalog inverse [] .nil
  /-- The tag leaves the field out. -/
  | omitted {inverse : Option String} {f : FieldShape R} {fields : List (FieldShape R)}
      {s : SelectionSet} (htag : f.tag = some FieldShape.omitTag)
      (rest : KeptTree catalog inverse fields s) : KeptTree catalog inverse (f :: fields) s
  /-- The field points back to where the record was entered from. -/
  | backReference {inverse : Option String} {f : FieldShape R} {fields : List (FieldShape R)}
      {s : SelectionSet} {name : String} (hname : f.resolvedName? = some name)
      (hinv : inverse = some name) (rest : KeptTree catalog inverse fields s) :
      KeptTree catalog inverse (f :: fields) s
  /-- The entries of the child stand in the place of the field.  They are entered with the inverse
  of the field, and not with that of the record. -/
  | inlined {inverse : Option String} {f : FieldShape R} {fields : List (FieldShape R)}
      {spliced s : SelectionSet} {name : String} {child : R} (hk : f.KeptAs inverse name)
      (hin : f.embedded = true ∧ f.tag = none) (hr : f.type.element = .record child)
      (below : KeptTree catalog f.inverse (catalog child).fields spliced)
      (rest : KeptTree catalog inverse fields s) :
      KeptTree catalog inverse (f :: fields) (spliced ++ s)
  | leaf {inverse : Option String} {f : FieldShape R} {fields : List (FieldShape R)}
      {s : SelectionSet} {name : String} (hk : f.KeptAs inverse name)
      (hin : ¬ (f.embedded = true ∧ f.tag = none)) (hr : f.type.element = .scalar)
      (rest : KeptTree catalog inverse fields s) :
      KeptTree catalog inverse (f :: fields) (.leaf ⟨name, f.arguments⟩ s)
  | branch {inverse : Option String} {f : FieldShape R} {fields : List (FieldShape R)}
      {children s : SelectionSet} {name : String} {child : R} (hk : f.KeptAs inverse name)
      (hin : ¬ (f.embedded = true ∧ f.tag = none)) (hr : f.type.element = .record child)
      (below : KeptTree catalog f.inverse (catalog child).fields children)
      (rest : KeptTree catalog inverse fields s) :
      KeptTree catalog inverse (f :: fields) (.branch ⟨name, f.arguments⟩ children s)

namespace KeptTree

variable {catalog : Catalog R}

/-- **There is at most one kept tree.** -/
theorem unique {inverse : Option String} {fields : List (FieldShape R)} {s s' : SelectionSet}
    (h : KeptTree catalog inverse fields s) (h' : KeptTree catalog inverse fields s') : s = s' := by
  induction h generalizing s' with
  | nil =>
    cases h'
    rfl
  | omitted htag _ ih =>
    cases h' with
    | omitted _ rest => exact ih rest
    | backReference _ _ rest => exact ih rest
    | inlined hk => exact absurd htag hk.not_omitted
    | leaf hk => exact absurd htag hk.not_omitted
    | branch hk => exact absurd htag hk.not_omitted
  | backReference hname hinv _ ih =>
    cases h' with
    | omitted _ rest => exact ih rest
    | backReference _ _ rest => exact ih rest
    | inlined hk => exact absurd (hinv.trans (hname.symm.trans hk.1)) hk.2
    | leaf hk => exact absurd (hinv.trans (hname.symm.trans hk.1)) hk.2
    | branch hk => exact absurd (hinv.trans (hname.symm.trans hk.1)) hk.2
  | inlined hk hin hr _ _ ihbelow ih =>
    cases h' with
    | omitted htag => exact absurd htag hk.not_omitted
    | backReference hname hinv => exact absurd (hinv.trans (hname.symm.trans hk.1)) hk.2
    | inlined _ _ hr' below rest =>
      cases hr.symm.trans hr'
      rw [ihbelow below, ih rest]
    | leaf _ hin' => exact absurd hin hin'
    | branch _ hin' => exact absurd hin hin'
  | leaf hk hin hr _ ih =>
    cases h' with
    | omitted htag => exact absurd htag hk.not_omitted
    | backReference hname hinv => exact absurd (hinv.trans (hname.symm.trans hk.1)) hk.2
    | inlined _ hin' => exact absurd hin' hin
    | leaf hk' _ _ rest => rw [hk.unique hk', ih rest]
    | branch _ _ hr' => cases hr.symm.trans hr'
  | branch hk hin hr _ _ ihbelow ih =>
    cases h' with
    | omitted htag => exact absurd htag hk.not_omitted
    | backReference hname hinv => exact absurd (hinv.trans (hname.symm.trans hk.1)) hk.2
    | inlined _ hin' => exact absurd hin' hin
    | leaf _ _ hr' => cases hr.symm.trans hr'
    | branch hk' _ hr' below rest =>
      cases hr.symm.trans hr'
      rw [hk.unique hk', ihbelow below, ih rest]

end KeptTree

/-! ## The walk finds the kept tree -/

/-- The entries that are gathered are kept, if this holds for the records below. -/
theorem keptTree_of_gather {catalog : Catalog R}
    {enter : Option String → R → Except ShapeError SelectionSet}
    (henter : ∀ {inverse : Option String} {r : R} {s : SelectionSet}, enter inverse r = .ok s →
      KeptTree catalog inverse (catalog r).fields s)
    {typeName : String} {inverse : Option String} {fields : List (FieldShape R)} {s : SelectionSet}
    (h : gather enter typeName inverse fields = .ok s) : KeptTree catalog inverse fields s := by
  induction fields generalizing s with
  | nil =>
    cases h
    exact KeptTree.nil
  | cons f fields ih =>
    rw [gather_cons_eq_ok_iff] at h
    cases hrole : f.role typeName inverse with
    | skipped =>
      rw [hrole] at h
      have hnot := FieldShape.role_eq_skipped_iff.1 hrole
      cases hname : f.resolvedName? with
      | none => exact .omitted (FieldShape.resolvedName?_eq_none_iff.1 hname) (ih h)
      | some name =>
        have hinv : inverse = some name := Decidable.not_not.1 fun hne => hnot name ⟨hname, hne⟩
        exact .backReference hname hinv (ih h)
    | refused cause =>
      rw [hrole] at h
      exact h.elim
    | splice child =>
      rw [hrole] at h
      obtain ⟨spliced, rest, hs, hrest, rfl⟩ := h
      obtain ⟨⟨name, hk⟩, hin, hr, -⟩ := FieldShape.role_eq_splice_iff.1 hrole
      exact .inlined hk (FieldShape.isInlined_iff.1 hin) (TypeShape.record?_eq_some_iff.1 hr)
        (henter hs) (ih hrest)
    | leaf e =>
      rw [hrole] at h
      obtain ⟨rest, hrest, rfl⟩ := h
      obtain ⟨hk, hin, hr, ha⟩ := FieldShape.role_eq_leaf_iff.1 hrole
      obtain ⟨name, arguments⟩ := e
      subst ha
      exact .leaf hk (FieldShape.isInlined_eq_false_iff.1 hin)
        (TypeShape.element_eq_scalar_iff.2 hr) (ih hrest)
    | branch e child =>
      rw [hrole] at h
      obtain ⟨children, rest, hc, hrest, rfl⟩ := h
      obtain ⟨hk, hin, hr, ha⟩ := FieldShape.role_eq_branch_iff.1 hrole
      obtain ⟨name, arguments⟩ := e
      subst ha
      exact .branch hk (FieldShape.isInlined_eq_false_iff.1 hin)
        (TypeShape.record?_eq_some_iff.1 hr) (henter hc) (ih hrest)

/-- **What the walk finds in a record is its kept tree**, with any number of levels. -/
theorem keptTree_of_kept {catalog : Catalog R} {limit levels : Nat} {inverse : Option String}
    {record : RecordShape R} {s : SelectionSet}
    (h : kept catalog limit levels inverse record = .ok s) :
    KeptTree catalog inverse record.fields s := by
  induction levels generalizing inverse record s with
  | zero => cases h
  | succ levels ih =>
    rw [kept] at h
    exact keptTree_of_gather (fun hs => ih hs) h

/-- **The selection of a type is the kept tree of its record**, entered without an inverse. -/
theorem keptTree_of_select {catalog : Catalog R} {limit : Nat} {root : TypeShape R}
    {s : SelectionSet} (h : select catalog limit root = .ok s) :
    ∃ r, root.element = .record r ∧ KeptTree catalog none (catalog r).fields s := by
  rw [select] at h
  cases hr : root.record? with
  | none =>
    rw [hr] at h
    cases h
  | some r =>
    rw [hr] at h
    exact ⟨r, TypeShape.record?_eq_some_iff.1 hr, keptTree_of_kept h⟩

end TypedGraphQL
