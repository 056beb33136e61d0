import TypedGraphQL.Proofs.Selection.Role
import TypedGraphQL.Proofs.Selection.Text

/-!
# The first violation on the walk

A shape has no selection if the walk over its kept fields meets a violation: a record that lies too
deep, or an inlined field that cannot be inlined.  The walk itself is described without any limit,
by `Reaches`; in a circle of records it never ends.  This file shows that `select` fails exactly if
there is a violation anywhere on this endless walk, and that it reports the first.

## What is here

* `Reaches` — the records that are reached over kept fields, and by which fields.
* `Violation` — what is wrong, and where.
* `IsFirst` — the first of some violations, in pre-order.
* `violation_iff` — the violations below a record are its own and those of its fields.
* `isFirst_of_gather_error`, `not_violation_of_gather_ok` — one record, given the records below.
* `isFirst_of_kept_error`, `not_violation_of_kept_ok` — a whole walk, by induction on the levels.
* `compileSelection_outcome` — when there is a text, and which error there is otherwise.

A place is given by the numbers of the fields that lead to it.  The order of such lists is
lexicographic, a list before its extensions, and this is the pre-order of the walk.  At one place a
field is first asked for its record, then for its arguments, and then the record is entered; the
`rank` of a violation says which of the three it is.
-/

set_option autoImplicit false

namespace TypedGraphQL

variable {R : Type}

/-! ## The walk without a limit -/

/-- Fields that are kept lead from a record entered with `inverse` to another one, which is then
entered with `inverse'`.  They are given by their numbers. -/
inductive Reaches (catalog : Catalog R) :
    Option String → RecordShape R → List Nat → Option String → RecordShape R → Prop
  | here {inverse : Option String} {record : RecordShape R} :
      Reaches catalog inverse record [] inverse record
  /-- A field leads to the record of its type, inlined or not. -/
  | step {inverse inverse' : Option String} {record record' : RecordShape R} {i : Nat}
      {f : FieldShape R} {name : String} {child : R} {path : List Nat}
      (hf : record.fields[i]? = some f) (hk : f.KeptAs inverse name)
      (hr : f.type.element = .record child)
      (below : Reaches catalog f.inverse (catalog child) path inverse' record') :
      Reaches catalog inverse record (i :: path) inverse' record'

/-- A record entered with `inverse`, `levels` levels being allowed of `limit` in all, has a
violation at the place `path`. -/
inductive Violation (catalog : Catalog R) (limit levels : Nat) (inverse : Option String)
    (record : RecordShape R) : List Nat → (rank : Nat) → ShapeError → Prop
  /-- An inlined field is not a record. -/
  | embeddedNotRecord {path : List Nat} {inverse' : Option String} {record' : RecordShape R}
      {i : Nat} {f : FieldShape R} {name : String}
      (hreach : Reaches catalog inverse record path inverse' record')
      (hf : record'.fields[i]? = some f) (hk : f.KeptAs inverse' name)
      (hin : f.embedded = true ∧ f.tag = none) (hr : f.type.element = .scalar) :
      Violation catalog limit levels inverse record (path ++ [i]) 0
        (.embeddedNotRecord f.ident record'.typeName)
  /-- An inlined field has arguments. -/
  | inlinedWithArguments {path : List Nat} {inverse' : Option String} {record' : RecordShape R}
      {i : Nat} {f : FieldShape R} {name : String}
      (hreach : Reaches catalog inverse record path inverse' record')
      (hf : record'.fields[i]? = some f) (hk : f.KeptAs inverse' name)
      (hin : f.embedded = true ∧ f.tag = none) (ha : f.arguments ≠ none) :
      Violation catalog limit levels inverse record (path ++ [i]) 1
        (.inlinedWithArguments f.ident record'.typeName)
  /-- A record lies on a level that is not allowed. -/
  | nestsTooDeep {path : List Nat} {inverse' : Option String} {record' : RecordShape R}
      (hreach : Reaches catalog inverse record path inverse' record')
      (hdeep : levels ≤ path.length) :
      Violation catalog limit levels inverse record path 2 (.nestsTooDeep record'.typeName limit)

/-- `cause` is the first of the violations `V`: that at the least place, and there of least rank. -/
def IsFirst (V : List Nat → Nat → ShapeError → Prop) (cause : ShapeError) : Prop :=
  ∃ path rank, V path rank cause ∧
    ∀ path' rank' cause', V path' rank' cause' → path < path' ∨ path = path' ∧ rank ≤ rank'

theorem IsFirst.congr {V W : List Nat → Nat → ShapeError → Prop} {cause : ShapeError}
    (h : IsFirst V cause) (hiff : ∀ path rank c, V path rank c ↔ W path rank c) :
    IsFirst W cause := by
  obtain ⟨path, rank, hv, hfirst⟩ := h
  refine ⟨path, rank, (hiff _ _ _).1 hv, fun path' rank' c hw => ?_⟩
  exact hfirst path' rank' c ((hiff _ _ _).2 hw)

/-! ## A place has one record -/

section Unique

variable {catalog : Catalog R} {limit levels : Nat} {inverse : Option String}
  {record : RecordShape R} {path : List Nat} {rank : Nat} {cause cause' : ShapeError}

/-- The numbers of the fields determine the record they lead to. -/
theorem Reaches.unique {inverse₁ inverse₂ : Option String} {record₁ record₂ : RecordShape R}
    (h₁ : Reaches catalog inverse record path inverse₁ record₁)
    (h₂ : Reaches catalog inverse record path inverse₂ record₂) :
    inverse₁ = inverse₂ ∧ record₁ = record₂ := by
  induction h₁ with
  | here =>
    cases h₂
    exact ⟨rfl, rfl⟩
  | step hf _ hr _ ih =>
    cases h₂ with
    | step hf' _ hr' below' =>
      cases hf.symm.trans hf'
      cases hr.symm.trans hr'
      exact ih below'

/-- The places and ranks of the violations, each rank with the problem it stands for. -/
theorem Violation.cause_eq (h : Violation catalog limit levels inverse record path rank cause) :
    (∃ place i inverse' record' f, path = place ++ [i] ∧
      Reaches catalog inverse record place inverse' record' ∧ record'.fields[i]? = some f ∧
      (rank = 0 ∧ cause = .embeddedNotRecord f.ident record'.typeName ∨
        rank = 1 ∧ cause = .inlinedWithArguments f.ident record'.typeName)) ∨
    ∃ inverse' record', Reaches catalog inverse record path inverse' record' ∧ rank = 2 ∧
      cause = .nestsTooDeep record'.typeName limit := by
  cases h with
  | embeddedNotRecord hreach hf =>
    exact Or.inl ⟨_, _, _, _, _, rfl, hreach, hf, Or.inl ⟨rfl, rfl⟩⟩
  | inlinedWithArguments hreach hf =>
    exact Or.inl ⟨_, _, _, _, _, rfl, hreach, hf, Or.inr ⟨rfl, rfl⟩⟩
  | nestsTooDeep hreach => exact Or.inr ⟨_, _, hreach, rfl, rfl⟩

/-- A place and a rank determine the problem. -/
theorem Violation.unique (h : Violation catalog limit levels inverse record path rank cause)
    (h' : Violation catalog limit levels inverse record path rank cause') : cause = cause' := by
  rcases h.cause_eq with ⟨place, i, _, _, f, rfl, hreach, hf, hrank⟩ | ⟨_, _, hreach, rfl, rfl⟩
  · rcases h'.cause_eq with ⟨place', j, _, _, g, hplace, hreach', hg, hrank'⟩ | ⟨_, _, _, rfl, _⟩
    · obtain ⟨rfl, hij⟩ := List.append_inj' hplace rfl
      cases hij
      obtain ⟨-, rfl⟩ := hreach.unique hreach'
      cases hf.symm.trans hg
      rcases hrank with ⟨rfl, rfl⟩ | ⟨rfl, rfl⟩ <;>
        rcases hrank' with ⟨hr, rfl⟩ | ⟨hr, rfl⟩ <;> first | rfl | cases hr
    · rcases hrank with ⟨hr, -⟩ | ⟨hr, -⟩ <;> cases hr
  · rcases h'.cause_eq with ⟨_, _, _, _, _, _, _, _, ⟨hr, -⟩ | ⟨hr, -⟩⟩ | ⟨_, _, hreach', _, rfl⟩
    · cases hr
    · cases hr
    · obtain ⟨-, rfl⟩ := hreach.unique hreach'
      rfl

/-- There is one first violation at most. -/
theorem IsFirst.unique
    (h : IsFirst (Violation catalog limit levels inverse record) cause)
    (h' : IsFirst (Violation catalog limit levels inverse record) cause') : cause = cause' := by
  obtain ⟨path, rank, hv, hfirst⟩ := h
  obtain ⟨path', rank', hv', hfirst'⟩ := h'
  rcases hfirst path' rank' cause' hv' with hlt | ⟨rfl, hle⟩
  · rcases hfirst' path rank cause hv with hgt | ⟨rfl, -⟩
    · exact absurd hgt (List.lt_asymm hlt)
    · exact absurd hlt (List.lt_irrefl _)
  · rcases hfirst' path rank cause hv with hgt | ⟨-, hge⟩
    · exact absurd hgt (List.lt_irrefl _)
    · obtain rfl := Nat.le_antisymm hle hge
      exact hv.unique hv'

end Unique

/-! ## The violations below a record -/

/-- The violations of a field of the record `typeName`, by their places behind the field. -/
inductive FieldViolation (catalog : Catalog R) (limit levels : Nat) (typeName : String)
    (f : FieldShape R) : List Nat → (rank : Nat) → ShapeError → Prop
  | embeddedNotRecord (hin : f.embedded = true ∧ f.tag = none) (hr : f.type.element = .scalar) :
      FieldViolation catalog limit levels typeName f [] 0 (.embeddedNotRecord f.ident typeName)
  | inlinedWithArguments (hin : f.embedded = true ∧ f.tag = none) (ha : f.arguments ≠ none) :
      FieldViolation catalog limit levels typeName f [] 1 (.inlinedWithArguments f.ident typeName)
  | below {child : R} {path : List Nat} {rank : Nat} {cause : ShapeError}
      (hr : f.type.element = .record child)
      (h : Violation catalog limit levels f.inverse (catalog child) path rank cause) :
      FieldViolation catalog limit levels typeName f path rank cause

/-- The violations of the kept fields among `fields`. -/
def FieldsViolation (catalog : Catalog R) (limit levels : Nat) (typeName : String)
    (inverse : Option String) (fields : List (FieldShape R)) (place : List Nat) (rank : Nat)
    (cause : ShapeError) : Prop :=
  ∃ i path f name, place = i :: path ∧ fields[i]? = some f ∧ f.KeptAs inverse name ∧
    FieldViolation catalog limit levels typeName f path rank cause

section Below

variable {catalog : Catalog R} {limit levels : Nat} {inverse : Option String}
  {record : RecordShape R} {place : List Nat} {rank : Nat} {cause : ShapeError}

/-- A violation below a field is one below its record. -/
theorem violation_of_field {i : Nat} {f : FieldShape R} {name : String} {path : List Nat}
    (hf : record.fields[i]? = some f) (hk : f.KeptAs inverse name)
    (h : FieldViolation catalog limit levels record.typeName f path rank cause) :
    Violation catalog limit (levels + 1) inverse record (i :: path) rank cause := by
  cases h with
  | embeddedNotRecord hin hr => exact .embeddedNotRecord .here hf hk hin hr
  | inlinedWithArguments hin ha => exact .inlinedWithArguments .here hf hk hin ha
  | below hr h =>
    cases h with
    | embeddedNotRecord hreach hf' hk' hin hr' =>
      exact .embeddedNotRecord (.step hf hk hr hreach) hf' hk' hin hr'
    | inlinedWithArguments hreach hf' hk' hin ha =>
      exact .inlinedWithArguments (.step hf hk hr hreach) hf' hk' hin ha
    | nestsTooDeep hreach hdeep =>
      exact .nestsTooDeep (.step hf hk hr hreach) (Nat.succ_le_succ hdeep)

/-- **Where a level is allowed, the violations below a record are those of its fields.** -/
theorem violation_iff :
    Violation catalog limit (levels + 1) inverse record place rank cause ↔
      FieldsViolation catalog limit levels record.typeName inverse record.fields place rank
        cause := by
  constructor
  · intro h
    cases h with
    | embeddedNotRecord hreach hf hk hin hr =>
      cases hreach with
      | here => exact ⟨_, _, _, _, rfl, hf, hk, .embeddedNotRecord hin hr⟩
      | step hf' hk' hr' below =>
        exact ⟨_, _, _, _, rfl, hf', hk', .below hr' (.embeddedNotRecord below hf hk hin hr)⟩
    | inlinedWithArguments hreach hf hk hin ha =>
      cases hreach with
      | here => exact ⟨_, _, _, _, rfl, hf, hk, .inlinedWithArguments hin ha⟩
      | step hf' hk' hr' below =>
        exact ⟨_, _, _, _, rfl, hf', hk', .below hr' (.inlinedWithArguments below hf hk hin ha)⟩
    | nestsTooDeep hreach hdeep =>
      cases hreach with
      | here => exact absurd hdeep (Nat.not_succ_le_zero _)
      | step hf' hk' hr' below =>
        exact ⟨_, _, _, _, rfl, hf', hk',
          .below hr' (.nestsTooDeep below (Nat.le_of_succ_le_succ hdeep))⟩
  · rintro ⟨i, path, f, name, rfl, hf, hk, h⟩
    exact violation_of_field hf hk h

end Below

/-! ## One field after the other -/

section Fields

variable {catalog : Catalog R} {limit levels : Nat} {typeName : String} {inverse : Option String}
  {f : FieldShape R} {fields : List (FieldShape R)} {cause : ShapeError}

/-- The first field has the number 0, and the numbers of the others are one higher than without
it. -/
theorem fieldsViolation_cons_iff {place : List Nat} {rank : Nat} :
    FieldsViolation catalog limit levels typeName inverse (f :: fields) place rank cause ↔
      (∃ path name, place = 0 :: path ∧ f.KeptAs inverse name ∧
        FieldViolation catalog limit levels typeName f path rank cause) ∨
      ∃ i path, place = (i + 1) :: path ∧
        FieldsViolation catalog limit levels typeName inverse fields (i :: path) rank cause := by
  constructor
  · rintro ⟨i, path, g, name, rfl, hg, hk, h⟩
    cases i with
    | zero =>
      cases hg
      exact Or.inl ⟨path, name, rfl, hk, h⟩
    | succ i => exact Or.inr ⟨i, path, rfl, i, path, g, name, rfl, hg, hk, h⟩
  · rintro (⟨path, name, rfl, hk, h⟩ | ⟨i, path, rfl, j, path', g, name, hij, hg, hk, h⟩)
    · exact ⟨0, path, f, name, rfl, rfl, hk, h⟩
    · cases hij
      exact ⟨i + 1, path, g, name, rfl, hg, hk, h⟩

/-- The first violation of a field comes before those of the fields after it. -/
theorem isFirst_of_head {name : String} (hk : f.KeptAs inverse name)
    (h : IsFirst (FieldViolation catalog limit levels typeName f) cause) :
    IsFirst (FieldsViolation catalog limit levels typeName inverse (f :: fields)) cause := by
  obtain ⟨path, rank, hv, hfirst⟩ := h
  refine ⟨0 :: path, rank, fieldsViolation_cons_iff.2 (Or.inl ⟨path, name, rfl, hk, hv⟩), ?_⟩
  intro place rank' cause' h'
  rcases fieldsViolation_cons_iff.1 h' with ⟨path', _, rfl, _, hv'⟩ | ⟨i, path', rfl, _⟩
  · rcases hfirst path' rank' cause' hv' with hlt | ⟨rfl, hle⟩
    · exact Or.inl (List.cons_lt_cons_iff.2 (Or.inr ⟨rfl, hlt⟩))
    · exact Or.inr ⟨rfl, hle⟩
  · exact Or.inl (List.cons_lt_cons_iff.2 (Or.inl (Nat.succ_pos i)))

/-- Behind a field without violations the first violation stays the first. -/
theorem isFirst_of_tail
    (hf : ∀ name, f.KeptAs inverse name →
      ∀ path rank c, ¬ FieldViolation catalog limit levels typeName f path rank c)
    (h : IsFirst (FieldsViolation catalog limit levels typeName inverse fields) cause) :
    IsFirst (FieldsViolation catalog limit levels typeName inverse (f :: fields)) cause := by
  obtain ⟨place, rank, hv, hfirst⟩ := h
  have ⟨i, path, g, name, hplace, hg, hk, hgv⟩ := hv
  subst hplace
  refine ⟨(i + 1) :: path, rank, fieldsViolation_cons_iff.2 (Or.inr ⟨i, path, rfl, hv⟩), ?_⟩
  intro place' rank' cause' h'
  rcases fieldsViolation_cons_iff.1 h' with ⟨path', n, rfl, hn, hv'⟩ | ⟨j, path', rfl, hv'⟩
  · exact absurd hv' (hf n hn path' rank' cause')
  · rcases hfirst _ rank' cause' hv' with hlt | ⟨heq, hle⟩
    · refine Or.inl (List.cons_lt_cons_iff.2 ?_)
      exact (List.cons_lt_cons_iff.1 hlt).imp Nat.succ_lt_succ fun h => ⟨congrArg Nat.succ h.1, h.2⟩
    · cases heq
      exact Or.inr ⟨rfl, hle⟩

theorem not_fieldsViolation_cons
    (hf : ∀ name, f.KeptAs inverse name →
      ∀ path rank c, ¬ FieldViolation catalog limit levels typeName f path rank c)
    (h : ∀ place rank c,
      ¬ FieldsViolation catalog limit levels typeName inverse fields place rank c)
    (place : List Nat) (rank : Nat) (c : ShapeError) :
    ¬ FieldsViolation catalog limit levels typeName inverse (f :: fields) place rank c := by
  intro hv
  rcases fieldsViolation_cons_iff.1 hv with ⟨path, name, _, hk, hv⟩ | ⟨i, path, _, hv⟩
  · exact hf name hk path rank c hv
  · exact h _ rank c hv

/-! ### The violations of a field by its role -/

/-- A record violates nothing at its own place but the limit. -/
theorem Violation.rank_eq_two {inverse : Option String} {record : RecordShape R} {rank : Nat}
    (h : Violation catalog limit levels inverse record [] rank cause) : rank = 2 := by
  generalize hplace : ([] : List Nat) = place at h
  cases h with
  | embeddedNotRecord => exact absurd hplace.symm (List.append_ne_nil_of_right_ne_nil _ nofun)
  | inlinedWithArguments => exact absurd hplace.symm (List.append_ne_nil_of_right_ne_nil _ nofun)
  | nestsTooDeep => rfl

/-- A field that is refused has its own violation before all those below it. -/
theorem isFirst_of_role_refused (h : f.role typeName inverse = .refused cause) :
    IsFirst (FieldViolation catalog limit levels typeName f) cause := by
  obtain ⟨-, hin, ⟨hr, rfl⟩ | ⟨⟨child, hr⟩, ha, rfl⟩⟩ := FieldShape.role_eq_refused_iff.1 h
  · have hin := FieldShape.isInlined_iff.1 hin
    have hr := TypeShape.element_eq_scalar_iff.2 hr
    refine ⟨[], 0, .embeddedNotRecord hin hr, fun path rank c h' => ?_⟩
    cases h' with
    | embeddedNotRecord => exact Or.inr ⟨rfl, Nat.le_refl 0⟩
    | inlinedWithArguments => exact Or.inr ⟨rfl, Nat.zero_le 1⟩
    | below hr' => cases hr.symm.trans hr'
  · have hin := FieldShape.isInlined_iff.1 hin
    have hr := TypeShape.record?_eq_some_iff.1 hr
    refine ⟨[], 1, .inlinedWithArguments hin ha, fun path rank c h' => ?_⟩
    cases h' with
    | embeddedNotRecord _ hr' => cases hr.symm.trans hr'
    | inlinedWithArguments => exact Or.inr ⟨rfl, Nat.le_refl 1⟩
    | below _ hv =>
      cases path with
      | nil => exact Or.inr ⟨rfl, hv.rank_eq_two ▸ Nat.le_succ 1⟩
      | cons i path => exact Or.inl (List.nil_lt_cons i path)

/-- A field that stands alone has no violation. -/
theorem not_fieldViolation_of_role_leaf {e : Entry} (h : f.role typeName inverse = .leaf e)
    (path : List Nat) (rank : Nat) (c : ShapeError) :
    ¬ FieldViolation catalog limit levels typeName f path rank c := by
  obtain ⟨-, hin, hr, -⟩ := FieldShape.role_eq_leaf_iff.1 h
  have hin := FieldShape.isInlined_eq_false_iff.1 hin
  have hr := TypeShape.element_eq_scalar_iff.2 hr
  intro hv
  cases hv with
  | embeddedNotRecord hin' => exact hin hin'
  | inlinedWithArguments hin' => exact hin hin'
  | below hr' => cases hr.symm.trans hr'

/-- The violations of a field that is entered are those of its record. -/
theorem fieldViolation_iff_of_role {child : R}
    (h : f.role typeName inverse = .splice child ∨ ∃ e, f.role typeName inverse = .branch e child)
    {path : List Nat} {rank : Nat} {c : ShapeError} :
    FieldViolation catalog limit levels typeName f path rank c ↔
      Violation catalog limit levels f.inverse (catalog child) path rank c := by
  have hr : f.type.element = .record child := by
    rcases h with h | ⟨e, h⟩
    · exact TypeShape.record?_eq_some_iff.1 (FieldShape.role_eq_splice_iff.1 h).2.2.1
    · exact TypeShape.record?_eq_some_iff.1 (FieldShape.role_eq_branch_iff.1 h).2.2.1
  refine ⟨fun hv => ?_, .below hr⟩
  cases hv with
  | embeddedNotRecord _ hr' => cases hr.symm.trans hr'
  | inlinedWithArguments hin ha =>
    rcases h with h | ⟨e, h⟩
    · exact absurd (FieldShape.role_eq_splice_iff.1 h).2.2.2 ha
    · have hin' := FieldShape.isInlined_eq_false_iff.1 (FieldShape.role_eq_branch_iff.1 h).2.1
      exact absurd hin hin'
  | below hr' hv =>
    cases hr.symm.trans hr'
    exact hv

end Fields

/-! ## One record -/

section Record

variable {catalog : Catalog R} {limit levels : Nat}
  {enter : Option String → R → Except ShapeError SelectionSet} {typeName : String}
  {inverse : Option String} {fields : List (FieldShape R)}

/-- **Fields whose entries are found have no violation**, if this holds for the records below. -/
theorem not_violation_of_gather_ok
    (henter : ∀ {inverse : Option String} {r : R} {s : SelectionSet}, enter inverse r = .ok s →
      ∀ path rank c, ¬ Violation catalog limit levels inverse (catalog r) path rank c)
    {s : SelectionSet} (h : gather enter typeName inverse fields = .ok s) :
    ∀ place rank c,
      ¬ FieldsViolation catalog limit levels typeName inverse fields place rank c := by
  induction fields generalizing s with
  | nil =>
    rintro place rank c ⟨i, path, f, name, -, hf, -⟩
    cases hf
  | cons f fields ih =>
    rw [gather_cons_eq_ok_iff] at h
    cases hrole : f.role typeName inverse with
    | skipped =>
      rw [hrole] at h
      exact not_fieldsViolation_cons
        (fun name hk => absurd hk (FieldShape.role_eq_skipped_iff.1 hrole name)) (ih h)
    | refused cause =>
      rw [hrole] at h
      exact h.elim
    | splice child =>
      rw [hrole] at h
      obtain ⟨spliced, rest, hs, hrest, -⟩ := h
      refine not_fieldsViolation_cons (fun name hk path rank c hv => ?_) (ih hrest)
      exact henter hs path rank c ((fieldViolation_iff_of_role (Or.inl hrole)).1 hv)
    | leaf e =>
      rw [hrole] at h
      obtain ⟨rest, hrest, -⟩ := h
      exact not_fieldsViolation_cons (fun _ _ => not_fieldViolation_of_role_leaf hrole) (ih hrest)
    | branch e child =>
      rw [hrole] at h
      obtain ⟨children, rest, hc, hrest, -⟩ := h
      refine not_fieldsViolation_cons (fun name hk path rank c hv => ?_) (ih hrest)
      exact henter hc path rank c ((fieldViolation_iff_of_role (Or.inr ⟨e, hrole⟩)).1 hv)

/-- **The problem found in fields is their first violation**, if this holds for the records
below. -/
theorem isFirst_of_gather_error
    (hok : ∀ {inverse : Option String} {r : R} {s : SelectionSet}, enter inverse r = .ok s →
      ∀ path rank c, ¬ Violation catalog limit levels inverse (catalog r) path rank c)
    (herror : ∀ {inverse : Option String} {r : R} {cause : ShapeError},
      enter inverse r = .error cause →
        IsFirst (Violation catalog limit levels inverse (catalog r)) cause)
    {cause : ShapeError} (h : gather enter typeName inverse fields = .error cause) :
    IsFirst (FieldsViolation catalog limit levels typeName inverse fields) cause := by
  induction fields with
  | nil => cases h
  | cons f fields ih =>
    rw [gather_cons_eq_error_iff] at h
    -- a field that is entered: either its record fails, or it has no violation
    have hentered : ∀ {child : R},
        (f.role typeName inverse = .splice child ∨
          ∃ e, f.role typeName inverse = .branch e child) →
        (enter f.inverse child = .error cause ∨ (∃ s, enter f.inverse child = .ok s) ∧
          gather enter typeName inverse fields = .error cause) →
        IsFirst (FieldsViolation catalog limit levels typeName inverse (f :: fields)) cause := by
      intro child hrole h
      rcases h with h | ⟨⟨s, hs⟩, h⟩
      · have hne : f.role typeName inverse ≠ .skipped := by
          rcases hrole with hrole | ⟨e, hrole⟩ <;> rw [hrole] <;> exact nofun
        obtain ⟨name, hk⟩ := FieldShape.exists_keptAs_of_role_eq rfl hne
        refine isFirst_of_head hk ((herror h).congr fun _ _ _ => ?_)
        exact (fieldViolation_iff_of_role hrole).symm
      · refine isFirst_of_tail (fun name hk path rank c hv => ?_) (ih h)
        exact hok hs path rank c ((fieldViolation_iff_of_role hrole).1 hv)
    cases hrole : f.role typeName inverse with
    | skipped =>
      rw [hrole] at h
      exact isFirst_of_tail
        (fun name hk => absurd hk (FieldShape.role_eq_skipped_iff.1 hrole name)) (ih h)
    | refused found =>
      rw [hrole] at h
      obtain rfl : found = cause := h
      obtain ⟨⟨name, hk⟩, -⟩ := FieldShape.role_eq_refused_iff.1 hrole
      exact isFirst_of_head hk (isFirst_of_role_refused hrole)
    | leaf e =>
      rw [hrole] at h
      exact isFirst_of_tail (fun _ _ => not_fieldViolation_of_role_leaf hrole) (ih h)
    | splice child =>
      rw [hrole] at h
      exact hentered (Or.inl hrole) h
    | branch e child =>
      rw [hrole] at h
      exact hentered (Or.inr ⟨e, hrole⟩) h

end Record

/-! ## The whole walk -/

section Walk

variable {catalog : Catalog R} {limit levels : Nat} {inverse : Option String}
  {record : RecordShape R}

theorem not_violation_of_kept_ok {s : SelectionSet}
    (h : kept catalog limit levels inverse record = .ok s) (path : List Nat) (rank : Nat)
    (c : ShapeError) : ¬ Violation catalog limit levels inverse record path rank c := by
  induction levels generalizing inverse record s path rank c with
  | zero => cases h
  | succ levels ih =>
    rw [kept] at h
    rw [violation_iff]
    exact not_violation_of_gather_ok (fun hs => ih hs) h path rank c

/-- **The problem that the walk reports is the first violation.** -/
theorem isFirst_of_kept_error {cause : ShapeError}
    (h : kept catalog limit levels inverse record = .error cause) :
    IsFirst (Violation catalog limit levels inverse record) cause := by
  induction levels generalizing inverse record cause with
  | zero =>
    -- the record itself lies too deep, and every other violation is found below it
    cases h
    refine ⟨[], 2, .nestsTooDeep .here (Nat.zero_le _), fun path rank c hv => ?_⟩
    cases path with
    | nil => exact Or.inr ⟨rfl, Nat.le_of_eq hv.rank_eq_two.symm⟩
    | cons i path => exact Or.inl (List.nil_lt_cons i path)
  | succ levels ih =>
    rw [kept] at h
    have hfirst := isFirst_of_gather_error (fun hs => not_violation_of_kept_ok hs)
      (fun he => ih he) h
    exact hfirst.congr fun _ _ _ => violation_iff.symm

end Walk

/-! ## The outcome -/

section Outcome

variable {catalog : Catalog R} {limit : Nat} {root : TypeShape R}

/-- A type has a selection if it is a record without violations. -/
theorem select_eq_ok_iff :
    (∃ s, select catalog limit root = .ok s) ↔
      ∃ r, root.element = .record r ∧
        ∀ path rank c, ¬ Violation catalog limit limit none (catalog r) path rank c := by
  rw [select]
  cases hr : root.record? with
  | none =>
    rw [TypeShape.element_eq_scalar_iff.2 hr]
    constructor
    · rintro ⟨_, ⟨⟩⟩
    · rintro ⟨_, ⟨⟩, _⟩
  | some r =>
    rw [TypeShape.record?_eq_some_iff.1 hr]
    constructor
    · rintro ⟨s, hs⟩
      exact ⟨r, rfl, not_violation_of_kept_ok hs⟩
    · rintro ⟨r', hr', hno⟩
      cases hr'
      cases hk : selectRecord catalog limit (catalog r) with
      | ok s => exact ⟨s, hk⟩
      | error cause =>
        obtain ⟨path, rank, hv, -⟩ := isFirst_of_kept_error hk
        exact absurd hv (hno path rank cause)

/-- A type without a selection is a scalar, or a record, and then the problem is its first
violation. -/
theorem select_eq_error_iff {cause : ShapeError} :
    select catalog limit root = .error cause ↔
      (root.element = .scalar ∧ cause = .rootNotRecord) ∨
      ∃ r, root.element = .record r ∧
        IsFirst (Violation catalog limit limit none (catalog r)) cause := by
  rw [select]
  cases hr : root.record? with
  | none =>
    rw [TypeShape.element_eq_scalar_iff.2 hr]
    constructor
    · intro h
      cases h
      exact Or.inl ⟨rfl, rfl⟩
    · rintro (⟨-, rfl⟩ | ⟨r, h, -⟩)
      · rfl
      · cases h
  | some r =>
    rw [TypeShape.record?_eq_some_iff.1 hr]
    constructor
    · intro h
      exact Or.inr ⟨r, rfl, isFirst_of_kept_error h⟩
    · rintro (⟨h, -⟩ | ⟨r', hr', hfirst⟩)
      · cases h
      · cases hr'
        cases hk : selectRecord catalog limit (catalog r) with
        | ok s =>
          obtain ⟨path, rank, hv, -⟩ := hfirst
          exact absurd hv (not_violation_of_kept_ok hk path rank cause)
        | error cause' =>
          obtain rfl := (isFirst_of_kept_error hk).unique hfirst
          exact hk

/-- There is no violation if every record that is reached lies on an allowed level and every
inlined field in it can be inlined. -/
theorem not_violation_iff {levels : Nat} {inverse : Option String} {record : RecordShape R} :
    (∀ path rank c, ¬ Violation catalog limit levels inverse record path rank c) ↔
      ∀ path inverse' record', Reaches catalog inverse record path inverse' record' →
        path.length < levels ∧
          ∀ f ∈ record'.fields, ∀ name, f.KeptAs inverse' name →
            f.embedded = true ∧ f.tag = none →
              (∃ child, f.type.element = .record child) ∧ f.arguments = none := by
  constructor
  · intro hno path inverse' record' hreach
    refine ⟨Nat.not_le.1 fun hdeep => hno _ _ _ (.nestsTooDeep hreach hdeep), ?_⟩
    intro f hf name hk hin
    obtain ⟨i, hi⟩ := List.getElem?_of_mem hf
    constructor
    · cases hr : f.type.record? with
      | none =>
        have hr := TypeShape.element_eq_scalar_iff.2 hr
        exact absurd (.embeddedNotRecord hreach hi hk hin hr) (hno _ _ _)
      | some child => exact ⟨child, TypeShape.record?_eq_some_iff.1 hr⟩
    · exact Classical.not_not.1 fun ha => hno _ _ _ (.inlinedWithArguments hreach hi hk hin ha)
  · intro hall path rank c hv
    cases hv with
    | embeddedNotRecord hreach hf hk hin hr =>
      obtain ⟨⟨child, hr'⟩, -⟩ := (hall _ _ _ hreach).2 _ (List.mem_of_getElem? hf) _ hk hin
      cases hr.symm.trans hr'
    | inlinedWithArguments hreach hf hk hin ha =>
      exact ha ((hall _ _ _ hreach).2 _ (List.mem_of_getElem? hf) _ hk hin).2
    | nestsTooDeep hreach hdeep =>
      exact Nat.not_le.2 (hall _ _ _ hreach).1 hdeep

end Outcome

/-- **A type has a selection exactly if it is a record, every record reached from it over kept
fields lies on a level below the limit, and every inlined field met there is a record without
arguments.  Otherwise the error names the first violation in pre-order.**  What fields that are
passed over would lead to plays no part.  The walk always ends, whatever circles the catalog has. -/
theorem compileSelection_outcome (catalog : Catalog R) (options : CompileOptions)
    (root : TypeShape R) :
    ((∃ text, compileSelection catalog options root = .ok text) ↔
      ∃ r, root.element = .record r ∧
        ∀ path inverse record, Reaches catalog none (catalog r) path inverse record →
          path.length < options.maxDepth ∧
            ∀ f ∈ record.fields, ∀ name, f.KeptAs inverse name →
              f.embedded = true ∧ f.tag = none →
                (∃ child, f.type.element = .record child) ∧ f.arguments = none) ∧
    ∀ e, compileSelection catalog options root = .error e ↔
      ∃ cause, e = .invalidShape cause ∧
        ((root.element = .scalar ∧ cause = .rootNotRecord) ∨
          ∃ r, root.element = .record r ∧
            IsFirst (Violation catalog options.maxDepth options.maxDepth none (catalog r))
              cause) := by
  constructor
  · have hok : (∃ text, compileSelection catalog options root = .ok text) ↔
        ∃ s, select catalog options.maxDepth root = .ok s := by
      constructor
      · rintro ⟨text, h⟩
        obtain ⟨s, hs, -⟩ := compileSelection_eq_ok_iff.1 h
        exact ⟨s, hs⟩
      · rintro ⟨s, hs⟩
        exact ⟨s.render, compileSelection_eq_ok_iff.2 ⟨s, hs, rfl⟩⟩
    rw [hok, select_eq_ok_iff]
    refine exists_congr fun r => and_congr_right fun _ => ?_
    exact not_violation_iff
  · intro e
    rw [compileSelection_eq_error_iff]
    refine exists_congr fun cause => ?_
    rw [select_eq_error_iff]
    exact and_comm

end TypedGraphQL
