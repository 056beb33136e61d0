import TypedGraphQL.Selection

/-!
# One field at a time

The walk asks for the role of each field and acts on it.  This file says when a field has which
role, in terms of its tag, its name and its type, and what the walk does in each case.  Proofs about
the walk go through these statements and never open `FieldShape.role` or `gather`.

## What is here

* `FieldShape.KeptAs` — the field is not left out, and stands under the given name.
* `role_eq_skipped_iff` and its likes — when a field has each of the roles.
* `gather_cons_eq_ok_iff`, `gather_cons_eq_error_iff` — when the entries of a field and those after
  it are found, and what the problem is if they are not.
-/

set_option autoImplicit false

namespace TypedGraphQL

variable {R : Type}

/-! ## When a field has which role -/

/-- The field stands under `name` in a record entered with `inverse`. -/
def FieldShape.KeptAs (f : FieldShape R) (inverse : Option String) (name : String) : Prop :=
  f.resolvedName? = some name ∧ inverse ≠ some name

namespace FieldShape

theorem KeptAs.unique {f : FieldShape R} {inverse : Option String} {name name' : String}
    (h : f.KeptAs inverse name) (h' : f.KeptAs inverse name') : name = name' :=
  Option.some.inj (h.1.symm.trans h'.1)

theorem KeptAs.not_omitted {f : FieldShape R} {inverse : Option String} {name : String}
    (h : f.KeptAs inverse name) : f.tag ≠ some omitTag := by
  intro htag
  have hnone := resolvedName?_eq_none_iff.2 htag
  rw [h.1] at hnone
  exact Option.some_ne_none name hnone

variable {f : FieldShape R} {typeName : String} {inverse : Option String}

/-- What the field contributes, once it is known to be kept. -/
theorem role_of_keptAs {name : String} (h : f.KeptAs inverse name) :
    f.role typeName inverse =
      if f.isInlined then
        match f.type.record? with
        | none => .refused (.embeddedNotRecord f.ident typeName)
        | some child =>
          if f.arguments.isSome then .refused (.inlinedWithArguments f.ident typeName)
          else .splice child
      else
        match f.type.record? with
        | none => .leaf ⟨name, f.arguments⟩
        | some child => .branch ⟨name, f.arguments⟩ child := by
  rw [role, h.1]
  exact if_neg h.2

theorem role_of_not_keptAs (h : ∀ name, ¬ f.KeptAs inverse name) :
    f.role typeName inverse = .skipped := by
  rw [role]
  cases hname : f.resolvedName? with
  | none => rfl
  | some name =>
    have hinv : inverse = some name := Decidable.not_not.1 fun hne => h name ⟨hname, hne⟩
    exact if_pos hinv

theorem role_eq_skipped_iff :
    f.role typeName inverse = .skipped ↔ ∀ name, ¬ f.KeptAs inverse name := by
  refine ⟨fun h name hk => ?_, role_of_not_keptAs⟩
  rw [role_of_keptAs hk] at h
  repeat' split at h
  all_goals cases h

/-- A role other than `skipped` belongs to a field that is kept. -/
theorem exists_keptAs_of_role_eq {role : Role R} (h : f.role typeName inverse = role)
    (hne : role ≠ .skipped) : ∃ name, f.KeptAs inverse name := by
  by_cases hk : ∃ name, f.KeptAs inverse name
  · exact hk
  · exact absurd (h.symm.trans (role_of_not_keptAs fun name hn => hk ⟨name, hn⟩)) hne

theorem role_eq_leaf_iff {e : Entry} :
    f.role typeName inverse = .leaf e ↔
      f.KeptAs inverse e.name ∧ f.isInlined = false ∧ f.type.record? = none ∧
        e.arguments = f.arguments := by
  constructor
  · intro h
    obtain ⟨name, hk⟩ := exists_keptAs_of_role_eq h (by simp)
    rw [role_of_keptAs hk] at h
    cases hin : f.isInlined <;> cases hr : f.type.record? <;> simp only [hin, hr] at h
    · cases h
      exact ⟨hk, rfl, rfl, rfl⟩
    · cases h
    · cases h
    · cases ha : f.arguments.isSome <;> simp [ha] at h
  · rintro ⟨hk, hin, hr, ha⟩
    rw [role_of_keptAs hk, hin, hr, ← ha]
    rfl

theorem role_eq_branch_iff {e : Entry} {child : R} :
    f.role typeName inverse = .branch e child ↔
      f.KeptAs inverse e.name ∧ f.isInlined = false ∧ f.type.record? = some child ∧
        e.arguments = f.arguments := by
  constructor
  · intro h
    obtain ⟨name, hk⟩ := exists_keptAs_of_role_eq h (by simp)
    rw [role_of_keptAs hk] at h
    cases hin : f.isInlined <;> cases hr : f.type.record? <;> simp only [hin, hr] at h
    · cases h
    · cases h
      exact ⟨hk, rfl, rfl, rfl⟩
    · cases h
    · cases ha : f.arguments.isSome <;> simp [ha] at h
  · rintro ⟨hk, hin, hr, ha⟩
    rw [role_of_keptAs hk, hin, hr, ← ha]
    rfl

theorem role_eq_splice_iff {child : R} :
    f.role typeName inverse = .splice child ↔
      (∃ name, f.KeptAs inverse name) ∧ f.isInlined = true ∧ f.type.record? = some child ∧
        f.arguments = none := by
  constructor
  · intro h
    obtain ⟨name, hk⟩ := exists_keptAs_of_role_eq h (by simp)
    rw [role_of_keptAs hk] at h
    cases hin : f.isInlined <;> cases hr : f.type.record? <;> cases ha : f.arguments <;>
      simp [hin, hr, ha] at h
    exact ⟨⟨name, hk⟩, rfl, congrArg some h, rfl⟩
  · rintro ⟨⟨name, hk⟩, hin, hr, ha⟩
    rw [role_of_keptAs hk, hin, hr, ha]
    rfl

/-- **A selection is refused for an inlined field** that has no fields to give, or arguments but no
name to put them after.  The first is looked at first. -/
theorem role_eq_refused_iff {cause : ShapeError} :
    f.role typeName inverse = .refused cause ↔
      (∃ name, f.KeptAs inverse name) ∧ f.isInlined = true ∧
        ((f.type.record? = none ∧ cause = .embeddedNotRecord f.ident typeName) ∨
          ((∃ child, f.type.record? = some child) ∧ f.arguments ≠ none ∧
            cause = .inlinedWithArguments f.ident typeName)) := by
  constructor
  · intro h
    obtain ⟨name, hk⟩ := exists_keptAs_of_role_eq h (by simp)
    rw [role_of_keptAs hk] at h
    cases hin : f.isInlined <;> cases hr : f.type.record? <;> cases ha : f.arguments <;>
      simp [hin, hr, ha] at h
    · exact ⟨⟨name, hk⟩, rfl, Or.inl ⟨rfl, h.symm⟩⟩
    · exact ⟨⟨name, hk⟩, rfl, Or.inl ⟨rfl, h.symm⟩⟩
    · exact ⟨⟨name, hk⟩, rfl, Or.inr ⟨⟨_, rfl⟩, Option.some_ne_none _, h.symm⟩⟩
  · rintro ⟨⟨name, hk⟩, hin, ⟨hr, rfl⟩ | ⟨⟨child, hr⟩, ha, rfl⟩⟩
    · rw [role_of_keptAs hk, hin, hr]
      rfl
    · obtain ⟨arguments, ha⟩ := Option.ne_none_iff_exists'.1 ha
      rw [role_of_keptAs hk, hin, hr, ha]
      rfl

end FieldShape

/-! ## A step of the walk -/

section Step

variable {enter : Option String → R → Except ShapeError SelectionSet} {typeName : String}
  {inverse : Option String} {f : FieldShape R} {fields : List (FieldShape R)}

/-- When the entries of a field and those after it are found. -/
theorem gather_cons_eq_ok_iff {s : SelectionSet} :
    gather enter typeName inverse (f :: fields) = .ok s ↔
      match f.role typeName inverse with
      | .skipped => gather enter typeName inverse fields = .ok s
      | .refused _ => False
      | .splice child => ∃ spliced rest, enter f.inverse child = .ok spliced ∧
          gather enter typeName inverse fields = .ok rest ∧ s = spliced ++ rest
      | .leaf e => ∃ rest, gather enter typeName inverse fields = .ok rest ∧ s = .leaf e rest
      | .branch e child => ∃ children rest, enter f.inverse child = .ok children ∧
          gather enter typeName inverse fields = .ok rest ∧ s = .branch e children rest := by
  rw [gather]
  cases f.role typeName inverse with
  | skipped => exact Iff.rfl
  | refused cause => simp
  | splice child =>
    dsimp only
    cases enter f.inverse child <;> cases gather enter typeName inverse fields <;>
      simp [bind, Except.bind, pure, Except.pure, eq_comm]
  | leaf e =>
    dsimp only
    cases gather enter typeName inverse fields <;>
      simp [bind, Except.bind, pure, Except.pure, eq_comm]
  | branch e child =>
    dsimp only
    cases enter f.inverse child <;> cases gather enter typeName inverse fields <;>
      simp [bind, Except.bind, pure, Except.pure, eq_comm]

/-- What the problem is if they are not found.  The problem of a field comes before those of the
fields after it. -/
theorem gather_cons_eq_error_iff {cause : ShapeError} :
    gather enter typeName inverse (f :: fields) = .error cause ↔
      match f.role typeName inverse with
      | .skipped => gather enter typeName inverse fields = .error cause
      | .refused found => found = cause
      | .leaf _ => gather enter typeName inverse fields = .error cause
      | .splice child | .branch _ child => enter f.inverse child = .error cause ∨
          (∃ s, enter f.inverse child = .ok s) ∧
            gather enter typeName inverse fields = .error cause := by
  rw [gather]
  cases f.role typeName inverse with
  | skipped => exact Iff.rfl
  | refused found => simp
  | splice child =>
    dsimp only
    cases enter f.inverse child <;> cases gather enter typeName inverse fields <;>
      simp [bind, Except.bind, pure, Except.pure]
  | leaf e =>
    dsimp only
    cases gather enter typeName inverse fields <;> simp [bind, Except.bind, pure, Except.pure]
  | branch e child =>
    dsimp only
    cases enter f.inverse child <;> cases gather enter typeName inverse fields <;>
      simp [bind, Except.bind, pure, Except.pure]

end Step

end TypedGraphQL
