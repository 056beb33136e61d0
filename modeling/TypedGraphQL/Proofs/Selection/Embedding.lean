import TypedGraphQL.Proofs.Selection.Nesting

/-!
# A record in the place of a field

An inlined field stands for the fields of its record.  This file compares a record that has such a
field with another one in which those fields are written out in its place: both have the same text.

The two walks are different.  Behind the inlined field one level is used up, and its own inverse
applies; where the fields are written out, no level is used up, and there is no inverse.  So the
fields that point back have to be left out, and the first record needs one level more than the
second.

## What is here

* `FieldShape.spread` — the fields that are written out for an inlined field.
* `gather_append_eq_ok_iff`, `gather_congr` — the entries of fields one behind the other, and of
  fields that are kept alike.
* `gather_spread` — the fields that are written out have the entries of the record.
* `kept_of_inlined`, `kept_of_spread` — the two walks, each with the levels it needs.
* `compileSelection_spread` — the texts.
-/

set_option autoImplicit false

namespace TypedGraphQL

variable {R : Type}

/-- The fields that are written out for an inlined field whose record has `fields`: all but those
that point back. -/
def FieldShape.spread (e : FieldShape R) (fields : List (FieldShape R)) : List (FieldShape R) :=
  fields.filter fun f => e.inverse.all fun name => f.resolvedName? ≠ some name

/-! ## Fields one behind the other -/

section Gather

variable {enter : Option String → R → Except ShapeError SelectionSet}
  {typeName typeName' : String} {inverse inverse' : Option String}
  {fields more : List (FieldShape R)}

/-- **The entries of fields are those of the first ones followed by those of the others.** -/
theorem gather_append_eq_ok_iff {s : SelectionSet} :
    gather enter typeName inverse (fields ++ more) = .ok s ↔
      ∃ a b, gather enter typeName inverse fields = .ok a ∧
        gather enter typeName inverse more = .ok b ∧ s = a ++ b := by
  induction fields generalizing s with
  | nil => simp [gather]
  | cons f fields ih =>
    rw [List.cons_append]
    simp only [gather_cons_eq_ok_iff]
    cases f.role typeName inverse with
    | skipped => exact ih
    | refused cause => simp
    | splice child =>
      simp only [ih]
      constructor
      · rintro ⟨spliced, rest, hs, ⟨a, b, ha, hb, rfl⟩, rfl⟩
        exact ⟨_, b, ⟨spliced, a, hs, ha, rfl⟩, hb, (SelectionSet.append_assoc _ _ _).symm⟩
      · rintro ⟨_, b, ⟨spliced, a, hs, ha, rfl⟩, hb, rfl⟩
        exact ⟨spliced, _, hs, ⟨a, b, ha, hb, rfl⟩, SelectionSet.append_assoc _ _ _⟩
    | leaf entry =>
      simp only [ih]
      constructor
      · rintro ⟨rest, ⟨a, b, ha, hb, rfl⟩, rfl⟩
        exact ⟨_, b, ⟨a, ha, rfl⟩, hb, rfl⟩
      · rintro ⟨_, b, ⟨a, ha, rfl⟩, hb, rfl⟩
        exact ⟨_, ⟨a, b, ha, hb, rfl⟩, rfl⟩
    | branch entry child =>
      simp only [ih]
      constructor
      · rintro ⟨children, rest, hc, ⟨a, b, ha, hb, rfl⟩, rfl⟩
        exact ⟨_, b, ⟨children, a, hc, ha, rfl⟩, hb, rfl⟩
      · rintro ⟨_, b, ⟨children, a, hc, ha, rfl⟩, hb, rfl⟩
        exact ⟨children, _, hc, ⟨a, b, ha, hb, rfl⟩, rfl⟩

/-! ## Fields that are kept alike -/

/-- A field that is kept alike contributes the same, or is refused in both places; the name of the
record is part of the refusal only. -/
theorem FieldShape.role_congr {f : FieldShape R}
    (h : ∀ name, f.KeptAs inverse name ↔ f.KeptAs inverse' name) :
    f.role typeName inverse = f.role typeName' inverse' ∨
      ∃ cause cause', f.role typeName inverse = .refused cause ∧
        f.role typeName' inverse' = .refused cause' := by
  by_cases hk : ∃ name, f.KeptAs inverse name
  · obtain ⟨name, hk⟩ := hk
    rw [role_of_keptAs hk, role_of_keptAs ((h name).1 hk)]
    cases f.isInlined with
    | false => exact Or.inl rfl
    | true =>
      cases f.type.record? with
      | none => exact Or.inr ⟨_, _, rfl, rfl⟩
      | some child =>
        cases f.arguments with
        | none => exact Or.inl rfl
        | some arguments => exact Or.inr ⟨_, _, rfl, rfl⟩
  · have hk' : ∀ name, ¬ f.KeptAs inverse' name := fun name hn => hk ⟨name, (h name).2 hn⟩
    rw [role_of_not_keptAs fun name hn => hk ⟨name, hn⟩, role_of_not_keptAs hk']
    exact Or.inl rfl

/-- **Fields that are kept alike have the same entries.** -/
theorem gather_congr {s : SelectionSet}
    (h : ∀ f ∈ fields, ∀ name, f.KeptAs inverse name ↔ f.KeptAs inverse' name) :
    gather enter typeName inverse fields = .ok s ↔
      gather enter typeName' inverse' fields = .ok s := by
  induction fields generalizing s with
  | nil => exact Iff.rfl
  | cons f fields ih =>
    obtain ⟨hf, hfields⟩ := List.forall_mem_cons.1 h
    have ih : ∀ s, _ := fun s => @ih s hfields
    rw [gather_cons_eq_ok_iff, gather_cons_eq_ok_iff]
    rcases FieldShape.role_congr hf with heq | ⟨cause, cause', hrole, hrole'⟩
    · rw [heq]
      cases f.role typeName' inverse' <;> simp only [ih]
    · rw [hrole, hrole']

end Gather

/-! ## Fields that are written out -/

section Spread

variable {enter : Option String → R → Except ShapeError SelectionSet} {typeName : String}
  {fields : List (FieldShape R)} {e : FieldShape R}

/-- A field that is written out is kept as it is behind the inlined field. -/
theorem keptAs_of_mem_spread {f : FieldShape R} (h : f ∈ e.spread fields) (name : String) :
    f.KeptAs none name ↔ f.KeptAs e.inverse name := by
  refine and_congr_right fun hname => iff_of_true nofun fun hinverse => ?_
  have hpasses := (List.mem_filter.1 h).2
  rw [hinverse] at hpasses
  simp [hname] at hpasses

/-- Behind an inlined field those that point back make no difference. -/
theorem gather_spread_self :
    gather enter typeName e.inverse (e.spread fields) =
      gather enter typeName e.inverse fields := by
  induction fields with
  | nil => rfl
  | cons f fields ih =>
    by_cases hpasses : (e.inverse.all fun name => f.resolvedName? ≠ some name) = true
    · have hcons : e.spread (f :: fields) = f :: e.spread fields := List.filter_cons_of_pos hpasses
      rw [hcons, gather, gather, ih]
    · have hcons : e.spread (f :: fields) = e.spread fields := List.filter_cons_of_neg hpasses
      have hback : f.role typeName e.inverse = .skipped := by
        refine FieldShape.role_of_not_keptAs fun name hk => hpasses ?_
        cases hinverse : e.inverse with
        | none => rfl
        | some back =>
          have hne : name ≠ back := fun heq => hk.2 (heq ▸ hinverse)
          simp [hk.1, hne]
      rw [hcons, ih, gather, hback]

/-- **The fields that are written out have the entries of the record.** -/
theorem gather_spread {s : SelectionSet} :
    gather enter typeName none (e.spread fields) = .ok s ↔
      gather enter typeName e.inverse fields = .ok s := by
  rw [← gather_spread_self]
  exact gather_congr fun f hf => keptAs_of_mem_spread hf

end Spread

/-! ## The two walks -/

section Walk

variable {catalog : Catalog R} {limit limit' levels levels' : Nat} {inverse : Option String}
  {record record' : RecordShape R} {u v : List (FieldShape R)} {e : FieldShape R} {child : R}
  {typeName typeName' : String} {fields : List (FieldShape R)} {s : SelectionSet}

/-- What is found in fields is found with more levels, and under any name of the record. -/
theorem gather_kept_mono (hle : levels ≤ levels')
    (h : gather (fun inv r => kept catalog limit levels inv (catalog r)) typeName inverse fields =
      .ok s) :
    gather (fun inv r => kept catalog limit' levels' inv (catalog r)) typeName' inverse fields =
      .ok s := by
  have hsettles : Settles
      (gather (fun inv r => kept catalog limit levels inv (catalog r)) typeName inverse fields)
      (gather (fun inv r => kept catalog limit' levels' inv (catalog r)) typeName inverse fields) :=
    gather_settles fun inverse r => kept_settles hle
  exact (gather_congr fun _ _ _ => Iff.rfl).1 (hsettles.eq_ok h)

/-- An inlined field of a record that is entered without an inverse is kept. -/
theorem FieldShape.role_of_isInlined (hin : e.isInlined = true) (hargs : e.arguments = none)
    (hchild : e.type.record? = some child) : e.role typeName none = .splice child :=
  role_eq_splice_iff.2 ⟨⟨_, resolvedName?_of_isInlined hin, nofun⟩, hin, hchild, hargs⟩

variable (hin : e.isInlined = true) (hargs : e.arguments = none)
  (hchild : e.type.record? = some child) (hfields : record.fields = u ++ e :: v)
  (hfields' : record'.fields = u ++ (e.spread (catalog child).fields ++ v))
include hin hargs hchild hfields hfields'

/-- **Where the fields are written out, the same levels suffice.** -/
theorem kept_of_inlined (h : kept catalog limit levels none record = .ok s) :
    kept catalog limit' levels none record' = .ok s := by
  cases levels with
  | zero => cases h
  | succ levels =>
    simp only [kept, hfields, gather_append_eq_ok_iff, gather_cons_eq_ok_iff,
      FieldShape.role_of_isInlined hin hargs hchild] at h
    obtain ⟨before, _, hbefore, ⟨spliced, after, hspliced, hafter, rfl⟩, rfl⟩ := h
    simp only [kept, hfields', gather_append_eq_ok_iff]
    refine ⟨before, _, gather_kept_mono (Nat.le_refl _) hbefore,
      ⟨spliced, after, ?_, gather_kept_mono (Nat.le_refl _) hafter, rfl⟩, rfl⟩
    cases levels with
    | zero => cases hspliced
    | succ levels =>
      rw [kept] at hspliced
      exact gather_kept_mono (Nat.le_succ levels) (gather_spread.2 hspliced)

/-- **Where the field is inlined, one level more suffices**: it is used up by the record below. -/
theorem kept_of_spread (h : kept catalog limit levels none record' = .ok s) :
    kept catalog limit' (levels + 1) none record = .ok s := by
  cases levels with
  | zero => cases h
  | succ levels =>
    simp only [kept, hfields', gather_append_eq_ok_iff] at h
    obtain ⟨before, _, hbefore, ⟨spliced, after, hspliced, hafter, rfl⟩, rfl⟩ := h
    rw [kept, hfields]
    simp only [gather_append_eq_ok_iff, gather_cons_eq_ok_iff,
      FieldShape.role_of_isInlined hin hargs hchild]
    refine ⟨before, _, gather_kept_mono (Nat.le_succ levels) hbefore,
      ⟨spliced, after, ?_, gather_kept_mono (Nat.le_succ levels) hafter, rfl⟩, rfl⟩
    rw [kept]
    exact gather_spread.1 (gather_kept_mono (Nat.le_refl levels) hspliced)

end Walk

/-! ## The texts -/

/-- The selection of a type is found by the walk from its record. -/
theorem select_of_record {catalog : Catalog R} {root : TypeShape R} {r : R}
    (h : root.element = .record r) (limit : Nat) :
    select catalog limit root = kept catalog limit limit none (catalog r) := by
  rw [select, TypeShape.record?_eq_some_iff.2 h]
  rfl

/-- **Embedding a record is writing its fields by hand.**  A record with an inlined field, and one in
which the fields of the other record stand in the place of that field, but for those that point
back, have the same text.  A limit that suffices for the first suffices for the second, and one more
than suffices for the second suffices for the first.  It makes no difference what else the records
have, or where their fields lead. -/
theorem compileSelection_spread {catalog : Catalog R} {root root' : TypeShape R} {r r' child : R}
    {u v : List (FieldShape R)} {e : FieldShape R} (hroot : root.element = .record r)
    (hroot' : root'.element = .record r') (hfields : (catalog r).fields = u ++ e :: v)
    (hin : e.embedded = true ∧ e.tag = none) (hargs : e.arguments = none)
    (hchild : e.type.element = .record child)
    (hfields' : (catalog r').fields = u ++ (e.spread (catalog child).fields ++ v))
    (options : CompileOptions) (text : String) :
    (compileSelection catalog options root = .ok text →
        compileSelection catalog options root' = .ok text) ∧
      (compileSelection catalog options root' = .ok text →
        compileSelection catalog { options with maxDepth := options.maxDepth + 1 } root =
          .ok text) := by
  have hin := FieldShape.isInlined_iff.2 hin
  have hchild := TypeShape.record?_eq_some_iff.2 hchild
  simp only [compileSelection_eq_ok_iff, select_of_record hroot, select_of_record hroot']
  constructor
  · rintro ⟨s, hs, htext⟩
    exact ⟨s, kept_of_inlined hin hargs hchild hfields hfields' hs, htext⟩
  · rintro ⟨s, hs, htext⟩
    exact ⟨s, kept_of_spread hin hargs hchild hfields hfields' hs, htext⟩

/-- Users (`0`) with an inlined profile (`1`), which points back to the user and has a stamp (`2`)
inlined itself; and users whose profile is written out (`3`). -/
def members : Catalog (Fin 4)
  | 0 => ⟨"User", [{ ident := "login", type := .scalar },
      { ident := "profile", inverse := some "user", embedded := true, type := .record 1 }]⟩
  | 1 => ⟨"Profile", [{ ident := "user", type := .record 0 },
      { ident := "stamp", embedded := true, type := .record 2 },
      { ident := "secret", tag := some "-", type := .scalar },
      { ident := "AvatarURL", arguments := some "(size:72)", type := .scalar }]⟩
  | 2 => ⟨"Stamp", [{ ident := "created_at", type := .scalar }]⟩
  | 3 => ⟨"User", [{ ident := "login", type := .scalar },
      { ident := "stamp", embedded := true, type := .record 2 },
      { ident := "secret", tag := some "-", type := .scalar },
      { ident := "AvatarURL", arguments := some "(size:72)", type := .scalar }]⟩

/-- Two levels are enough where the profile is written out, and three where it is inlined. -/
theorem compileSelection_spread_members :
    compileSelection members { maxDepth := 2 } (.record 0) =
        .error (.invalidShape (.nestsTooDeep "Stamp" 2)) ∧
      compileSelection members { maxDepth := 2 } (.record 3) =
        .ok "\x7blogin,createdAt,avatarUrl(size:72)\x7d" ∧
      compileSelection members { maxDepth := 3 } (.list (.record 0)) =
        .ok "\x7blogin,createdAt,avatarUrl(size:72)\x7d" ∧
      compileSelection members { maxDepth := 3 } (.record 3) =
        .ok "\x7blogin,createdAt,avatarUrl(size:72)\x7d" := by
  have hdeep : compileSelection members { maxDepth := 2 } (.record 0) =
      .error (.invalidShape (.nestsTooDeep "Stamp" 2)) := rfl
  have hwritten : compileSelection members { maxDepth := 2 } (.record 3) =
      .ok "\x7blogin,createdAt,avatarUrl(size:72)\x7d" := rfl
  have hspread := @compileSelection_spread _ members (.list (.record 0)) (.record 3) 0 3 1
    [{ ident := "login", type := .scalar }] []
    { ident := "profile", inverse := some "user", embedded := true, type := .record 1 }
    rfl rfl rfl ⟨rfl, rfl⟩ rfl rfl rfl
  have hinlined := (hspread { maxDepth := 2 } _).2 hwritten
  exact ⟨hdeep, hwritten, hinlined, (hspread { maxDepth := 3 } _).1 hinlined⟩

end TypedGraphQL
