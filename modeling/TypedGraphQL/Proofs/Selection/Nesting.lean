import Mathlib.Algebra.Order.BigOperators.Group.Finset
import TypedGraphQL.Proofs.Selection.Violation

/-!
# The limit on nesting

The walk over the shapes is kept finite by a limit on nesting alone.  This file says what the limit
changes.  A result other than *nested too deep* is the same with every higher limit.  And with a
limit above the number of all fields that are declared, only a walk that never ends is refused for
its nesting, so that all these limits have the same results.

## What is here

* `NestsTooDeep` — the walk was refused for its nesting.
* `Settles` — a result that is not refused for its nesting is final; `kept_settles`.
* `HasHeight` — the least number of levels with which the walk below a record is not refused.
* `HasHeight.exists_field` — one level below there is a record whose height is one less.
* `HasHeight.le` — the height of a record is bounded by the number of fields.
* `IsTooDeep` — a selection was refused because it nests deeper than its options allow.
* `compileSelection_of_limits` — limits above this number have the same results.
* `compileSelection_of_raised_limit` — any higher limit has the same results, but for refusals.

A walk passes through the same record several times, so records cannot be counted.  What counts is
the field by which a record was entered: it determines the record and the inverse, and therefore the
height.  Below a record of height `n + 1` there is one of every smaller height, each entered by
another field; hence there are at least `n` fields.
-/

set_option autoImplicit false

namespace TypedGraphQL

variable {R : Type}

/-! ## Refused for its nesting -/

/-- The walk was refused for its nesting. -/
def NestsTooDeep (result : Except ShapeError SelectionSet) : Prop :=
  ∃ typeName limit, result = .error (.nestsTooDeep typeName limit)

/-- The first result is final: unless it was refused for its nesting, the second is the same. -/
def Settles (result result' : Except ShapeError SelectionSet) : Prop :=
  NestsTooDeep result ∨ result = result'

theorem not_nestsTooDeep_ok (s : SelectionSet) : ¬ NestsTooDeep (.ok s) := by
  rintro ⟨typeName, limit, h⟩
  cases h

theorem Settles.nestsTooDeep {result result' : Except ShapeError SelectionSet}
    (h : Settles result result') (hn : NestsTooDeep result') : NestsTooDeep result := by
  rcases h with h | rfl
  · exact h
  · exact hn

/-- A result that is final is found again. -/
theorem Settles.eq_ok {result result' : Except ShapeError SelectionSet} {s : SelectionSet}
    (h : Settles result result') (hs : result = .ok s) : result' = .ok s := by
  rcases h with hn | rfl
  · rw [hs] at hn
    exact absurd hn (not_nestsTooDeep_ok s)
  · exact hs

/-- Two steps have a final result if each of them has. -/
theorem Settles.bind {result result' : Except ShapeError SelectionSet}
    {next next' : SelectionSet → Except ShapeError SelectionSet} (h : Settles result result')
    (hnext : ∀ s, Settles (next s) (next' s)) :
    Settles (result >>= next) (result' >>= next') := by
  rcases h with ⟨name, limit, hn⟩ | rfl
  · refine Or.inl ⟨name, limit, ?_⟩
    rw [hn]
    rfl
  · cases result with
    | error cause => exact Or.inr rfl
    | ok s => exact hnext s

section Gather

variable {enter enter' : Option String → R → Except ShapeError SelectionSet} {typeName : String}
  {inverse : Option String} {fields : List (FieldShape R)}

/-- **The fields of a record have a final result** if the records below have. -/
theorem gather_settles (h : ∀ inverse r, Settles (enter inverse r) (enter' inverse r)) :
    Settles (gather enter typeName inverse fields) (gather enter' typeName inverse fields) := by
  induction fields with
  | nil => exact Or.inr rfl
  | cons f fields ih =>
    rw [gather, gather]
    cases f.role typeName inverse with
    | skipped => exact ih
    | refused cause => exact Or.inr rfl
    | leaf entry => exact ih.bind fun rest => Or.inr rfl
    | splice child | branch entry child =>
      exact (h f.inverse child).bind fun below => ih.bind fun rest => Or.inr rfl

/-- If the fields are refused for their nesting, and no record below is refused any less, then they
are refused again. -/
theorem nestsTooDeep_gather (hs : ∀ inverse r, Settles (enter inverse r) (enter' inverse r))
    (h : ∀ f ∈ fields, ∀ child, f.type.element = .record child →
      NestsTooDeep (enter f.inverse child) → NestsTooDeep (enter' f.inverse child))
    (hn : NestsTooDeep (gather enter typeName inverse fields)) :
    NestsTooDeep (gather enter' typeName inverse fields) := by
  induction fields with
  | nil => exact absurd hn (not_nestsTooDeep_ok .nil)
  | cons f fields ih =>
    obtain ⟨hf, hfields⟩ := List.forall_mem_cons.1 h
    obtain ⟨name, limit, hn⟩ := hn
    have hrest : gather enter typeName inverse fields = .error (.nestsTooDeep name limit) →
        NestsTooDeep (gather enter' typeName inverse fields) :=
      fun hn => ih hfields ⟨name, limit, hn⟩
    -- a field that is entered: either its record is refused, or one of the fields after it
    have hentered : ∀ {child : R}, f.type.record? = some child →
        (enter f.inverse child = .error (.nestsTooDeep name limit) ∨
          (∃ s, enter f.inverse child = .ok s) ∧
            gather enter typeName inverse fields = .error (.nestsTooDeep name limit)) →
        ∃ name' limit', enter' f.inverse child = .error (.nestsTooDeep name' limit') ∨
          (∃ s, enter' f.inverse child = .ok s) ∧
            gather enter' typeName inverse fields = .error (.nestsTooDeep name' limit') := by
      intro child hr hn
      rcases hn with hn | ⟨⟨s, hok⟩, hn⟩
      · have hchild := TypeShape.record?_eq_some_iff.1 hr
        obtain ⟨name', limit', hn'⟩ := hf child hchild ⟨name, limit, hn⟩
        exact ⟨name', limit', Or.inl hn'⟩
      · obtain ⟨name', limit', hn'⟩ := hrest hn
        exact ⟨name', limit', Or.inr ⟨⟨s, (hs f.inverse child).eq_ok hok⟩, hn'⟩⟩
    unfold NestsTooDeep
    simp only [gather_cons_eq_error_iff] at hn ⊢
    cases hrole : f.role typeName inverse with
    | skipped | leaf entry =>
      rw [hrole] at hn
      exact hrest hn
    | refused cause =>
      rw [hrole] at hn
      exact ⟨name, limit, hn⟩
    | splice child =>
      rw [hrole] at hn
      exact hentered (FieldShape.role_eq_splice_iff.1 hrole).2.2.1 hn
    | branch entry child =>
      rw [hrole] at hn
      exact hentered (FieldShape.role_eq_branch_iff.1 hrole).2.2.1 hn

end Gather

/-! ## More levels -/

section Levels

variable {catalog : Catalog R} {limit limit' levels levels' : Nat} {inverse : Option String}
  {record : RecordShape R}

/-- **A result other than nested too deep is final**: it is the same with more levels. -/
theorem kept_settles (h : levels ≤ levels') :
    Settles (kept catalog limit levels inverse record)
      (kept catalog limit' levels' inverse record) := by
  induction levels generalizing levels' inverse record with
  | zero => exact Or.inl ⟨record.typeName, limit, rfl⟩
  | succ levels ih =>
    obtain ⟨levels', rfl⟩ := Nat.exists_eq_add_of_le' (Nat.le_trans (Nat.le_add_left 1 levels) h)
    rw [kept, kept]
    exact gather_settles fun inverse r => ih (Nat.le_of_succ_le_succ h)

/-- With fewer levels a walk is refused all the more. -/
theorem nestsTooDeep_of_le (h : levels ≤ levels')
    (hn : NestsTooDeep (kept catalog limit' levels' inverse record)) :
    NestsTooDeep (kept catalog limit levels inverse record) :=
  (kept_settles h).nestsTooDeep hn

/-! ## Heights -/

/-- The record, entered with `inverse`, has a height: the least number of levels with which the walk
is not refused for its nesting. -/
def HasHeight (catalog : Catalog R) (height : Nat) (inverse : Option String)
    (record : RecordShape R) : Prop :=
  ¬ NestsTooDeep (kept catalog 0 height inverse record) ∧
    ∀ levels < height, NestsTooDeep (kept catalog 0 levels inverse record)

theorem HasHeight.unique {m n : Nat} (h : HasHeight catalog m inverse record)
    (h' : HasHeight catalog n inverse record) : m = n := by
  rcases Nat.lt_trichotomy m n with hlt | heq | hgt
  · exact absurd (h'.2 m hlt) h.1
  · exact heq
  · exact absurd (h.2 n hgt) h'.1

/-- A walk that is not refused with some number of levels has a height, and it is not 0. -/
theorem exists_hasHeight (h : ¬ NestsTooDeep (kept catalog limit levels inverse record)) :
    ∃ n, HasHeight catalog (n + 1) inverse record := by
  classical
  have hsome : ∃ n, ¬ NestsTooDeep (kept catalog 0 n inverse record) :=
    ⟨levels, mt (nestsTooDeep_of_le (Nat.le_refl levels)) h⟩
  have hleast : HasHeight catalog (Nat.find hsome) inverse record :=
    ⟨Nat.find_spec hsome, fun n hn => Classical.not_not.1 (Nat.find_min hsome hn)⟩
  cases hheight : Nat.find hsome with
  | zero =>
    rw [hheight] at hleast
    exact absurd ⟨record.typeName, 0, rfl⟩ hleast.1
  | succ n =>
    rw [hheight] at hleast
    exact ⟨n, hleast⟩

/-- **Below a record there is one whose height is one less**, unless the record is the last. -/
theorem HasHeight.exists_field {n : Nat} (h : HasHeight catalog (n + 2) inverse record) :
    ∃ f ∈ record.fields, ∃ child, f.type.element = .record child ∧
      HasHeight catalog (n + 1) f.inverse (catalog child) := by
  by_contra hnone
  have hdeep := h.2 (n + 1) (Nat.lt_succ_self (n + 1))
  refine h.1 ?_
  rw [kept] at hdeep ⊢
  refine nestsTooDeep_gather (fun inverse r => kept_settles (Nat.le_succ n)) ?_ hdeep
  intro f hf child hr hn
  by_contra hstop
  refine hnone ⟨f, hf, child, hr, hstop, fun levels hlt => ?_⟩
  exact nestsTooDeep_of_le (Nat.le_of_lt_succ hlt) hn

end Levels

/-! ## Counting fields -/

section Count

variable {catalog : Catalog R} {records : Finset R}

/-- The fields of some records lead to these records only. -/
def Catalog.IsClosed (catalog : Catalog R) (records : Finset R) : Prop :=
  ∀ r ∈ records, ∀ f ∈ (catalog r).fields, ∀ child, f.type.element = .record child →
    child ∈ records

/-- How many fields some records declare. -/
def Catalog.fieldCount (catalog : Catalog R) (records : Finset R) : Nat :=
  ∑ r ∈ records, (catalog r).fields.length

/-- Different fields that are declared are no more than that. -/
theorem card_le_fieldCount {fields : Finset (FieldShape R)}
    (h : ∀ f ∈ fields, ∃ r ∈ records, f ∈ (catalog r).fields) :
    fields.card ≤ catalog.fieldCount records := by
  classical
  have hsub : fields ⊆ records.biUnion fun r => (catalog r).fields.toFinset := by
    intro f hf
    obtain ⟨r, hr, hmem⟩ := h f hf
    exact Finset.mem_biUnion.2 ⟨r, hr, List.mem_toFinset.2 hmem⟩
  calc fields.card
    _ ≤ (records.biUnion fun r => (catalog r).fields.toFinset).card := Finset.card_le_card hsub
    _ ≤ ∑ r ∈ records, (catalog r).fields.toFinset.card := Finset.card_biUnion_le
    _ ≤ catalog.fieldCount records := Finset.sum_le_sum fun r _ => List.toFinset_card_le _

/-- Below a record there is one of every smaller height, entered by a field that is declared. -/
theorem HasHeight.exists_field_of_le (hclosed : catalog.IsClosed records) {n : Nat}
    {inverse : Option String} {r : R} (hr : r ∈ records)
    (h : HasHeight catalog (n + 1) inverse (catalog r)) {k : Nat} (hk : k < n) :
    ∃ f, (∃ r ∈ records, f ∈ (catalog r).fields) ∧ ∃ child, f.type.element = .record child ∧
      HasHeight catalog (k + 1) f.inverse (catalog child) := by
  induction n generalizing inverse r with
  | zero => exact absurd hk (Nat.not_lt_zero k)
  | succ n ih =>
    obtain ⟨f, hf, child, hchild, hbelow⟩ := h.exists_field
    rcases Nat.eq_or_lt_of_le (Nat.le_of_lt_succ hk) with rfl | hlt
    · exact ⟨f, ⟨r, hr, hf⟩, child, hchild, hbelow⟩
    · exact ih (hclosed r hr f hf child hchild) hbelow hlt

/-- **The height of a record is at most one more than the number of fields.**  Every smaller height
belongs to a field of its own. -/
theorem HasHeight.le (hclosed : catalog.IsClosed records) {n : Nat} {inverse : Option String}
    {r : R} (hr : r ∈ records) (h : HasHeight catalog (n + 1) inverse (catalog r)) :
    n ≤ catalog.fieldCount records := by
  have hfields : ∀ k : Fin n, ∃ f, (∃ r ∈ records, f ∈ (catalog r).fields) ∧ ∃ child,
      f.type.element = .record child ∧ HasHeight catalog (k + 1) f.inverse (catalog child) :=
    fun k => h.exists_field_of_le hclosed hr k.isLt
  choose field hdeclared hheight using hfields
  have hinj : Function.Injective field := by
    intro k l heq
    obtain ⟨child, hchild, hkheight⟩ := hheight k
    obtain ⟨child', hchild', hlheight⟩ := hheight l
    rw [heq] at hchild hkheight
    cases hchild.symm.trans hchild'
    exact Fin.ext (Nat.succ.inj (hkheight.unique hlheight))
  have hcard : (Finset.univ.map ⟨field, hinj⟩).card ≤ catalog.fieldCount records := by
    refine card_le_fieldCount fun f hf => ?_
    obtain ⟨k, -, rfl⟩ := Finset.mem_map.1 hf
    exact hdeclared k
  rwa [Finset.card_map, Finset.card_fin] at hcard

/-- **With more levels than fields only an endless walk is refused**: it is refused with every
number of levels. -/
theorem nestsTooDeep_of_fieldCount_lt (hclosed : catalog.IsClosed records) {r : R}
    (hr : r ∈ records) {limit levels : Nat} {inverse : Option String}
    (hlevels : catalog.fieldCount records < levels)
    (hn : NestsTooDeep (kept catalog limit levels inverse (catalog r))) (limit' levels' : Nat) :
    NestsTooDeep (kept catalog limit' levels' inverse (catalog r)) := by
  by_contra hstop
  obtain ⟨n, hheight⟩ := exists_hasHeight hstop
  have hle : n + 1 ≤ levels := Nat.lt_of_le_of_lt (hheight.le hclosed hr) hlevels
  exact hheight.1 (nestsTooDeep_of_le hle hn)

end Count

/-! ## The results of two limits -/

section Limits

variable {catalog : Catalog R} {records : Finset R} {root : TypeShape R}

/-- The selection was refused because it nests deeper than the options allow. -/
def IsTooDeep (options : CompileOptions) (result : Except Error String) : Prop :=
  ∃ typeName, result = .error (.invalidShape (.nestsTooDeep typeName options.maxDepth))

/-- A walk that is refused for its nesting names the limit it was given. -/
theorem limit_eq_of_kept {limit limit' levels : Nat} {inverse : Option String}
    {record : RecordShape R} {typeName : String}
    (h : kept catalog limit levels inverse record = .error (.nestsTooDeep typeName limit')) :
    limit' = limit := by
  obtain ⟨path, rank, hviolation, -⟩ := isFirst_of_kept_error h
  cases hviolation
  rfl

theorem isTooDeep_iff {options : CompileOptions} :
    IsTooDeep options (compileSelection catalog options root) ↔
      ∃ r, root.element = .record r ∧
        NestsTooDeep (kept catalog options.maxDepth options.maxDepth none (catalog r)) := by
  unfold IsTooDeep
  simp only [compileSelection_eq_error_iff, select]
  cases hr : root.record? with
  | none =>
    rw [TypeShape.element_eq_scalar_iff.2 hr]
    constructor
    · rintro ⟨_, _, ⟨⟩, ⟨⟩⟩
    · rintro ⟨_, ⟨⟩, _⟩
  | some r =>
    rw [TypeShape.record?_eq_some_iff.1 hr]
    constructor
    · rintro ⟨typeName, cause, h, heq⟩
      cases heq
      exact ⟨r, rfl, typeName, options.maxDepth, h⟩
    · rintro ⟨r', hr', typeName, limit, h⟩
      cases hr'
      obtain rfl := limit_eq_of_kept h
      exact ⟨typeName, _, h, rfl⟩

/-- A selection that is not refused for its nesting is the same with a higher limit. -/
theorem compileSelection_of_le {options options' : CompileOptions}
    (hle : options.maxDepth ≤ options'.maxDepth)
    (h : ¬ IsTooDeep options (compileSelection catalog options root)) :
    compileSelection catalog options root = compileSelection catalog options' root := by
  rw [compileSelection_eq, compileSelection_eq]
  have hselect : select catalog options.maxDepth root = select catalog options'.maxDepth root := by
    rw [select, select]
    cases hr : root.record? with
    | none => rfl
    | some r =>
      refine (kept_settles hle).resolve_left fun hn => h (isTooDeep_iff.2 ?_)
      exact ⟨r, TypeShape.record?_eq_some_iff.1 hr, hn⟩
  rw [hselect]

/-- **Limits above the number of fields have the same results.**  Under each of them the same types
are refused for their nesting, namely those whose walk never ends, which every limit refuses; and
what is not refused for its nesting has the same text or the same problem. -/
theorem compileSelection_of_limits (hclosed : catalog.IsClosed records)
    (hroot : ∀ r, root.element = .record r → r ∈ records) {options options' : CompileOptions}
    (hlimit : catalog.fieldCount records + 1 ≤ options.maxDepth)
    (hlimit' : catalog.fieldCount records + 1 ≤ options'.maxDepth) :
    (IsTooDeep options (compileSelection catalog options root) ↔
      IsTooDeep options' (compileSelection catalog options' root)) ∧
    (¬ IsTooDeep options (compileSelection catalog options root) →
      compileSelection catalog options root = compileSelection catalog options' root) ∧
    (IsTooDeep options (compileSelection catalog options root) →
      ∀ options'' : CompileOptions,
        IsTooDeep options'' (compileSelection catalog options'' root)) := by
  -- stated for any options above the number, so that it serves both sides
  have hendless : ∀ o : CompileOptions, catalog.fieldCount records + 1 ≤ o.maxDepth →
      IsTooDeep o (compileSelection catalog o root) →
        ∀ o' : CompileOptions, IsTooDeep o' (compileSelection catalog o' root) := by
    intro o ho hdeep o'
    obtain ⟨r, hr, hn⟩ := isTooDeep_iff.1 hdeep
    have hall := nestsTooDeep_of_fieldCount_lt hclosed (hroot r hr) ho hn
    exact isTooDeep_iff.2 ⟨r, hr, hall o'.maxDepth o'.maxDepth⟩
  refine ⟨⟨fun h => ?_, fun h => ?_⟩, fun h => ?_, hendless options hlimit⟩
  · exact hendless options hlimit h options'
  · exact hendless options' hlimit' h options
  · rcases Nat.le_total options.maxDepth options'.maxDepth with hle | hle
    · exact compileSelection_of_le hle h
    · have h' := fun hdeep => h (hendless options' hlimit' hdeep options)
      exact (compileSelection_of_le hle h').symm

/-- Comments (`false`) that answer each other, and the post they are on (`true`), which points back
to them. -/
def thread : Catalog Bool
  | false => ⟨"Comment", [{ ident := "text", type := .scalar },
      { ident := "replies", inverse := some "post", type := .list (.record false) },
      { ident := "post", inverse := some "comments", type := .record true }]⟩
  | true => ⟨"Post", [{ ident := "title", type := .scalar },
      { ident := "comments", inverse := some "post", type := .list (.record false) }]⟩

/-- Replies to replies never end.  A limit above the five fields finds it out, and so no higher
limit helps. -/
theorem compileSelection_of_limits_thread :
    thread.fieldCount Finset.univ = 5 ∧
      IsTooDeep { maxDepth := 6 } (compileSelection thread { maxDepth := 6 } (.record true)) ∧
      IsTooDeep { maxDepth := 64 } (compileSelection thread { maxDepth := 64 } (.record true)) := by
  have hclosed : thread.IsClosed Finset.univ := fun _ _ _ _ _ _ => Finset.mem_univ _
  have hcount : thread.fieldCount Finset.univ = 5 := rfl
  have hdeep : IsTooDeep { maxDepth := 6 }
      (compileSelection thread { maxDepth := 6 } (.record true)) := ⟨"Comment", rfl⟩
  have hlimits := @compileSelection_of_limits _ thread Finset.univ (.record true) hclosed
    (fun _ _ => Finset.mem_univ _) { maxDepth := 6 } { maxDepth := 64 } (by decide) (by decide)
  exact ⟨hcount, hdeep, hlimits.1.1 hdeep⟩

/-! ## A higher limit -/

/-- The signature of a type does not depend on the limit. -/
theorem encodeType_of_limit (options : CompileOptions) (limit : Nat) (isMutation : Bool)
    (t : VariableType) (required : Bool) :
    encodeType { options with maxDepth := limit } isMutation t required =
      encodeType options isMutation t required := by
  induction t generalizing required with
  | scalar kind => rfl
  | named name => rfl
  | list t ih => rw [encodeType, encodeType, ih]
  | optional t ih => rw [encodeType, encodeType, ih]

theorem declarations_of_limit (options : CompileOptions) (limit : Nat) (isMutation : Bool)
    (entries : List (String × Variable)) :
    Variables.declarations { options with maxDepth := limit } isMutation entries =
      Variables.declarations options isMutation entries := by
  induction entries with
  | nil => rfl
  | cons e entries ih =>
    simp only [Variables.declarations, Variables.declaration, encodeType_of_limit, ih]

/-- **Raising the limit changes nothing but refusals for nesting.**  Every text stays what it is, and
so does every other problem, even one that is met before an endless walk begins; and so does the
outcome for the whole operation. -/
theorem compileSelection_of_raised_limit {options : CompileOptions} {limit : Nat}
    (hle : options.maxDepth ≤ limit)
    (h : ¬ IsTooDeep options (compileSelection catalog options root)) :
    compileSelection catalog { options with maxDepth := limit } root =
        compileSelection catalog options root ∧
      ∀ vs kind name, compile catalog { options with maxDepth := limit } root vs kind name =
        compile catalog options root vs kind name := by
  have hsame : compileSelection catalog options root =
      compileSelection catalog { options with maxDepth := limit } root :=
    compileSelection_of_le hle h
  refine ⟨hsame.symm, fun vs kind name => ?_⟩
  have hheader : compileHeader { options with maxDepth := limit } kind vs =
      compileHeader options kind vs := by
    rw [compileHeader, compileHeader, Variables.header, Variables.header, declarations_of_limit]
  rw [compile, compile, ← hsame, hheader]
  rfl

/-- Jobs (`true`) and the users (`false`) they belong to.  A job has an inlined label that is no
record, and waits for another job. -/
def queue : Catalog Bool
  | false => ⟨"User", [{ ident := "login", type := .scalar }]⟩
  | true => ⟨"Job", [{ ident := "owner", type := .record false },
      { ident := "label", embedded := true, type := .scalar },
      { ident := "waits_for", type := .optional (.record true) }]⟩

/-- The text of a user is the same with every limit, and the label of a job is found with every
limit that allows to look at its owner, although jobs wait for each other without end. -/
theorem compileSelection_of_raised_limit_queue :
    compileSelection queue { maxDepth := 1 } (.record false) = .ok "\x7blogin\x7d" ∧
      compileSelection queue { maxDepth := 64 } (.record false) = .ok "\x7blogin\x7d" ∧
      compileSelection queue { maxDepth := 64 } (.list (.record true)) =
        .error (.invalidShape (.embeddedNotRecord "label" "Job")) := by
  have huser : compileSelection queue { maxDepth := 1 } (.record false) = .ok "\x7blogin\x7d" := rfl
  have hjobs : compileSelection queue { maxDepth := 2 } (.list (.record true)) =
      .error (.invalidShape (.embeddedNotRecord "label" "Job")) := rfl
  have huser' := (@compileSelection_of_raised_limit _ queue (.record false) { maxDepth := 1 } 64
    (by decide) (by rw [huser]; rintro ⟨_, ⟨⟩⟩)).1
  have hjobs' := (@compileSelection_of_raised_limit _ queue (.list (.record true)) { maxDepth := 2 }
    64 (by decide) (by rw [hjobs]; rintro ⟨_, ⟨⟩⟩)).1
  exact ⟨huser, huser'.trans huser, hjobs'.trans hjobs⟩

end Limits

end TypedGraphQL
