import TypedGraphQL.Client
import TypedGraphQL.Proofs.Name.Legal
import TypedGraphQL.Proofs.Operation.Arranged
import TypedGraphQL.Proofs.Selection.Kept
import TypedGraphQL.Proofs.Selection.Text

/-!
# Which operations pass the check of a client

A client may check the text of an operation before it is sent.  If the operation is made of names,
the text fails the check for three reasons only: a selection set in it is empty, a mark in its
header is doubled, or its brackets are nested too deep.  If it passes, it is read as the operation
that was meant.

## What is here

* `HasField` — the fields of a type and of the types below it.
* `FieldShape.IsPlain` — the field is selected under a name, without arguments.
* `isName_of_keptTree` — the entries of a kept tree are names if the fields are plain.
* `compile_validated` — when the text passes, and what it is read as.
* `ladder` — records nested too deep for a document, but not for a selection.
-/

set_option autoImplicit false

namespace TypedGraphQL

open Document

variable {R : Type}

/-! ## Shapes made of names -/

/-- The fields of the record below the wrappers of a type, and those of the types of these
fields. -/
inductive HasField (catalog : Catalog R) : TypeShape R → FieldShape R → Prop
  | own {t : TypeShape R} {r : R} {f : FieldShape R} (hr : t.element = .record r)
      (hf : f ∈ (catalog r).fields) : HasField catalog t f
  | inner {t : TypeShape R} {r : R} {f g : FieldShape R} (hr : t.element = .record r)
      (hg : g ∈ (catalog r).fields) (h : HasField catalog g.type f) : HasField catalog t f

/-- Every field belongs to one of the records. -/
theorem HasField.exists_mem {catalog : Catalog R} {t : TypeShape R} {f : FieldShape R}
    (h : HasField catalog t f) : ∃ r, f ∈ (catalog r).fields := by
  induction h with
  | own _ hf => exact ⟨_, hf⟩
  | inner _ _ _ ih => exact ih

/-- The field has an identifier that is a name, no arguments, and a tag, if any, that is empty, a
name or the one that leaves the field out. -/
def FieldShape.IsPlain (f : FieldShape R) : Prop :=
  isName f.ident = true ∧ f.arguments = none ∧
    ∀ tag ∈ f.tag, tag = "" ∨ tag = FieldShape.omitTag ∨ isName tag = true

instance (f : FieldShape R) : Decidable f.IsPlain :=
  inferInstanceAs (Decidable (_ ∧ _ ∧ ∀ tag ∈ f.tag, _))

/-- A plain field that is kept stands under a name. -/
theorem FieldShape.IsPlain.isName_of_resolvedName? {f : FieldShape R} (h : f.IsPlain)
    {name : String} (hname : f.resolvedName? = some name) : isName name = true := by
  obtain ⟨hident, -, htag⟩ := h
  have hcamel := isName_lowerCamel hident
  rw [resolvedName?] at hname
  cases ht : f.tag with
  | none =>
    rw [ht] at hname
    cases hname
    exact hcamel
  | some tag =>
    rw [ht] at hname
    dsimp only at hname
    split at hname
    · cases hname
    · rename_i homit
      split at hname
      · cases hname
        exact hcamel
      · rename_i hempty
        cases hname
        exact ((htag _ ht).resolve_left hempty).resolve_left homit

theorem FieldShape.IsPlain.isName_entry {f : FieldShape R} (h : f.IsPlain) {inverse : Option String}
    {name : String} (hk : f.KeptAs inverse name) : Entry.IsName ⟨name, f.arguments⟩ :=
  ⟨h.isName_of_resolvedName? hk.1, h.2.1⟩

/-- **Plain fields keep entries that are names.** -/
theorem isName_of_keptTree {catalog : Catalog R} {inverse : Option String}
    {fields : List (FieldShape R)} {s : SelectionSet} (h : KeptTree catalog inverse fields s)
    (hplain : ∀ f ∈ fields, f.IsPlain ∧ ∀ g, HasField catalog f.type g → g.IsPlain) :
    ∀ e ∈ s.entries, e.IsName := by
  -- the fields of a record below are fields of the type that leads there
  have hbelow : ∀ {f : FieldShape R} {child : R},
      (f.IsPlain ∧ ∀ g, HasField catalog f.type g → g.IsPlain) →
      f.type.element = .record child →
      ∀ g ∈ (catalog child).fields, g.IsPlain ∧ ∀ d, HasField catalog g.type d → d.IsPlain :=
    fun hf hr g hg => ⟨hf.2 g (.own hr hg), fun d hd => hf.2 d (.inner hr hg hd)⟩
  induction h with
  | nil => exact List.forall_mem_nil _
  | omitted _ _ ih => exact ih (List.forall_mem_cons.1 hplain).2
  | backReference _ _ _ ih => exact ih (List.forall_mem_cons.1 hplain).2
  | inlined hk _ hr _ _ ihbelow ih =>
    obtain ⟨hf, hrest⟩ := List.forall_mem_cons.1 hplain
    rw [SelectionSet.entries_append]
    exact List.forall_mem_append.2 ⟨ihbelow (hbelow hf hr), ih hrest⟩
  | leaf hk _ _ _ ih =>
    obtain ⟨hf, hrest⟩ := List.forall_mem_cons.1 hplain
    exact List.forall_mem_cons.2 ⟨hf.1.isName_entry hk, ih hrest⟩
  | branch hk _ hr _ _ ihbelow ih =>
    obtain ⟨hf, hrest⟩ := List.forall_mem_cons.1 hplain
    refine List.forall_mem_cons.2 ⟨hf.1.isName_entry hk, ?_⟩
    exact List.forall_mem_append.2 ⟨ihbelow (hbelow hf hr), ih hrest⟩

/-! ## The check -/

section Check

variable {c : Client} {catalog : Catalog R} {root : TypeShape R} {kind : OperationKind}
  {name text : String} {vs : Variables}

/-- An operation has a text if its selection and its header have. -/
theorem compile_eq_ok_iff {options : CompileOptions} :
    compile catalog options root vs kind name = .ok text ↔
      ∃ s header, select catalog options.maxDepth root = .ok s ∧
        compileHeader options kind vs = .ok header ∧
        text = construct options kind name header s.render := by
  rw [compile, compileSelection_eq]
  cases select catalog options.maxDepth root with
  | error cause => exact ⟨nofun, fun ⟨_, _, h, _⟩ => nomatch h⟩
  | ok s =>
    cases compileHeader options kind vs with
    | error e => exact ⟨nofun, fun ⟨_, _, _, h, _⟩ => nomatch h⟩
    | ok header =>
      constructor
      · intro h
        cases h
        exact ⟨s, header, rfl, rfl, rfl⟩
      · rintro ⟨_, _, hs, hheader, rfl⟩
        cases hs
        cases hheader
        rfl

/-- A client that checks a text accepts it if it can be read. -/
theorem compile_of_validateQueries (hv : c.validateQueries = true)
    (h : compile catalog c.options root vs kind name = .ok text) :
    c.compile catalog root kind name vs =
      match Document.parse text with
      | .ok _ => .ok text
      | .error cause => .error (.invalidQuery cause) := by
  rw [Client.compile, h]
  exact if_pos hv

/-- The signatures of the variables have been written. -/
theorem encodeType_of_compileHeader {options : CompileOptions} {header : Option String}
    (h : compileHeader options kind vs = .ok header) :
    ∀ e ∈ vs.entries, ∃ signature,
      encodeType options (kind == .mutation) e.2.type true = .ok signature := by
  rcases compileHeader_eq_ok_iff.1 h with ⟨hnil, -⟩ | ⟨-, text, htext, -⟩
  · rw [hnil]
    exact List.forall_mem_nil _
  · revert htext
    induction vs.entries generalizing text with
    | nil => exact fun _ => List.forall_mem_nil _
    | cons e rest ih =>
      intro htext
      obtain ⟨signature, more, hsignature, hmore, -⟩ := declarations_cons_eq_ok_iff.1 htext
      exact List.forall_mem_cons.2 ⟨⟨signature, hsignature⟩, ih more hmore⟩

/-- **A client that checks its texts accepts an operation made of names exactly if no set of its
selection is empty, no mark in its header is doubled, and no more than fifty brackets are open at
once.**  What it accepts is read as one operation: of the kind that was asked for, or a query where
the selection stands alone; under its name; with the variables in the order of their names, each
with its signature; and with the kept tree as its selection. -/
theorem compile_validated (hv : c.validateQueries = true)
    (hname : name = "" ∨ isName name = true) (hvars : ∀ e ∈ vs.entries, isName e.1 = true)
    (hfields : ∀ f, HasField catalog root f → f.IsPlain)
    (h : compile catalog c.options root vs kind name = .ok text) :
    ∃ r s, root.element = .record r ∧ KeptTree catalog none (catalog r).fields s ∧
      (c.compile catalog root kind name vs = .ok text ↔
        (∀ t ∈ s.sets, t ≠ .nil) ∧
        ¬ (c.options.doubleRequiredMarker = true ∧ ∃ e ∈ vs.entries,
          e.2.type.hasMarkedRequired c.options (kind == .mutation) true = true) ∧
        FitsIn maxOpen vs.entries s) ∧
      (c.compile catalog root kind name vs ≠ .ok text →
        ∃ cause, c.compile catalog root kind name vs = .error (.invalidQuery cause)) ∧
      (c.compile catalog root kind name vs = .ok text →
        Document.parse text =
          .ok ⟨[operationDefinition c.options kind name vs.entries s]⟩ ∧
        (vs.entries.map (·.1)).Pairwise (· < ·) ∧
        ∀ e ∈ vs.entries, encodeType c.options (kind == .mutation) e.2.type true =
          .ok (variableDefinition c.options (kind == .mutation) e).type.text) := by
  obtain ⟨s, header, hselect, hheader, rfl⟩ := compile_eq_ok_iff.1 h
  obtain ⟨r, hr, htree⟩ := keptTree_of_select hselect
  have hs : ∀ e ∈ s.entries, e.IsName := isName_of_keptTree htree fun f hf =>
    ⟨hfields f (.own hr hf), fun g hg => hfields g (.inner hr hf hg)⟩
  have hsingle : vs.entries.any (isDoubled c.options (kind == .mutation)) = false ↔
      ¬ (c.options.doubleRequiredMarker = true ∧ ∃ e ∈ vs.entries,
        e.2.type.hasMarkedRequired c.options (kind == .mutation) true = true) := by
    rw [Bool.eq_false_iff, ne_eq, List.any_eq_true]
    refine not_congr ⟨fun ⟨e, he, hd⟩ => ?_, fun ⟨hmarker, e, he, hm⟩ => ?_⟩
    · exact ⟨(isDoubled_iff.1 hd).1, e, he, (isDoubled_iff.1 hd).2⟩
    · exact ⟨e, he, isDoubled_iff.2 ⟨hmarker, hm⟩⟩
  refine ⟨r, s, hr, htree, ?_⟩
  rw [compile_of_validateQueries hv h, parse_construct hheader hname hvars hs, ← hsingle]
  by_cases hfits : FitsIn maxOpen vs.entries s
  · rw [if_pos hfits]
    by_cases harranged : IsArranged c.options kind vs.entries s
    · rw [if_pos harranged]
      refine ⟨⟨fun _ => ⟨harranged.1, harranged.2, hfits⟩, fun _ => rfl⟩, absurd rfl, fun _ => ?_⟩
      refine ⟨rfl, List.pairwise_map.2 vs.ordered, fun e he => ?_⟩
      obtain ⟨signature, hsignature⟩ := encodeType_of_compileHeader hheader e he
      have hmark := fun hd => List.any_eq_false.1 harranged.2 e he (isDoubled_iff.2 hd)
      rw [variableDefinition, encodeType_eq_typeRef hmark hsignature]
      exact hsignature
    · rw [if_neg harranged]
      refine ⟨⟨nofun, fun hall => ?_⟩, fun _ => ⟨_, rfl⟩, nofun⟩
      exact absurd ⟨hall.1, hall.2.1⟩ harranged
  · rw [if_neg hfits]
    exact ⟨⟨nofun, fun hall => absurd hall.2.2 hfits⟩, fun _ => ⟨_, rfl⟩, nofun⟩

end Check

/-! ### Authors and books -/

/-- Authors and their books, which point back to their author. -/
def shelf : Catalog (Fin 2)
  | 0 => ⟨"Author", [{ ident := "Name", type := .scalar },
      { ident := "books", inverse := some "author", type := .list (.record 1) }]⟩
  | 1 => ⟨"Book", [{ ident := "title", tag := some "heading", type := .scalar },
      { ident := "author", type := .record 0 },
      { ident := "draft", tag := some "-", type := .scalar }]⟩

/-- A variable that counts books. -/
def firstBooks : Variables :=
  Variables.empty.set "first" ⟨.optional (.named "Int"), .int 2⟩

theorem isPlain_shelf : ∀ f, HasField shelf (.record 0) f → f.IsPlain := by
  intro f hf
  obtain ⟨r, hr⟩ := hf.exists_mem
  have hall : ∀ r, ∀ f ∈ (shelf r).fields, f.IsPlain := by decide
  exact hall r f hr

theorem compile_validated_shelf :
    Client.compile { validateQueries := true } shelf (.record 0) .query "Shelf" firstBooks =
      .ok "query Shelf($first:Int)\x7bname,books\x7bheading\x7d\x7d" := by
  have h : compile shelf {} (.record 0) firstBooks .query "Shelf" =
      .ok "query Shelf($first:Int)\x7bname,books\x7bheading\x7d\x7d" := rfl
  obtain ⟨r, s, hr, htree, haccepted, -⟩ := compile_validated (c := { validateQueries := true })
    rfl (Or.inr (by decide)) (by decide) isPlain_shelf h
  obtain rfl : 0 = r := TypeShape.record.inj hr
  have hselect : select shelf 64 (.record 0) = .ok (.leaf ⟨"name", none⟩
      (.branch ⟨"books", none⟩ (.leaf ⟨"heading", none⟩ .nil) .nil)) := rfl
  obtain ⟨r, hr', hkept⟩ := keptTree_of_select hselect
  obtain rfl : 0 = r := TypeShape.record.inj hr'
  obtain rfl := htree.unique hkept
  exact haccepted.2 (by decide)

/-! ## Nesting -/

/-- Records that contain each other: a rung, and below it the next. -/
def ladder : Catalog Nat
  | 0 => ⟨"Rung", [{ ident := "a", type := .scalar }]⟩
  | n + 1 => ⟨"Rung", [{ ident := "a", type := .record n }]⟩

/-- The kept tree of a rung. -/
def rungs : Nat → SelectionSet
  | 0 => .leaf ⟨"a", none⟩ .nil
  | n + 1 => .branch ⟨"a", none⟩ (rungs n) .nil

theorem role_rung (typeName : String) (n : Nat) :
    FieldShape.role typeName none { ident := "a", type := .record n } = .branch ⟨"a", none⟩ n := by
  have hname : lowerCamel "a" = "a" := by decide
  exact FieldShape.role_eq_branch_iff.2 ⟨⟨congrArg some hname, nofun⟩, rfl, rfl, rfl⟩

theorem kept_ladder {limit levels n : Nat} (h : n < levels) :
    kept ladder limit levels none (ladder n) = .ok (rungs n) := by
  induction n generalizing levels with
  | zero =>
    obtain ⟨levels, rfl⟩ := Nat.exists_eq_add_of_le' (Nat.succ_le_of_lt (Nat.zero_lt_of_lt h))
    rfl
  | succ n ih =>
    obtain ⟨levels, rfl⟩ := Nat.exists_eq_add_of_le' (Nat.succ_le_of_lt (Nat.zero_lt_of_lt h))
    rw [kept]
    refine gather_cons_eq_ok_iff.2 ?_
    rw [role_rung]
    exact ⟨rungs n, .nil, ih (Nat.lt_of_succ_lt_succ h), rfl, rfl⟩

theorem depth_rungs (n : Nat) : (rungs n).depth = n := by
  induction n with
  | zero => rfl
  | succ n ih => rw [rungs, SelectionSet.depth, ih, SelectionSet.depth, Nat.max_zero]

theorem ne_nil_of_mem_sets_rungs (n : Nat) : ∀ t ∈ (rungs n).sets, t ≠ .nil := by
  induction n with
  | zero => exact List.forall_mem_cons.2 ⟨nofun, List.forall_mem_nil _⟩
  | succ n ih =>
    refine List.forall_mem_cons.2 ⟨nofun, ?_⟩
    rw [rungs, SelectionSet.innerSets, SelectionSet.innerSets, List.append_nil]
    exact ih

theorem isPlain_ladder (n : Nat) : ∀ f, HasField ladder (.record n) f → f.IsPlain := by
  intro f hf
  obtain ⟨r, hr⟩ := hf.exists_mem
  have hname : isName "a" = true := by decide
  cases r with
  | zero =>
    obtain rfl := List.mem_singleton.1 hr
    exact ⟨hname, rfl, nofun⟩
  | succ r =>
    obtain rfl := List.mem_singleton.1 hr
    exact ⟨hname, rfl, nofun⟩

/-- Fifty-one rungs can be selected, and no set of the selection is empty; but the text is no
document. -/
theorem ladder_refused :
    (∀ f, HasField ladder (.record 50) f → f.IsPlain) ∧
      KeptTree ladder none (ladder 50).fields (rungs 50) ∧ (∀ t ∈ (rungs 50).sets, t ≠ .nil) ∧
      (∃ text, compile ladder {} (.record 50) .empty .query "" = .ok text) ∧
      Client.compile { validateQueries := true } ladder (.record 50) .query "" .empty =
        .error (.invalidQuery .tooDeep) := by
  have hkept : kept ladder 64 64 none (ladder 50) = .ok (rungs 50) := kept_ladder (by decide)
  have htree := keptTree_of_kept hkept
  have hplain := isPlain_ladder 50
  have hs := isName_of_keptTree htree fun f hf =>
    ⟨hplain f (.own rfl hf), fun g hg => hplain g (.inner rfl hf hg)⟩
  have hheader : compileHeader {} .query .empty = .ok none := rfl
  have htext : compile ladder {} (.record 50) .empty .query "" =
      .ok (construct {} .query "" none (rungs 50).render) :=
    compile_eq_ok_iff.2 ⟨rungs 50, none, hkept, hheader, rfl⟩
  have hdeep : ¬ FitsIn maxOpen Variables.empty.entries (rungs 50) := by
    rw [FitsIn, depth_rungs]
    decide
  refine ⟨hplain, htree, ne_nil_of_mem_sets_rungs 50, ⟨_, htext⟩, ?_⟩
  rw [compile_of_validateQueries rfl htext,
    parse_construct hheader (Or.inl rfl) (List.forall_mem_nil _) hs, if_neg hdeep]

end TypedGraphQL
