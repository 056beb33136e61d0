import TypedGraphQL.Operation

/-!
# The written selection is the text of the tree

`writeSelection` puts all sets into one text and decides about every comma by a flag.  This file
shows that what comes out is `SelectionSet.render` of the tree that `select` describes, and that the
same problems are found.

## What is here

* `Draft.add`, `Draft.addAll` — the draft after whole entries have been written.
* `Draft.nest` — a set written below a name is one entry more for the set around it.
* `writeFields_eq`, `writeRecord_eq` — writing a record adds the entries of its tree, whatever the
  draft holds already.
* `compileSelection_eq` — the text of a type is that of its tree.

The draft is universally quantified throughout.  It is what an inlined record needs: its entries go
into a set that is half written, and `Draft.addAll_append` says that this makes no difference.
-/

set_option autoImplicit false

namespace TypedGraphQL

/-! ## Whole entries -/

namespace Draft

/-- The draft after one entry, given by its text. -/
def add (d : Draft) (entry : String) : Draft :=
  ⟨d.text ++ (if d.first then "" else ",") ++ entry, false⟩

/-- The draft after some entries. -/
def addAll (d : Draft) (entries : List String) : Draft :=
  entries.foldl add d

@[simp] theorem addAll_nil (d : Draft) : d.addAll [] = d := rfl

@[simp] theorem addAll_cons (d : Draft) (t : String) (ts : List String) :
    d.addAll (t :: ts) = (d.add t).addAll ts := rfl

theorem addAll_append (d : Draft) (ts us : List String) :
    d.addAll (ts ++ us) = (d.addAll ts).addAll us :=
  List.foldl_append

theorem put_eq_add (d : Draft) (entry : Entry) : d.put entry = d.add entry.text := by
  simp only [put, add, Entry.text, String.append_assoc]

/-- **Entries are joined by single commas.**  The first of them has a comma before it only if the
set has an entry already. -/
theorem addAll_of_ne_nil (d : Draft) {ts : List String} (h : ts ≠ []) :
    d.addAll ts =
      ⟨d.text ++ (if d.first then "" else ",") ++ String.intercalate "," ts, false⟩ := by
  induction ts generalizing d with
  | nil => exact absurd rfl h
  | cons t ts ih =>
    rw [addAll_cons]
    cases ts with
    | nil => rw [addAll_nil, String.intercalate_singleton, add]
    | cons u us =>
      rw [ih _ (List.cons_ne_nil u us), String.intercalate_cons_cons]
      simp only [add, Bool.false_eq_true, if_false, String.append_assoc]

/-- In a set that was just opened the entries need no comma before them. -/
theorem openSet_addAll_text (d : Draft) (ts : List String) :
    (d.openSet.addAll ts).text = d.text ++ "\x7b" ++ String.intercalate "," ts := by
  cases ts with
  | nil => rw [addAll_nil, String.intercalate_nil, String.append_empty, openSet]
  | cons t ts =>
    rw [addAll_of_ne_nil _ (List.cons_ne_nil t ts)]
    simp only [openSet, if_true, String.append_empty]

/-- A set below a name is part of one entry of the set around it. -/
theorem nest (d : Draft) (entry : Entry) (ts : List String) :
    ((d.put entry).openSet.addAll ts).closeSet =
      d.add (entry.text ++ "\x7b" ++ String.intercalate "," ts ++ "\x7d") := by
  rw [closeSet, openSet_addAll_text, put_eq_add]
  simp only [add, String.append_assoc]

end Draft

/-! ## The walk -/

section Walk

variable {R : Type}

/-- **Writing fields adds the entries of their tree**, if this holds for the records below. -/
theorem writeFields_eq {enter : Option String → R → Except ShapeError SelectionSet}
    {write : Option String → R → Draft → Except ShapeError Draft}
    (henter : ∀ inverse r d,
      write inverse r d = (enter inverse r).map fun s => d.addAll s.entryTexts)
    (typeName : String) (inverse : Option String) (fields : List (FieldShape R)) (d : Draft) :
    writeFields write typeName inverse fields d =
      (gather enter typeName inverse fields).map fun s => d.addAll s.entryTexts := by
  induction fields generalizing d with
  | nil => rfl
  | cons f fields ih =>
    rw [writeFields, gather]
    cases f.role typeName inverse with
    | skipped => exact ih d
    | refused cause => rfl
    | splice child =>
      -- the entries of the child go into the set that is open
      dsimp only
      rw [henter]
      cases enter f.inverse child with
      | error e => rfl
      | ok spliced =>
        refine (ih (d.addAll spliced.entryTexts)).trans ?_
        cases gather enter typeName inverse fields with
        | error e => rfl
        | ok rest =>
          refine congrArg Except.ok ?_
          dsimp only
          rw [SelectionSet.entryTexts_append, Draft.addAll_append]
    | leaf entry =>
      refine (ih (d.put entry)).trans ?_
      cases gather enter typeName inverse fields with
      | error e => rfl
      | ok rest =>
        refine congrArg Except.ok ?_
        dsimp only
        rw [SelectionSet.entryTexts, Draft.addAll_cons, Draft.put_eq_add]
    | branch entry child =>
      dsimp only
      rw [henter]
      cases enter f.inverse child with
      | error e => rfl
      | ok children =>
        refine (ih _).trans ?_
        cases gather enter typeName inverse fields with
        | error e => rfl
        | ok rest =>
          refine congrArg Except.ok ?_
          dsimp only
          rw [Draft.nest, SelectionSet.entryTexts, Draft.addAll_cons]

/-- **Writing a record adds the entries of its tree.** -/
theorem writeRecord_eq (catalog : Catalog R) (limit levels : Nat) (inverse : Option String)
    (record : RecordShape R) (d : Draft) :
    writeRecord catalog limit levels inverse record d =
      (kept catalog limit levels inverse record).map fun s => d.addAll s.entryTexts := by
  induction levels generalizing inverse record d with
  | zero => rfl
  | succ levels ih =>
    rw [writeRecord, kept]
    exact writeFields_eq (fun inv r d => ih inv (catalog r) d) _ _ _ _

/-- **The written text is the text of the tree**, and the problems are the same. -/
theorem writeSelection_eq (catalog : Catalog R) (limit : Nat) (root : TypeShape R) :
    writeSelection catalog limit root =
      (select catalog limit root).map SelectionSet.render := by
  rw [writeSelection, select]
  cases root.record? with
  | none => rfl
  | some r =>
    dsimp only
    rw [writeRecord_eq, selectRecord]
    cases kept catalog limit limit none (catalog r) with
    | error e => rfl
    | ok s =>
      refine congrArg Except.ok ?_
      have h := Draft.openSet_addAll_text ⟨"", true⟩ s.entryTexts
      rw [Draft.openSet, String.empty_append] at h
      rw [SelectionSet.render, SelectionSet.entriesText, Draft.closeSet, h]

theorem compileSelection_eq (catalog : Catalog R) (options : CompileOptions)
    (root : TypeShape R) :
    compileSelection catalog options root =
      match select catalog options.maxDepth root with
      | .ok s => .ok s.render
      | .error cause => .error (.invalidShape cause) := by
  rw [compileSelection, writeSelection_eq]
  cases select catalog options.maxDepth root <;> rfl

theorem compileSelection_eq_ok_iff {catalog : Catalog R} {options : CompileOptions}
    {root : TypeShape R} {text : String} :
    compileSelection catalog options root = .ok text ↔
      ∃ s, select catalog options.maxDepth root = .ok s ∧ s.render = text := by
  rw [compileSelection_eq]
  cases select catalog options.maxDepth root <;> simp

theorem compileSelection_eq_error_iff {catalog : Catalog R} {options : CompileOptions}
    {root : TypeShape R} {e : Error} :
    compileSelection catalog options root = .error e ↔
      ∃ cause, select catalog options.maxDepth root = .error cause ∧ e = .invalidShape cause := by
  rw [compileSelection_eq]
  cases select catalog options.maxDepth root <;> simp [eq_comm]

end Walk

end TypedGraphQL
