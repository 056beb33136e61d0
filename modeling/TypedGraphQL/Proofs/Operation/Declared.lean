import Mathlib.Data.List.Forall2
import TypedGraphQL.Proofs.Operation.Parts
import TypedGraphQL.Proofs.Text.ByteOrder

/-!
# The declarations of a header, read back

In a header the declarations stand one behind the other, with nothing in between: a signature ends
where the next `$` begins, and a name where the first `:` stands.  This file shows that a header can
be cut in one way only.  Nothing is known about the names of variables, so they must be free of both
characters; a signature is free of `$` by itself, since the name of a type must be a name.

The reader is that of `TypedGraphQL.Proofs.Operation.Parts`, which also reads the other parts of an
operation.

## What is here

* `Declared` — a name and a signature; `Declared.headerText` puts some of them behind one another.
* `Declared.Readable`, `Declared.readHeader?_headerText` — what can be told apart is read back.
* `declarations_eq_ok_iff` — what a header is put together from.
* `mem_declarations_iff` — a character that is no part of a declaration comes from a name.
* `header_reads_back` — the variables of a header, read back from its text.
-/

set_option autoImplicit false

namespace TypedGraphQL

open Json

/-! ## Declarations one behind the other -/

/-- What a header says of a variable: its name and the signature of its type. -/
abbrev Declared := String × String

namespace Declared

/-- Some declarations, one behind the other. -/
def headerText : List Declared → String
  | [] => ""
  | d :: rest => "$" ++ d.1 ++ ":" ++ d.2 ++ headerText rest

/-- No character of the declaration looks like the beginning or the middle of one. -/
def Readable (d : Declared) : Prop :=
  '$' ∉ d.1.toList ∧ ':' ∉ d.1.toList ∧ '$' ∉ d.2.toList

/-- **Declarations are read back**, whatever stands in their signatures behind the `:`. -/
theorem readHeader?_headerText {declared : List Declared} (h : ∀ d ∈ declared, Readable d) :
    readHeader? (headerText declared) = some declared := by
  induction declared with
  | nil => rfl
  | cons d rest ih =>
    obtain ⟨⟨hname, hcolon, hsignature⟩, hrest⟩ := List.forall_mem_cons.1 h
    exact readHeader?_cons hname hcolon hsignature (ih hrest)

end Declared

open Declared

/-! ## The declarations of variables -/

section Header

variable {options : CompileOptions} {isMutation : Bool} {entries : List (String × Variable)}
  {text : String}

/-- What the header says of a variable: its name, and the signature of its type as a required
one. -/
def Declares (options : CompileOptions) (isMutation : Bool) (e : String × Variable)
    (d : Declared) : Prop :=
  d.1 = e.1 ∧ encodeType options isMutation e.2.type true = .ok d.2

/-- The names are those of the entries. -/
theorem map_fst_of_declares {declared : List Declared}
    (h : List.Forall₂ (Declares options isMutation) entries declared) :
    declared.map (·.1) = entries.map (·.1) := by
  induction h with
  | nil => rfl
  | cons hd _ ih => rw [List.map_cons, List.map_cons, hd.1, ih]

/-- Declarations can be told apart if the names can: a signature has no `$` in it. -/
theorem readable_of_declares {declared : List Declared}
    (h : List.Forall₂ (Declares options isMutation) entries declared)
    (hnames : ∀ e ∈ entries, '$' ∉ e.1.toList ∧ ':' ∉ e.1.toList) :
    ∀ d ∈ declared, Readable d := by
  induction h with
  | nil => exact List.forall_mem_nil _
  | cons hd _ ih =>
    obtain ⟨hname, hrest⟩ := List.forall_mem_cons.1 hnames
    rw [← hd.1] at hname
    refine List.forall_mem_cons.2 ⟨⟨hname.1, hname.2, ?_⟩, ih hrest⟩
    exact not_mem_encodeType hd.2 (by decide)

/-- **A header is put together from one declaration for each variable**, in the order of the
entries. -/
theorem declarations_eq_ok_iff :
    Variables.declarations options isMutation entries = .ok text ↔
      ∃ declared, List.Forall₂ (Declares options isMutation) entries declared ∧
        headerText declared = text := by
  induction entries generalizing text with
  | nil =>
    constructor
    · rintro ⟨⟩
      exact ⟨[], .nil, rfl⟩
    · rintro ⟨_, ⟨⟩, rfl⟩
      rfl
  | cons e rest ih =>
    rw [declarations_cons_eq_ok_iff]
    constructor
    · rintro ⟨signature, more, hsignature, hmore, rfl⟩
      obtain ⟨declared, hdeclared, rfl⟩ := ih.1 hmore
      exact ⟨(e.1, signature) :: declared, .cons ⟨rfl, hsignature⟩ hdeclared, rfl⟩
    · rintro ⟨all, hall, rfl⟩
      obtain ⟨d, declared, ⟨hname, hsignature⟩, hrest, rfl⟩ := List.forall₂_cons_left_iff.1 hall
      refine ⟨d.2, headerText declared, hsignature, ih.2 ⟨declared, hrest, rfl⟩, ?_⟩
      rw [headerText, hname]

/-- **A character that stands in no declaration itself comes from a name.** -/
theorem mem_declarations_iff (h : Variables.declarations options isMutation entries = .ok text)
    {c : Char} (hc : isSignatureChar c = false) (hdollar : c ≠ '$') (hcolon : c ≠ ':') :
    c ∈ text.toList ↔ ∃ e ∈ entries, c ∈ e.1.toList := by
  induction entries generalizing text with
  | nil =>
    cases h
    simp
  | cons e rest ih =>
    obtain ⟨signature, more, hsignature, hmore, rfl⟩ := declarations_cons_eq_ok_iff.1 h
    have hnot := not_mem_encodeType hsignature hc
    rw [toList_declaration, List.exists_mem_cons_iff, ← ih hmore]
    simp only [List.mem_cons, List.mem_append, hdollar, hcolon, hnot, false_or]

/-- **The variables of a header are read back from its text.**  Cut at every `$`, and there at the
first `:`, it gives one declaration for each variable, with its name and the signature of its type,
in the strict order of the bytes of the names.  No other declarations that can be told apart have
this text.  There is no comma between them: one that stands in the header stands in a name. -/
theorem header_reads_back {vs : Variables}
    (hnames : ∀ e ∈ vs.entries, '$' ∉ e.1.toList ∧ ':' ∉ e.1.toList)
    (h : vs.header options isMutation = .ok text) :
    ∃ declared, readHeader? text = some declared ∧
      List.Forall₂ (Declares options isMutation) vs.entries declared ∧
      declared.Pairwise (fun c d => bytesOf c.1 < bytesOf d.1) ∧
      (∀ other, (∀ d ∈ other, Readable d) ∧ headerText other = text ↔ other = declared) ∧
      (',' ∈ text.toList ↔ ∃ e ∈ vs.entries, ',' ∈ e.1.toList) := by
  obtain ⟨declared, hdeclared, rfl⟩ := declarations_eq_ok_iff.1 h
  have hreadable := readable_of_declares hdeclared hnames
  refine ⟨declared, readHeader?_headerText hreadable, hdeclared, ?_, fun other => ?_,
    mem_declarations_iff h (by decide) (by decide) (by decide)⟩
  · have hordered : (vs.entries.map (·.1)).Pairwise fun k l => bytesOf k < bytesOf l :=
      List.pairwise_map.2 (vs.ordered.imp bytesOf_lt)
    rwa [← map_fst_of_declares hdeclared, List.pairwise_map] at hordered
  · constructor
    · rintro ⟨hother, htext⟩
      have hread := readHeader?_headerText hother
      rw [htext, readHeader?_headerText hreadable] at hread
      exact (Option.some.inj hread).symm
    · rintro rfl
      exact ⟨hreadable, rfl⟩

/-- Two variables, one without a name and one whose name has a comma in it. -/
def oddlyNamed : Variables :=
  (Variables.empty.set "b,c" ⟨.list (.optional (.named "Cursor")), .arr []⟩).set ""
    ⟨.scalar .id, .str "7"⟩

theorem header_reads_back_oddlyNamed :
    oddlyNamed.header {} false = .ok "$:ID!$b,c:[Cursor]!" ∧
      ∀ other, (∀ d ∈ other, Readable d) ∧ headerText other = "$:ID!$b,c:[Cursor]!" ↔
        other = [("", "ID!"), ("b,c", "[Cursor]!")] := by
  have h : oddlyNamed.header {} false = .ok "$:ID!$b,c:[Cursor]!" := rfl
  obtain ⟨declared, hread, -, -, hunique, -⟩ := header_reads_back (by decide) h
  have hpieces : readHeader? "$:ID!$b,c:[Cursor]!" =
      some [("", "ID!"), ("b,c", "[Cursor]!")] := by decide
  obtain rfl := Option.some.inj (hread.symm.trans hpieces)
  exact ⟨h, hunique⟩

end Header

end TypedGraphQL
