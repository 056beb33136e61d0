import TypedGraphQL.Proofs.Operation.Parts

/-!
# Operations are told apart by their texts

An operation reaches the server as a text, in which its parts follow each other without quotes and
without lengths.  This file shows that different parts make different texts: two operations with the
same text have the same name, the same body and the same header, and an empty header is not the same
as none.

They have the same kind too, but for one case.  A body that stands alone says nothing about the
kind, and options may let the bodies of queries and of subscriptions stand alone.

## What is here

* `OperationPieces` — what an operation is put together from; `OperationPieces.text`.
* `StandsAlone` — the text is the body alone; `text_eq_body_iff`.
* `read?_text`, `text_eq_iff` — the pieces come back, so equal texts have equal pieces.
* `operations_told_apart` — all of this in one statement.
-/

set_option autoImplicit false

namespace TypedGraphQL

open Document

/-- What an operation is put together from.  No part can run into the one behind it: a name ends
before the first character that no name contains, a header before the first closing bracket. -/
@[ext]
structure OperationPieces where
  kind : OperationKind
  /-- A name, or the empty string. -/
  name : String
  header : Option String
  body : String
  name_eq_or_isName : name = "" ∨ isName name = true
  not_mem_header : ∀ h ∈ header, ')' ∉ h.toList
  body_head? : body.toList.head? = some '{'

namespace OperationPieces

variable {options : CompileOptions} {p q : OperationPieces}

/-- The text of the operation. -/
def text (options : CompileOptions) (p : OperationPieces) : String :=
  construct options p.kind p.name p.header p.body

/-- There is nothing in front of the body. -/
def StandsAlone (options : CompileOptions) (p : OperationPieces) : Prop :=
  p.header = none ∧ p.name = "" ∧ p.kind.isBareWhenAnonymous options = true

instance : Decidable (p.StandsAlone options) :=
  inferInstanceAs (Decidable (_ ∧ _))

theorem body_eq_cons (p : OperationPieces) : ∃ s, p.body.toList = '{' :: s := by
  have hhead := p.body_head?
  cases hbody : p.body.toList with
  | nil =>
    rw [hbody] at hhead
    cases hhead
  | cons c s =>
    rw [hbody] at hhead
    cases hhead
    exact ⟨s, rfl⟩

/-- **The pieces come back from the text**, but for the kind where the body stands alone. -/
theorem read?_text (options : CompileOptions) (p : OperationPieces) :
    OperationParts.read? (p.text options) =
      some ⟨if p.StandsAlone options then none else some p.kind, p.name, p.header, p.body⟩ := by
  obtain ⟨s, hs⟩ := p.body_eq_cons
  exact OperationParts.read?_construct options p.kind p.name_eq_or_isName p.not_mem_header hs

/-- The text is the body only if nothing is in front of it, or else it begins with a keyword. -/
theorem text_eq_body_iff : p.text options = p.body ↔ p.StandsAlone options := by
  constructor
  · intro htext
    obtain ⟨s, hs⟩ := p.body_eq_cons
    have hbody : OperationParts.read? p.body = some ⟨none, "", none, p.body⟩ := by
      rw [OperationParts.read?, hs]
      rfl
    have hread := read?_text options p
    rw [htext, hbody] at hread
    obtain ⟨hkind, -, -, -⟩ := OperationParts.mk.inj (Option.some.inj hread)
    by_cases halone : p.StandsAlone options
    · exact halone
    · rw [if_neg halone] at hkind
      cases hkind
  · rintro ⟨hheader, hname, hbare⟩
    rw [text, hheader, hname, construct, if_neg (not_not_intro rfl), if_pos hbare]

/-- **Equal texts are put together from the same pieces**, but for the kind of a body that stands
alone. -/
theorem text_eq_iff : p.text options = q.text options ↔
    p.name = q.name ∧ p.header = q.header ∧ p.body = q.body ∧
      (p.kind = q.kind ∨ p.StandsAlone options ∧ q.StandsAlone options) := by
  constructor
  · intro htext
    have hread := (read?_text options p).symm.trans (htext ▸ read?_text options q)
    obtain ⟨hkind, hname, hheader, hbody⟩ := OperationParts.mk.inj (Option.some.inj hread)
    refine ⟨hname, hheader, hbody, ?_⟩
    by_cases hp : p.StandsAlone options
    · by_cases hq : q.StandsAlone options
      · exact Or.inr ⟨hp, hq⟩
      · rw [if_pos hp, if_neg hq] at hkind
        cases hkind
    · by_cases hq : q.StandsAlone options
      · rw [if_neg hp, if_pos hq] at hkind
        cases hkind
      · rw [if_neg hp, if_neg hq] at hkind
        exact Or.inl (Option.some.inj hkind)
  · rintro ⟨hname, hheader, hbody, hkind | ⟨hp, hq⟩⟩
    · rw [text, text, hname, hheader, hbody, hkind]
    · rw [text_eq_body_iff.2 hp, text_eq_body_iff.2 hq, hbody]

/-- Only the body of a query or a subscription without a name and a header stands alone. -/
theorem not_standsAlone (h : p.name ≠ "" ∨ p.header ≠ none ∨ p.kind = .mutation) :
    ¬ p.StandsAlone options := by
  rintro ⟨hheader, hname, hbare⟩
  rcases h with h | h | h
  · exact h hname
  · exact h hheader
  · rw [h] at hbare
    cases hbare

end OperationPieces

open OperationPieces in
/-- **Operations are told apart by their texts.**  All pieces come back from a text, but for the
kind where the text is the body alone, and this is so only for queries and subscriptions that have
neither a name nor a header.  So a mutation, an operation with a name or one with a header, even an
empty one, shares its text with no other. -/
theorem operations_told_apart (options : CompileOptions) (p q : OperationPieces) :
    OperationParts.read? (p.text options) =
      some ⟨if p.text options = p.body then none else some p.kind, p.name, p.header, p.body⟩ ∧
    (p.text options = p.body ↔
      p.header = none ∧ p.name = "" ∧ p.kind.isBareWhenAnonymous options = true) ∧
    (p.text options = q.text options ↔
      p.name = q.name ∧ p.header = q.header ∧ p.body = q.body ∧
        (p.kind = q.kind ∨ p.text options = p.body ∧ q.text options = q.body)) ∧
    (p.name ≠ "" ∨ p.header ≠ none ∨ p.kind = .mutation →
      p ≠ q → p.text options ≠ q.text options) := by
  refine ⟨?_, text_eq_body_iff, ?_, ?_⟩
  · simp only [text_eq_body_iff]
    exact read?_text options p
  · rw [text_eq_body_iff, text_eq_body_iff]
    exact text_eq_iff
  · intro hsays hne htext
    obtain ⟨hname, hheader, hbody, hkind⟩ := text_eq_iff.1 htext
    have hkind : p.kind = q.kind := hkind.resolve_right fun h => not_standsAlone hsays h.1
    exact hne (OperationPieces.ext hkind hname hheader hbody)

/-- The body `{viewer}` and nothing in front of it but the keyword. -/
def viewerPieces (kind : OperationKind) : OperationPieces where
  kind := kind
  name := ""
  header := none
  body := "\x7bviewer\x7d"
  name_eq_or_isName := Or.inl rfl
  not_mem_header := by decide
  body_head? := by decide

/-- The same pieces and an empty header. -/
def viewerPiecesWithHeader (kind : OperationKind) : OperationPieces :=
  { viewerPieces kind with
    header := some ""
    not_mem_header := by decide }

/-- Where both stand alone, a query and a subscription share their text, and a mutation shares its
text with neither of them.  An empty header makes a difference. -/
theorem operations_told_apart_viewer :
    let options : CompileOptions := { bareAnonymousSubscription := true }
    (viewerPieces .query).text options = (viewerPieces .subscription).text options ∧
    (viewerPieces .mutation).text options ≠ (viewerPieces .query).text options ∧
    (viewerPiecesWithHeader .query).text options ≠ (viewerPieces .query).text options := by
  intro options
  refine ⟨?_, ?_, ?_⟩
  · obtain ⟨-, -, hiff, -⟩ :=
      operations_told_apart options (viewerPieces .query) (viewerPieces .subscription)
    exact hiff.2 ⟨rfl, rfl, rfl, Or.inr ⟨rfl, rfl⟩⟩
  · obtain ⟨-, -, -, happart⟩ :=
      operations_told_apart options (viewerPieces .mutation) (viewerPieces .query)
    have hne : viewerPieces .mutation ≠ viewerPieces .query := fun h =>
      absurd (congrArg OperationPieces.kind h) (by decide)
    exact happart (Or.inr (Or.inr rfl)) hne
  · obtain ⟨-, -, -, happart⟩ :=
      operations_told_apart options (viewerPiecesWithHeader .query) (viewerPieces .query)
    have hne : viewerPiecesWithHeader .query ≠ viewerPieces .query := fun h =>
      absurd (congrArg OperationPieces.header h) (by decide)
    exact happart (Or.inr (Or.inl nofun)) hne

end TypedGraphQL
