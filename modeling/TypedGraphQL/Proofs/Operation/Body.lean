import TypedGraphQL.Document.Parse
import TypedGraphQL.Proofs.Document.Lex
import TypedGraphQL.Proofs.Selection.Reader

/-!
# A selection set as part of a document

A selection set whose entries are names is part of a document.  This file follows its text through
the three stages of reading a document: its tokens, the count of open brackets, and the arrangement
of the tokens.  The only thing that can go wrong in the last stage is a set without entries, since
`{}` is no selection set.

## What is here

* `Entry.IsName` — the entry is a name without arguments.
* `SelectionSet.tokens`, `SelectionSet.selections` — the tokens of a set and what they are read as.
* `SelectionSet.sets`, `SelectionSet.depth` — all sets, and how deep they are nested.
* `SelectionSet.lexes_entriesText`, `SelectionSet.withinRoom_tokens`,
  `SelectionSet.selectionList?_tokens` — the three stages, each by induction on the set.
-/

set_option autoImplicit false

namespace TypedGraphQL

open Document

/-- The entry is a name without arguments. -/
def Entry.IsName (e : Entry) : Prop :=
  isName e.name = true ∧ e.arguments = none

theorem Entry.IsName.lexes {e : Entry} (h : e.IsName) : Lexes e.text.toList [.name e.name] := by
  have htext : e.text = e.name := by
    rw [Entry.text, h.2]
    exact String.append_empty
  rw [htext]
  exact Lexes.name h.1

namespace SelectionSet

/-- The tokens between the braces of a set. -/
def tokens : SelectionSet → List Token
  | nil => []
  | leaf e rest => .name e.name :: rest.tokens
  | branch e children rest =>
    .name e.name :: .punct '{' :: (children.tokens ++ .punct '}' :: rest.tokens)

/-- The selections of a document that the entries stand for. -/
def selections : SelectionSet → List Selection
  | nil => []
  | leaf e rest => .field none e.name [] [] [] :: rest.selections
  | branch e children rest => .field none e.name [] [] children.selections :: rest.selections

/-- The sets below the entries. -/
def innerSets : SelectionSet → List SelectionSet
  | nil => []
  | leaf _ rest => rest.innerSets
  | branch _ children rest => children :: (children.innerSets ++ rest.innerSets)

/-- The set and all sets below it. -/
def sets (s : SelectionSet) : List SelectionSet :=
  s :: s.innerSets

/-- How many sets are nested below the entries. -/
def depth : SelectionSet → Nat
  | nil => 0
  | leaf _ rest => rest.depth
  | branch _ children rest => max (children.depth + 1) rest.depth

/-! ## The tokens of the text -/

/-- **The text of a set has the tokens of the set.** -/
theorem lexes_entriesText {s : SelectionSet} (h : ∀ e ∈ s.entries, e.IsName) :
    Lexes s.entriesText.toList s.tokens := by
  induction s with
  | nil => exact Lexes.nil
  | leaf e rest ih =>
    obtain ⟨he, hrest⟩ := List.forall_mem_cons.1 h
    by_cases hr : rest = nil
    · subst hr
      rw [entriesText_leaf_nil]
      exact he.lexes
    · rw [toList_leaf e hr]
      exact he.lexes.append (apart_cons (by decide) _) ((ih hrest).ignored (by decide))
  | branch e children rest ihc ih =>
    obtain ⟨he, hbelow⟩ := List.forall_mem_cons.1 h
    obtain ⟨hchildren, hrest⟩ := List.forall_mem_append.1 hbelow
    by_cases hr : rest = nil
    · subst hr
      rw [toList_branch_nil]
      have hclose : Lexes ['}'] [.punct '}'] := Lexes.single (by decide)
      have hset := (ihc hchildren).append (apart_cons (by decide) _) hclose
      exact he.lexes.append (apart_cons (by decide) _) (hset.punct (by decide))
    · rw [toList_branch e children hr]
      have hclose := ((ih hrest).ignored (c := ',') (by decide)).punct (c := '}') (by decide)
      have hset := (ihc hchildren).append (apart_cons (by decide) _) hclose
      exact he.lexes.append (apart_cons (by decide) _) (hset.punct (by decide))

/-! ## Open brackets -/

/-- **The brackets of a set count by its depth.** -/
theorem withinRoom_tokens (s : SelectionSet) (room : Nat) (rest : List Token) :
    withinRoom room (s.tokens ++ rest) = (decide (s.depth ≤ room) && withinRoom room rest) := by
  induction s generalizing room rest with
  | nil => simp [tokens, depth]
  | leaf e more ih => exact ih room rest
  | branch e children more ihc ih =>
    cases room with
    | zero =>
      have hdeep : ¬ (branch e children more).depth ≤ 0 := by
        rw [depth]
        omega
      rw [decide_eq_false hdeep]
      rfl
    | succ room =>
      have hopen : withinRoom (room + 1) ((branch e children more).tokens ++ rest) =
          withinRoom room (children.tokens ++ .punct '}' :: (more.tokens ++ rest)) := by
        rw [tokens, List.cons_append, List.cons_append, List.append_assoc]
        rfl
      have hclose : withinRoom room (.punct '}' :: (more.tokens ++ rest)) =
          withinRoom (room + 1) (more.tokens ++ rest) := rfl
      rw [hopen, ihc, hclose, ih, ← Bool.and_assoc, ← Bool.decide_and, depth]
      congr 2
      exact propext ⟨fun h => by omega, fun h => by omega⟩

/-! ## The arrangement of the tokens -/

/-- Behind the tokens of a set stands the closing brace, or the name of an entry before it. -/
theorem tokens_append_eq (s : SelectionSet) (rest : List Token) :
    ∃ t more, s.tokens ++ .punct '}' :: rest = t :: more ∧
      (t = .punct '}' ∨ ∃ name, t = .name name) := by
  cases s with
  | nil => exact ⟨_, _, rfl, Or.inl rfl⟩
  | leaf e more => exact ⟨_, _, rfl, Or.inr ⟨_, rfl⟩⟩
  | branch e children more => exact ⟨_, _, rfl, Or.inr ⟨_, rfl⟩⟩

/-- A name before another entry or a closing brace is a selection. -/
theorem selection?_leaf (n : Nat) (name : String) (s : SelectionSet) (rest : List Token) :
    selection? (n + 3) (.name name :: (s.tokens ++ .punct '}' :: rest)) =
      some (.field none name [] [] [], s.tokens ++ .punct '}' :: rest) := by
  obtain ⟨t, more, heq, rfl | ⟨name, rfl⟩⟩ := tokens_append_eq s rest
  · rw [heq]
    rfl
  · rw [heq]
    rfl

/-- A name with a set behind it is a selection if the set can be read. -/
theorem selection?_branch (n : Nat) (name : String) (rest : List Token) :
    selection? (n + 3) (.name name :: .punct '{' :: rest) =
      (selectionList? (n + 1) rest).map fun p => (.field none name [] [] p.1, p.2) := by
  have hfield : selection? (n + 3) (.name name :: .punct '{' :: rest) =
      (selectionList? (n + 1) rest).bind fun p => some (.field none name [] [] p.1, p.2) := rfl
  rw [hfield]
  cases selectionList? (n + 1) rest <;> rfl

/-- After one selection come the others, or the end of the set. -/
theorem selectionList?_of_selection {n : Nat} {ts rest : List Token} {selection : Selection}
    {s : SelectionSet} (h : selection? n ts = some (selection, s.tokens ++ .punct '}' :: rest)) :
    selectionList? (n + 1) ts =
      if s = nil then some ([selection], rest)
      else (selectionList? n (s.tokens ++ .punct '}' :: rest)).map
        fun p => (selection :: p.1, p.2) := by
  rw [selectionList?, h]
  by_cases hs : s = nil
  · subst hs
    rfl
  · rw [if_neg hs]
    -- the tokens begin with a name, so they are read as further selections
    cases s with
    | nil => exact absurd rfl hs
    | leaf e more =>
      refine Eq.trans ?_ Option.map_eq_bind.symm
      rfl
    | branch e children more =>
      refine Eq.trans ?_ Option.map_eq_bind.symm
      rfl

theorem selectionList?_of_none {n : Nat} {ts : List Token} (h : selection? n ts = none) :
    selectionList? (n + 1) ts = none := by
  rw [selectionList?, h]
  rfl

/-- A set without entries cannot be read. -/
theorem selectionList?_close (n : Nat) (rest : List Token) :
    selectionList? n (.punct '}' :: rest) = none := by
  match n with
  | 0 => rfl
  | 1 => rfl
  | n + 2 => rfl

theorem forall_sets_leaf_iff {e : Entry} {more : SelectionSet} (hm : more ≠ nil) :
    (∀ t ∈ (leaf e more).sets, t ≠ nil) ↔ ∀ t ∈ more.sets, t ≠ nil := by
  have hne : leaf e more ≠ nil := nofun
  rw [sets, sets, List.forall_mem_cons, List.forall_mem_cons]
  exact and_congr (iff_of_true hne hm) Iff.rfl

/-- Below an entry with a set there may be empty sets on either side. -/
theorem forall_sets_branch_iff {e : Entry} {children more : SelectionSet} :
    (∀ t ∈ (branch e children more).sets, t ≠ nil) ↔
      (∀ t ∈ children.sets, t ≠ nil) ∧ ∀ t ∈ more.innerSets, t ≠ nil := by
  have hne : branch e children more ≠ nil := nofun
  rw [sets, innerSets, List.forall_mem_cons, List.forall_mem_cons, List.forall_mem_append, sets,
    List.forall_mem_cons, and_assoc]
  exact and_iff_right hne

/-- **A set is read as its selections if no set in it is empty**, and otherwise not at all. -/
theorem selectionList?_tokens (s : SelectionSet) {n : Nat} (hn : 4 * s.tokens.length ≤ n)
    (rest : List Token) :
    selectionList? n (s.tokens ++ .punct '}' :: rest) =
      if ∀ t ∈ s.sets, t ≠ nil then some (s.selections, rest) else none := by
  induction s generalizing n rest with
  | nil =>
    have hempty : ¬ ∀ t ∈ nil.sets, t ≠ nil := fun h => h nil List.mem_cons_self rfl
    rw [if_neg hempty]
    exact selectionList?_close n rest
  | leaf e more ih =>
    rw [tokens, List.length_cons] at hn
    obtain ⟨n, rfl⟩ := Nat.exists_eq_add_of_le' (show 4 ≤ n by omega)
    have hfirst := selection?_leaf n e.name more rest
    rw [tokens, List.cons_append, selectionList?_of_selection hfirst]
    by_cases hm : more = nil
    · subst hm
      rfl
    · rw [if_neg hm, ih (by omega)]
      simp only [forall_sets_leaf_iff hm]
      split <;> rfl
  | branch e children more ihc ih =>
    rw [tokens, List.length_cons, List.length_cons, List.length_append, List.length_cons] at hn
    obtain ⟨n, rfl⟩ := Nat.exists_eq_add_of_le' (show 4 ≤ n by omega)
    have hset := selection?_branch n e.name
      (children.tokens ++ .punct '}' :: (more.tokens ++ .punct '}' :: rest))
    rw [ihc (by omega)] at hset
    rw [tokens, List.cons_append, List.cons_append, List.append_assoc, List.cons_append]
    simp only [forall_sets_branch_iff]
    by_cases hc : ∀ t ∈ children.sets, t ≠ nil
    · rw [if_pos hc] at hset
      rw [selectionList?_of_selection hset]
      by_cases hm : more = nil
      · subst hm
        rw [if_pos rfl, if_pos ⟨hc, List.forall_mem_nil _⟩]
        rfl
      · rw [if_neg hm, ih (by omega)]
        have hmore : (∀ t ∈ more.sets, t ≠ nil) ↔
            (∀ t ∈ children.sets, t ≠ nil) ∧ ∀ t ∈ more.innerSets, t ≠ nil := by
          rw [sets, List.forall_mem_cons]
          exact ⟨fun h => ⟨hc, h.2⟩, fun h => ⟨hm, h.2⟩⟩
        simp only [hmore]
        split <;> rfl
    · rw [if_neg hc] at hset
      rw [selectionList?_of_none hset]
      exact (if_neg fun h => hc h.1).symm

end SelectionSet

end TypedGraphQL
