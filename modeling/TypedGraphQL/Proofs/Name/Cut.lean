import TypedGraphQL.Proofs.Name.Words

/-!
# Where words are cut

Some words that stand one behind the other cut their common text at certain numbers of characters.
If no word is empty, these numbers say all about the words.  Words may be cut once more, each by
itself; this file says which cuts there are afterwards, and how a word is found between two cuts.

## What is here

* `Name.IsCut` — a word ends behind the first `k` characters, and another one begins.
* `Name.isCut_append`, `Name.isCut_cons`, `Name.isCut_extendFirst` — words that are put together.
* `Name.isCut_flatMap` — words that are cut once more.
* `Name.exists_word_iff` — a word reaches from one cut to the next.
-/

set_option autoImplicit false

namespace TypedGraphQL.Name

variable {words a b : List Word} {k : Nat}

/-- Behind the first `k` characters a word ends and another one begins. -/
def IsCut (words : List Word) (k : Nat) : Prop :=
  ∃ u v, words = u ++ v ∧ u ≠ [] ∧ v ≠ [] ∧ u.flatten.length = k

theorem not_isCut_nil : ¬ IsCut [] k := by
  rintro ⟨u, v, h, hu, -⟩
  exact hu (List.append_eq_nil_iff.1 h.symm).1

theorem not_isCut_singleton {w : Word} : ¬ IsCut [w] k := by
  rintro ⟨u, v, h, hu, hv, -⟩
  have hlength := congrArg List.length h
  have hu' := List.length_pos_iff.2 hu
  have hv' := List.length_pos_iff.2 hv
  rw [List.length_append, List.length_singleton] at hlength
  omega

theorem IsCut.le_length (h : IsCut words k) : k ≤ words.flatten.length := by
  obtain ⟨u, v, rfl, -, -, rfl⟩ := h
  rw [List.flatten_append, List.length_append]
  exact Nat.le_add_right _ _

/-! ## Words that are put together -/

/-- **Cuts in some words followed by others** are those on either side, and the one between. -/
theorem isCut_append :
    IsCut (a ++ b) k ↔ IsCut a k ∨ (a ≠ [] ∧ b ≠ [] ∧ k = a.flatten.length) ∨
      ∃ m, IsCut b m ∧ k = a.flatten.length + m := by
  constructor
  · rintro ⟨u, v, h, hu, hv, rfl⟩
    rcases List.append_eq_append_iff.1 h with ⟨t, rfl, rfl⟩ | ⟨t, rfl, rfl⟩
    · by_cases ht : t = []
      · subst ht
        rw [List.append_nil] at hu ⊢
        exact Or.inr (Or.inl ⟨hu, hv, rfl⟩)
      · refine Or.inr (Or.inr ⟨t.flatten.length, ⟨t, v, rfl, ht, hv, rfl⟩, ?_⟩)
        rw [List.flatten_append, List.length_append]
    · by_cases ht : t = []
      · subst ht
        rw [List.append_nil]
        exact Or.inr (Or.inl ⟨hu, hv, rfl⟩)
      · exact Or.inl ⟨u, t, rfl, hu, ht, rfl⟩
  · rintro (⟨u, v, rfl, hu, hv, rfl⟩ | ⟨ha, hb, rfl⟩ | ⟨m, ⟨u, v, rfl, hu, hv, rfl⟩, rfl⟩)
    · exact ⟨u, v ++ b, List.append_assoc u v b, hu, List.append_ne_nil_of_left_ne_nil hv b, rfl⟩
    · exact ⟨a, b, rfl, ha, hb, rfl⟩
    · refine ⟨a ++ u, v, (List.append_assoc a u v).symm,
        List.append_ne_nil_of_right_ne_nil a hu, hv, ?_⟩
      rw [List.flatten_append, List.length_append]

theorem isCut_cons {w : Word} :
    IsCut (w :: words) k ↔
      (words ≠ [] ∧ k = w.length) ∨ ∃ m, IsCut words m ∧ k = w.length + m := by
  rw [← List.singleton_append, isCut_append, List.flatten_singleton]
  simp [not_isCut_singleton]

/-- A character that is put in front of the first word moves all cuts. -/
theorem isCut_extendFirst {c : Char} :
    IsCut (extendFirst c words) k ↔ ∃ m, IsCut words m ∧ k = m + 1 := by
  cases words with
  | nil => exact iff_of_false not_isCut_singleton fun ⟨_, h, _⟩ => not_isCut_nil h
  | cons w words =>
    rw [extendFirst, isCut_cons, List.length_cons]
    simp only [isCut_cons]
    constructor
    · rintro (⟨hne, rfl⟩ | ⟨m, hm, rfl⟩)
      · exact ⟨w.length, Or.inl ⟨hne, rfl⟩, rfl⟩
      · exact ⟨w.length + m, Or.inr ⟨m, hm, rfl⟩, by omega⟩
    · rintro ⟨_, ⟨hne, rfl⟩ | ⟨m, hm, rfl⟩, rfl⟩
      · exact Or.inl ⟨hne, rfl⟩
      · exact Or.inr ⟨m, hm, by omega⟩

/-! ## Words that are cut once more -/

/-- **Words that are cut once more** keep their cuts, and each adds its own. -/
theorem isCut_flatMap {cut : Word → List Word} (hcut : ∀ w, (cut w).flatten = w)
    (hne : ∀ w ∈ words, w ≠ []) :
    IsCut (words.flatMap cut) k ↔ IsCut words k ∨
      ∃ u w v m, words = u ++ w :: v ∧ IsCut (cut w) m ∧ k = u.flatten.length + m := by
  have hcutne : ∀ w, w ≠ [] → cut w ≠ [] := by
    intro w hw hnil
    have hflatten := hcut w
    rw [hnil] at hflatten
    exact hw hflatten.symm
  induction words generalizing k with
  | nil =>
    refine iff_of_false not_isCut_nil (not_or.2 ⟨not_isCut_nil, ?_⟩)
    rintro ⟨u, w, v, m, h, -⟩
    exact List.append_ne_nil_of_right_ne_nil u (List.cons_ne_nil w v) h.symm
  | cons w words ih =>
    obtain ⟨hw, hwords⟩ := List.forall_mem_cons.1 hne
    have hmore : words.flatMap cut ≠ [] ↔ words ≠ [] := by
      refine not_congr (List.flatMap_eq_nil_iff.trans ?_)
      constructor
      · intro hall
        refine List.eq_nil_iff_forall_not_mem.2 fun x hx => ?_
        exact hcutne x (hwords x hx) (hall x hx)
      · rintro rfl
        exact List.forall_mem_nil _
    rw [List.flatMap_cons, isCut_append, isCut_cons, hcut, hmore]
    simp only [ih hwords]
    constructor
    · rintro (hfirst | ⟨-, hrest, rfl⟩ | ⟨m, hm | ⟨u, x, v, m', rfl, hx, rfl⟩, rfl⟩)
      · exact Or.inr ⟨[], w, words, k, rfl, hfirst, (Nat.zero_add k).symm⟩
      · exact Or.inl (Or.inl ⟨hrest, rfl⟩)
      · exact Or.inl (Or.inr ⟨m, hm, rfl⟩)
      · refine Or.inr ⟨w :: u, x, v, m', rfl, hx, ?_⟩
        rw [List.flatten_cons, List.length_append, Nat.add_assoc]
    · rintro ((⟨hrest, rfl⟩ | ⟨m, hm, rfl⟩) | ⟨u, x, v, m', heq, hx, rfl⟩)
      · exact Or.inr (Or.inl ⟨hcutne w hw, hrest, rfl⟩)
      · exact Or.inr (Or.inr ⟨m, Or.inl hm, rfl⟩)
      · cases u with
        | nil =>
          cases heq
          rw [List.flatten_nil, List.length_nil, Nat.zero_add]
          exact Or.inl hx
        | cons y u =>
          cases heq
          refine Or.inr (Or.inr ⟨u.flatten.length + m', Or.inr ⟨u, x, v, m', rfl, hx, rfl⟩, ?_⟩)
          rw [List.flatten_cons, List.length_append, Nat.add_assoc]

/-! ## A word between two cuts -/

/-- There is no cut inside a word. -/
theorem not_isCut_inside {u v : List Word} {w : Word} (hlow : u.flatten.length < k)
    (hhigh : k < u.flatten.length + w.length) : ¬ IsCut (u ++ w :: v) k := by
  simp only [isCut_append, isCut_cons]
  rintro (hu | ⟨-, -, rfl⟩ | ⟨m, ⟨-, rfl⟩ | ⟨m', -, rfl⟩, rfl⟩)
  · exact absurd hu.le_length (Nat.not_le.2 hlow)
  · exact Nat.lt_irrefl _ hlow
  · exact Nat.lt_irrefl _ hhigh
  · omega

/-- A word begins at the beginning or at a cut, and ends at the end or at a cut. -/
theorem isCut_of_word (u : List Word) (w : Word) (v : List Word) :
    (u.flatten.length = 0 ∨ IsCut (u ++ w :: v) u.flatten.length) ∧
      (u.flatten.length + w.length = (u ++ w :: v).flatten.length ∨
        IsCut (u ++ w :: v) (u.flatten.length + w.length)) := by
  constructor
  · by_cases hu : u = []
    · exact Or.inl (by rw [hu]; rfl)
    · exact Or.inr ⟨u, w :: v, rfl, hu, List.cons_ne_nil w v, rfl⟩
  · by_cases hv : v = []
    · rw [hv, List.flatten_append, List.flatten_singleton, List.length_append]
      exact Or.inl rfl
    · refine Or.inr (isCut_append.2 (Or.inr (Or.inr ⟨w.length, ?_, rfl⟩)))
      exact isCut_cons.2 (Or.inl ⟨hv, rfl⟩)

/-- **A word reaches from one cut to the next.** -/
theorem exists_word_iff (hne : ∀ w ∈ words, w ≠ []) {i j : Nat} :
    (∃ u w v, words = u ++ w :: v ∧ i = u.flatten.length ∧ j = i + w.length) ↔
      i < j ∧ (i = 0 ∨ IsCut words i) ∧ (j = words.flatten.length ∨ IsCut words j) ∧
        ∀ k, i < k → k < j → ¬ IsCut words k := by
  constructor
  · rintro ⟨u, w, v, rfl, rfl, rfl⟩
    have hw := List.length_pos_iff.2 (hne w (List.mem_append_right u List.mem_cons_self))
    obtain ⟨hstart, hstop⟩ := isCut_of_word u w v
    exact ⟨Nat.lt_add_of_pos_right hw, hstart, hstop, fun k => not_isCut_inside⟩
  · rintro ⟨hlt, hstart, hstop, hwhole⟩
    have hle : j ≤ words.flatten.length := by
      rcases hstop with rfl | hstop
      · exact Nat.le_refl _
      · exact hstop.le_length
    have hsplit : ∃ u w v, words = u ++ w :: v ∧ i = u.flatten.length := by
      rcases hstart with rfl | ⟨u, v, rfl, -, hv, rfl⟩
      · cases words with
        | nil => exact absurd (Nat.lt_of_lt_of_le hlt hle) (Nat.lt_irrefl 0)
        | cons w v => exact ⟨[], w, v, rfl, rfl⟩
      · obtain ⟨w, v, rfl⟩ := List.exists_cons_of_ne_nil hv
        exact ⟨u, w, v, rfl, rfl⟩
    obtain ⟨u, w, v, rfl, rfl⟩ := hsplit
    have hw := List.length_pos_iff.2 (hne w (List.mem_append_right u List.mem_cons_self))
    refine ⟨u, w, v, rfl, rfl, ?_⟩
    rcases Nat.lt_trichotomy j (u.flatten.length + w.length) with hless | heq | hmore
    · -- the word would be cut at its inside
      rcases hstop with hend | hcut
      · rw [List.flatten_append, List.length_append, List.flatten_cons, List.length_append] at hend
        omega
      · exact absurd hcut (not_isCut_inside hlt hless)
    · exact heq
    · -- the end of the word would be a cut in between
      rcases (isCut_of_word u w v).2 with hend | hcut
      · omega
      · exact absurd hcut (hwhole _ (Nat.lt_add_of_pos_right hw) hmore)

end TypedGraphQL.Name
