/-!
# Entries ordered by key

A collection of entries under text keys is kept as a list in strictly increasing order of keys.
The order is that of the code points, which is also the order of the UTF-8 bytes.  A collection has
therefore one list only, whatever the order in which its entries arrived.

## What is here

* `Ordered` — the keys are strictly increasing.
* `insertEntry` — the entries with a key set to a value, replacing what was there.
* `lookup?` — the value under a key.
* `lookup?_insertEntry`, `ordered_insertEntry` — what insertion does to the values and the order.
* `eq_of_lookup?_eq` — two ordered lists with the same values are the same list.
* `foldl_insertEntry_of_ordered` — entries that are in order already are kept as they are.
-/

set_option autoImplicit false

namespace TypedGraphQL

variable {α : Type}

/-- The keys are strictly increasing. -/
def Ordered (entries : List (String × α)) : Prop :=
  entries.Pairwise (·.1 < ·.1)

/-- The entries with the value under `key` set to `value`. -/
def insertEntry (key : String) (value : α) : List (String × α) → List (String × α)
  | [] => [(key, value)]
  | (k, v) :: rest =>
    if key < k then (key, value) :: (k, v) :: rest
    else if key = k then (key, value) :: rest
    else (k, v) :: insertEntry key value rest

/-- The value under a key. -/
def lookup? (key : String) : List (String × α) → Option α
  | [] => none
  | (k, v) :: rest => if key = k then some v else lookup? key rest

theorem ordered_nil : Ordered ([] : List (String × α)) := List.Pairwise.nil

theorem ordered_cons_iff {k : String} {v : α} {rest : List (String × α)} :
    Ordered ((k, v) :: rest) ↔ (∀ e ∈ rest, k < e.1) ∧ Ordered rest := by
  simp [Ordered]

/-- Setting a value adds no key but the one that is set. -/
theorem mem_insertEntry {key : String} {value : α} {entries : List (String × α)}
    {e : String × α} (h : e ∈ insertEntry key value entries) : e = (key, value) ∨ e ∈ entries := by
  induction entries with
  | nil => simpa [insertEntry] using h
  | cons head rest ih =>
    obtain ⟨k, v⟩ := head
    unfold insertEntry at h
    split at h
    · simpa using h
    · split at h
      · simp only [List.mem_cons] at h ⊢
        exact h.imp_right Or.inr
      · simp only [List.mem_cons] at h ⊢
        rcases h with rfl | h
        · exact Or.inr (Or.inl rfl)
        · exact (ih h).imp_right Or.inr

/-- **Insertion keeps the order.** -/
theorem ordered_insertEntry {key : String} {value : α} {entries : List (String × α)}
    (h : Ordered entries) : Ordered (insertEntry key value entries) := by
  induction entries with
  | nil => simp [insertEntry, Ordered]
  | cons head rest ih =>
    obtain ⟨k, v⟩ := head
    have hc := ordered_cons_iff.1 h
    unfold insertEntry
    split
    · rename_i hlt
      refine ordered_cons_iff.2 ⟨fun e he => ?_, h⟩
      rcases List.mem_cons.1 he with rfl | he
      · exact hlt
      · exact String.lt_trans hlt (hc.1 e he)
    · split
      · rename_i heq
        subst heq
        exact ordered_cons_iff.2 hc
      · rename_i hlt hne
        refine ordered_cons_iff.2 ⟨fun e he => ?_, ih hc.2⟩
        rcases mem_insertEntry he with rfl | he
        · exact String.not_le.1 fun hle => hne (String.le_antisymm hle (String.not_lt.1 hlt))
        · exact hc.1 e he

/-- **After an insertion the key has the new value and every other key its old one.** -/
theorem lookup?_insertEntry (key k : String) (value : α) {entries : List (String × α)}
    (h : Ordered entries) :
    lookup? k (insertEntry key value entries) =
      if k = key then some value else lookup? k entries := by
  induction entries with
  | nil => simp [insertEntry, lookup?]
  | cons head rest ih =>
    obtain ⟨k', v⟩ := head
    have hc := ordered_cons_iff.1 h
    unfold insertEntry
    split
    · simp [lookup?]
    · split
      · rename_i heq
        subst heq
        by_cases hk : k = key <;> simp [lookup?, hk]
      · rename_i hne
        have := ih hc.2
        by_cases hk : k = k'
        · have : k ≠ key := fun he => hne (he ▸ hk)
          simp [lookup?, hk, hk ▸ this]
        · simp [lookup?, hk, this]

theorem lookup?_eq_none_of_lt {k : String} {entries : List (String × α)}
    (h : ∀ e ∈ entries, k < e.1) : lookup? k entries = none := by
  induction entries with
  | nil => rfl
  | cons head rest ih =>
    have hne : k ≠ head.1 := fun he => String.lt_irrefl _ (he ▸ h head (by simp))
    simp [lookup?, hne, ih fun e he => h e (by simp [he])]

/-- What is found under a key is an entry. -/
theorem mem_of_lookup? {k : String} {v : α} {entries : List (String × α)}
    (h : lookup? k entries = some v) : (k, v) ∈ entries := by
  induction entries with
  | nil => simp [lookup?] at h
  | cons head rest ih =>
    obtain ⟨k', v'⟩ := head
    by_cases hk : k = k'
    · simp [lookup?, hk] at h
      simp [hk, h]
    · exact List.mem_cons_of_mem _ (ih (by simpa [lookup?, hk] using h))

/-! ## Ordered lists -/

/-- The values under the keys of an ordered list are its entries. -/
theorem lookup?_eq_some_iff {k : String} {v : α} {entries : List (String × α)}
    (h : Ordered entries) : lookup? k entries = some v ↔ (k, v) ∈ entries := by
  induction entries with
  | nil => simp [lookup?]
  | cons head rest ih =>
    obtain ⟨k', v'⟩ := head
    have hc := ordered_cons_iff.1 h
    rw [lookup?, List.mem_cons, Prod.mk.injEq]
    by_cases hk : k = k'
    · subst hk
      have hnone : (k, v) ∉ rest := fun hmem => String.lt_irrefl _ (hc.1 _ hmem)
      simp [hnone, eq_comm]
    · simp [hk, ih hc.2]

/-- A key behind all others goes to the end. -/
theorem insertEntry_of_lt {key : String} {value : α} {entries : List (String × α)}
    (h : ∀ e ∈ entries, e.1 < key) : insertEntry key value entries = entries ++ [(key, value)] := by
  induction entries with
  | nil => rfl
  | cons head rest ih =>
    obtain ⟨k, v⟩ := head
    obtain ⟨hk, hrest⟩ := List.forall_mem_cons.1 h
    have hlt : ¬ key < k := String.lt_asymm hk
    have hne : key ≠ k := fun heq => String.lt_irrefl _ (heq ▸ hk)
    rw [insertEntry, if_neg hlt, if_neg hne, ih hrest, List.cons_append]

/-- **Entries that are in order already are kept as they are** when they are set one by one. -/
theorem foldl_insertEntry_of_ordered {done entries : List (String × α)}
    (h : Ordered (done ++ entries)) :
    entries.foldl (fun done e => insertEntry e.1 e.2 done) done = done ++ entries := by
  induction entries generalizing done with
  | nil => simp
  | cons e rest ih =>
    have hlast : ∀ d ∈ done, d.1 < e.1 := fun d hd =>
      (List.pairwise_append.1 h).2.2 d hd e List.mem_cons_self
    rw [List.append_cons] at h ⊢
    rw [List.foldl_cons, insertEntry_of_lt hlast]
    exact ih h

/-- **Two ordered lists with the same value under every key are the same list.** -/
theorem eq_of_lookup?_eq {s t : List (String × α)} (hs : Ordered s) (ht : Ordered t)
    (h : ∀ k, lookup? k s = lookup? k t) : s = t := by
  induction s generalizing t with
  | nil =>
    cases t with
    | nil => rfl
    | cons head rest => simpa [lookup?] using h head.1
  | cons head rest ih =>
    obtain ⟨k, v⟩ := head
    have hsc := ordered_cons_iff.1 hs
    cases t with
    | nil => simpa [lookup?] using h k
    | cons head' rest' =>
      obtain ⟨k', v'⟩ := head'
      have htc := ordered_cons_iff.1 ht
      have hkk : k = k' := by
        by_cases hlt : k < k'
        · have h0 := h k
          have hnone : lookup? k ((k', v') :: rest') = none := by
            refine lookup?_eq_none_of_lt fun e he => ?_
            rcases List.mem_cons.1 he with rfl | he
            · exact hlt
            · exact String.lt_trans hlt (htc.1 e he)
          rw [hnone] at h0
          simp [lookup?] at h0
        · by_cases hgt : k' < k
          · have h0 := h k'
            have hnone : lookup? k' ((k, v) :: rest) = none := by
              refine lookup?_eq_none_of_lt fun e he => ?_
              rcases List.mem_cons.1 he with rfl | he
              · exact hgt
              · exact String.lt_trans hgt (hsc.1 e he)
            rw [hnone] at h0
            simp [lookup?] at h0
          · exact String.le_antisymm (String.not_lt.1 hgt) (String.not_lt.1 hlt)
      subst hkk
      have hv : v = v' := by simpa [lookup?] using h k
      subst hv
      congr 1
      refine ih hsc.2 htc.2 fun key => ?_
      by_cases hk : key = k
      · subst hk
        rw [lookup?_eq_none_of_lt hsc.1, lookup?_eq_none_of_lt htc.1]
      · simpa [lookup?, hk] using h key

end TypedGraphQL
