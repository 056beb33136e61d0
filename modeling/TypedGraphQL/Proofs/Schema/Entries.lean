import Mathlib.Data.List.Nodup
import TypedGraphQL.Schema

/-!
# Entries that are set one by one

Of the entries that are set under a key the last one counts, so the order in which they come matters
only where two of them disagree.  In particular it does not matter if no key is there twice.

## What is here

* `lookup?_entriesOf`, `ordered_entriesOf` — what the entries are once all have been set.
* `Agree` — under every key there is one value only.
* `entriesOf_perm_of_agree`, `entriesOf_perm` — entries that may come in any order.
-/

set_option autoImplicit false

namespace TypedGraphQL

variable {α : Type} {es es' : List (String × α)} {k : String} {v : α}

/-! ## Entries in order -/

section Order

variable {done : List (String × α)}

theorem lookup?_append (es es' : List (String × α)) :
    lookup? k (es ++ es') = (lookup? k es).or (lookup? k es') := by
  induction es with
  | nil => rfl
  | cons e es ih =>
    rw [List.cons_append, lookup?, lookup?, ih]
    split <;> rfl

theorem lookup?_foldl_insertEntry (hdone : Ordered done) :
    lookup? k (es.foldl (fun done e => insertEntry e.1 e.2 done) done) =
      (lookup? k es.reverse).or (lookup? k done) := by
  induction es generalizing done with
  | nil => rfl
  | cons e es ih =>
    rw [List.foldl_cons, ih (ordered_insertEntry hdone), lookup?_insertEntry _ _ _ hdone,
      List.reverse_cons, lookup?_append, Option.or_assoc, lookup?, lookup?]
    split <;> rfl

/-- **Of the entries that are set one by one the last under a key counts.** -/
theorem lookup?_entriesOf : lookup? k (entriesOf es) = lookup? k es.reverse := by
  rw [entriesOf, lookup?_foldl_insertEntry ordered_nil]
  exact Option.or_none

theorem ordered_entriesOf : Ordered (entriesOf es) := by
  rw [entriesOf]
  have hdone : Ordered ([] : List (String × α)) := ordered_nil
  generalize ([] : List (String × α)) = done at hdone
  induction es generalizing done with
  | nil => exact hdone
  | cons e es ih => exact ih _ (ordered_insertEntry hdone)

end Order

/-! ## Entries in any order -/

/-- Under every key there is one value only. -/
def Agree (es : List (String × α)) : Prop :=
  ∀ d ∈ es, ∀ e ∈ es, d.1 = e.1 → d.2 = e.2

theorem Agree.perm (hagree : Agree es) (h : es'.Perm es) : Agree es' :=
  fun d hd e he => hagree d (h.mem_iff.1 hd) e (h.mem_iff.1 he)

theorem agree_of_nodup (hdistinct : (es.map (·.1)).Nodup) : Agree es :=
  fun _ hd _ he heq => congrArg (·.2) (List.inj_on_of_nodup_map hdistinct hd he heq)

theorem lookup?_eq_none_iff : lookup? k es = none ↔ ∀ e ∈ es, e.1 ≠ k := by
  induction es with
  | nil => exact iff_of_true rfl (List.forall_mem_nil _)
  | cons e es ih =>
    rw [List.forall_mem_cons, ← ih, lookup?]
    split
    · rename_i heq
      exact iff_of_false (Option.some_ne_none _) fun h => h.1 heq.symm
    · rename_i hne
      exact (and_iff_right (Ne.symm hne)).symm

/-- What is found under the key of an entry is its value, if all others of that key have it too. -/
theorem lookup?_eq_some_of_mem {e : String × α} (he : e ∈ es)
    (hagree : ∀ d ∈ es, d.1 = e.1 → d.2 = e.2) : lookup? e.1 es = some e.2 := by
  cases hfound : lookup? e.1 es with
  | none => exact absurd rfl (lookup?_eq_none_iff.1 hfound e he)
  | some v => exact congrArg some (hagree _ (mem_of_lookup? hfound) rfl)

theorem lookup?_eq_some_iff_of_agree (hagree : Agree es) : lookup? k es = some v ↔ (k, v) ∈ es :=
  ⟨mem_of_lookup?, fun h => lookup?_eq_some_of_mem h fun d hd => hagree d hd (k, v) h⟩

/-- **Entries that agree may come in any order.** -/
theorem entriesOf_perm_of_agree (hagree : Agree es) (h : es.Perm es') :
    entriesOf es = entriesOf es' := by
  refine eq_of_lookup?_eq ordered_entriesOf ordered_entriesOf fun k => Option.ext fun v => ?_
  rw [lookup?_entriesOf, lookup?_entriesOf,
    lookup?_eq_some_iff_of_agree (hagree.perm (List.reverse_perm es)),
    lookup?_eq_some_iff_of_agree (hagree.perm ((List.reverse_perm es').trans h.symm)),
    List.mem_reverse, List.mem_reverse, h.mem_iff]

/-- **Entries under different keys may come in any order.** -/
theorem entriesOf_perm (h : es.Perm es') (hdistinct : (es.map (·.1)).Nodup) :
    entriesOf es = entriesOf es' :=
  entriesOf_perm_of_agree (agree_of_nodup hdistinct) h

end TypedGraphQL
