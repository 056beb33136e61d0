import Mathlib.Data.List.Perm.Basic
import TypedGraphQL.Proofs.Schema.Members

/-!
# What can be read

A container can be read if what is in it can be read one by one, and then its value is made of the
values in it.  This file says so for each kind of container, in both directions.  It leaves out
records that are read from an object, since their members depend on each other.

## What is here

* `readItems_eq_ok_iff`, `readMembers_eq_ok_iff` — items and members that can be read.
* `readItems_replace`, `readMembers_replace`, `exists_readMembers_of_perm` — what may be changed.
* `Schema.read_list_eq_ok_iff` and its likes — containers that can be read.
* `Schema.read_time_eq_ok_iff`, `Schema.readText_eq_ok_iff` — points in time and whole texts.
-/

set_option autoImplicit false

namespace TypedGraphQL

open Json

/-! ## Results -/

section Results

variable {ε α β : Type} {x : Except ε α}

theorem bind_eq_ok_iff {f : α → Except ε β} {b : β} :
    x.bind f = .ok b ↔ ∃ a, x = .ok a ∧ f a = .ok b := by
  cases x with
  | error e => exact ⟨nofun, fun ⟨_, h, _⟩ => nomatch h⟩
  | ok a =>
    constructor
    · exact fun h => ⟨a, rfl, h⟩
    · rintro ⟨_, ⟨⟩, h⟩
      exact h

theorem map_eq_ok_iff {f : α → β} {b : β} : x.map f = .ok b ↔ ∃ a, x = .ok a ∧ f a = b := by
  cases x with
  | error e => exact ⟨nofun, fun ⟨_, h, _⟩ => nomatch h⟩
  | ok a =>
    constructor
    · rintro ⟨⟩
      exact ⟨a, rfl, rfl⟩
    · rintro ⟨_, ⟨⟩, rfl⟩
      rfl

end Results

theorem descend_eq_ok_iff {levels below : Nat} : descend levels = .ok below ↔ levels = below + 1 := by
  cases levels with
  | zero => exact ⟨nofun, nofun⟩
  | succ n =>
    rw [Nat.add_right_cancel_iff]
    exact ⟨Except.ok.inj, congrArg Except.ok⟩

/-- What is read a level down. -/
theorem descend_bind_eq_ok_iff {α : Type} {levels : Nat} {f : Nat → Except ReadError α} {v : α} :
    (descend levels).bind f = .ok v ↔ ∃ below, levels = below + 1 ∧ f below = .ok v := by
  simp only [bind_eq_ok_iff, descend_eq_ok_iff]

theorem reject_ne_ok {α : Type} {expected : String} {t : ParseTree} {v : α} :
    reject expected t ≠ .ok v := by
  rw [reject]
  cases t.found <;> exact nofun

/-! ## Items and members -/

/-- What stands in the middle may be replaced by what is related to the same. -/
theorem forall₂_replace {α β : Type} {R : α → β → Prop} {a a' : α} (h : ∀ b, R a b → R a' b)
    {before after : List α} {bs : List β} (hall : List.Forall₂ R (before ++ a :: after) bs) :
    List.Forall₂ R (before ++ a' :: after) bs := by
  induction before generalizing bs with
  | nil =>
    cases hall with
    | cons hb hrest => exact .cons (h _ hb) hrest
  | cons c before ih =>
    cases hall with
    | cons hb hrest => exact .cons hb (ih hrest)

section Parts

variable {α : Type} {read : ParseTree → Except ReadError α}

theorem readItems_eq_ok_iff {items : List ParseTree} {vs : List α} :
    readItems read items = .ok vs ↔ List.Forall₂ (fun t v => read t = .ok v) items vs := by
  induction items generalizing vs with
  | nil =>
    rw [readItems, List.forall₂_nil_left_iff]
    exact ⟨fun h => (Except.ok.inj h).symm, fun h => congrArg Except.ok h.symm⟩
  | cons t items ih =>
    have hread : readItems read (t :: items) =
        (read t).bind fun v => (readItems read items).bind fun vs => .ok (v :: vs) := rfl
    rw [hread, bind_eq_ok_iff, List.forall₂_cons_left_iff]
    simp only [bind_eq_ok_iff, ih, Except.ok.injEq]
    constructor
    · rintro ⟨v, hv, vs, hvs, rfl⟩
      exact ⟨v, vs, hv, hvs, rfl⟩
    · rintro ⟨v, vs, hv, hvs, rfl⟩
      exact ⟨v, hv, vs, hvs, rfl⟩

theorem readKey_eq_ok_iff {key : Option String} {k : String} :
    readKey key = .ok k ↔ key = some k := by
  cases key with
  | none => exact ⟨nofun, nofun⟩
  | some l =>
    rw [readKey, Except.ok.injEq, Option.some.injEq]

theorem readMembers_eq_ok_iff {members : List (Option String × ParseTree)}
    {es : List (String × α)} :
    readMembers read members = .ok es ↔
      List.Forall₂ (fun m e => m.1 = some e.1 ∧ read m.2 = .ok e.2) members es := by
  induction members generalizing es with
  | nil =>
    rw [readMembers, List.forall₂_nil_left_iff]
    exact ⟨fun h => (Except.ok.inj h).symm, fun h => congrArg Except.ok h.symm⟩
  | cons m members ih =>
    obtain ⟨key, t⟩ := m
    have hread : readMembers read ((key, t) :: members) =
        (readKey key).bind fun k => (read t).bind fun v =>
          (readMembers read members).bind fun es => .ok ((k, v) :: es) := rfl
    rw [hread, bind_eq_ok_iff, List.forall₂_cons_left_iff]
    simp only [bind_eq_ok_iff, readKey_eq_ok_iff, ih, Except.ok.injEq]
    constructor
    · rintro ⟨k, hk, v, hv, es, hes, rfl⟩
      exact ⟨(k, v), es, ⟨hk, hv⟩, hes, rfl⟩
    · rintro ⟨e, es, ⟨hk, hv⟩, hes, rfl⟩
      exact ⟨e.1, hk, e.2, hv, es, hes, rfl⟩

variable {t t' : ParseTree} (h : ∀ v, read t = .ok v → read t' = .ok v)
include h

/-- One item may be another that is read as the same. -/
theorem readItems_replace {before after : List ParseTree} {vs : List α}
    (hread : readItems read (before ++ t :: after) = .ok vs) :
    readItems read (before ++ t' :: after) = .ok vs := by
  rw [readItems_eq_ok_iff] at hread ⊢
  exact forall₂_replace h hread

/-- One member may hold something else that is read as the same. -/
theorem readMembers_replace {before after : List (Option String × ParseTree)} {key : Option String}
    {es : List (String × α)} (hread : readMembers read (before ++ (key, t) :: after) = .ok es) :
    readMembers read (before ++ (key, t') :: after) = .ok es := by
  rw [readMembers_eq_ok_iff] at hread ⊢
  exact forall₂_replace (fun e he => ⟨he.1, h e.2 he.2⟩) hread

omit h

/-- The keys of what is read are those of the members. -/
theorem map_fst_of_readMembers {members : List (Option String × ParseTree)} {es : List (String × α)}
    (hread : readMembers read members = .ok es) : es.map (·.1) = members.filterMap (·.1) := by
  rw [readMembers_eq_ok_iff] at hread
  induction hread with
  | nil => rfl
  | cons he _ ih => rw [List.map_cons, ih, List.filterMap_cons_some he.1]

/-- Members in another order are read as entries in another order. -/
theorem exists_readMembers_of_perm {members members' : List (Option String × ParseTree)}
    {es : List (String × α)} (hperm : members.Perm members')
    (hread : readMembers read members = .ok es) :
    ∃ es', readMembers read members' = .ok es' ∧ es.Perm es' := by
  rw [readMembers_eq_ok_iff] at hread
  obtain ⟨es', hes', hperm'⟩ := List.perm_comp_forall₂ hperm.symm hread
  exact ⟨es', readMembers_eq_ok_iff.2 hes', hperm'.symm⟩

end Parts

/-! ## Containers -/

section Containers

variable {origin : Origin} {levels : Nat} {s : Schema} {items : List ParseTree}
  {members : List (Option String × ParseTree)}

theorem readFree_array_eq_ok_iff {v : Json} :
    readFree levels (.array items none) = .ok v ↔
      ∃ below, levels = below + 1 ∧ ∃ vs, readItems (readFree below) items = .ok vs ∧ .arr vs = v := by
  have hread : readFree levels (.array items none) = (descend levels).bind fun below =>
      (readFreeItems below items).bind fun vs => .ok (.arr vs) := by
    rw [readFree]
    rfl
  rw [hread, descend_bind_eq_ok_iff]
  simp only [bind_eq_ok_iff, readFreeItems_eq, Except.ok.injEq]

theorem readFree_object_eq_ok_iff {v : Json} :
    readFree levels (.object members none) = .ok v ↔
      ∃ below, levels = below + 1 ∧
        ∃ es, readMembers (readFree below) members = .ok es ∧ objectOf es = v := by
  have hread : readFree levels (.object members none) = (descend levels).bind fun below =>
      (readFreeMembers below members).bind fun es => .ok (objectOf es) := by
    rw [readFree]
    rfl
  rw [hread, descend_bind_eq_ok_iff]
  simp only [bind_eq_ok_iff, readFreeMembers_eq, Except.ok.injEq]

namespace Schema

theorem read_list_eq_ok_iff {vs : List s.Value} :
    s.list.read origin levels (.array items none) = .ok vs ↔
      ∃ below, levels = below + 1 ∧ readItems (s.read origin below) items = .ok vs := by
  refine descend_bind_eq_ok_iff.trans (exists_congr fun below => and_congr_right' ?_)
  refine bind_eq_ok_iff.trans ?_
  constructor
  · rintro ⟨_, h, ⟨⟩⟩
    exact h
  · exact fun h => ⟨vs, h, rfl⟩

theorem read_pair_eq_ok_iff {v w : s.Value} :
    s.pair.read origin levels (.array items none) = .ok (v, w) ↔
      ∃ below, levels = below + 1 ∧ readItems (s.read origin below) items = .ok [v, w] := by
  refine descend_bind_eq_ok_iff.trans (exists_congr fun below => and_congr_right' ?_)
  rw [readItems_eq_ok_iff]
  cases items with
  | nil => exact iff_of_false nofun nofun
  | cons a more =>
    refine bind_eq_ok_iff.trans ?_
    rw [List.forall₂_cons]
    cases more with
    | nil =>
      refine iff_of_false ?_ ?_
      · rintro ⟨_, _, ⟨⟩⟩
      · rintro ⟨_, ⟨⟩⟩
    | cons b more =>
      rw [List.forall₂_cons]
      constructor
      · rintro ⟨_, hv, hmore⟩
        obtain ⟨_, hw, hend⟩ := bind_eq_ok_iff.1 hmore
        cases more with
        | nil =>
          cases hend
          exact ⟨hv, hw, .nil⟩
        | cons c more => cases hend
      · rintro ⟨hv, hw, hend⟩
        cases hend
        exact ⟨v, hv, bind_eq_ok_iff.2 ⟨w, hw, rfl⟩⟩

theorem read_dictionary_eq_ok_iff {es : List (String × s.Value)} :
    s.dictionary.read origin levels (.object members none) = .ok es ↔
      ∃ below, levels = below + 1 ∧
        ∃ es', readMembers (s.read origin below) members = .ok es' ∧ entriesOf es' = es := by
  refine descend_bind_eq_ok_iff.trans (exists_congr fun below => and_congr_right' ?_)
  refine bind_eq_ok_iff.trans (exists_congr fun es' => and_congr_right' ?_)
  exact ⟨Except.ok.inj, congrArg Except.ok⟩

theorem read_record_eq_ok_iff {name : String} {fields : Fields} {vs : fields.Value} :
    (record name fields).read origin levels (.object members none) = .ok vs ↔
      ∃ below, levels = below + 1 ∧
        ∃ slots, readSlots (fields.put origin below) fields.noSlots members = .ok slots ∧
          fields.finish slots = .ok vs :=
  descend_bind_eq_ok_iff.trans (exists_congr fun _ => and_congr_right' bind_eq_ok_iff)

theorem read_record_array_eq_ok_iff {name : String} {fields : Fields} {vs : fields.Value} :
    (record name fields).read origin levels (.array items none) = .ok vs ↔
      ∃ below, levels = below + 1 ∧
        fields.readArray origin below (recordLengthPhrase name fields) none 0 items = .ok vs :=
  descend_bind_eq_ok_iff

/-! ## Scalars and texts -/

theorem read_optional_eq_ok_some_iff {t : ParseTree} {v : s.Value} :
    s.optional.read origin levels t = .ok (some v) ↔
      t ≠ .null ∧ s.read origin levels t = .ok v := by
  by_cases ht : t = .null
  · subst ht
    exact iff_of_false nofun fun h => h.1 rfl
  · constructor
    · intro h
      obtain ⟨w, hw, hsome⟩ := map_eq_ok_iff.1 ((read_optional ht).symm.trans h)
      exact ⟨ht, hw.trans (congrArg Except.ok (Option.some.inj hsome))⟩
    · exact fun h => (read_optional ht).trans (map_eq_ok_iff.2 ⟨v, h.2, rfl⟩)

/-- A point in time is read from a string. -/
theorem read_time_eq_ok_iff {t : ParseTree} {i : Instant} :
    time.read origin levels t = .ok i ↔
      ∃ text, t = .str (some text) ∧ Instant.parse? text = some i := by
  constructor
  · intro h
    cases t with
    | str text =>
      cases text with
      | none => exact absurd h reject_ne_ok
      | some text =>
        refine ⟨text, rfl, ?_⟩
        cases hparse : Instant.parse? text with
        | none =>
          conv at h => lhs; whnf
          rw [hparse] at h
          cases h
        | some j => exact congrArg some (Except.ok.inj ((read_time hparse).symm.trans h))
    | null | bool | number | array | object | broken => exact absurd h reject_ne_ok
  · rintro ⟨text, rfl, h⟩
    exact read_time h

/-- A whole text is read if its tree is and nothing is left over. -/
theorem readText_eq_ok_iff {s : Schema} {text : Bytes} {v : s.Value} :
    s.readText text = .ok v ↔
      s.read .text maxLevels (parse text).1 = .ok v ∧ (parse text).2 = false := by
  have hread : s.readText text = (s.read .text maxLevels (parse text).1).bind fun v =>
      if (parse text).2 then .error (.flaw .malformed) else .ok v := rfl
  rw [hread, bind_eq_ok_iff]
  cases (parse text).2 with
  | true =>
    constructor
    · rintro ⟨_, _, ⟨⟩⟩
    · rintro ⟨_, ⟨⟩⟩
  | false =>
    constructor
    · rintro ⟨_, h, ⟨⟩⟩
      exact ⟨h, rfl⟩
    · exact fun ⟨h, _⟩ => ⟨v, h, rfl⟩

end Schema

end Containers

end TypedGraphQL
