import Mathlib.Logic.Relation
import TypedGraphQL.Proofs.Schema.Entries
import TypedGraphQL.Proofs.Schema.Slots

/-!
# Changes that a reader does not notice

The same value can travel in many forms.  The members of an object may come in any order, a record
may have members that its type does not know, and an optional field that holds nothing may be `null`
or absent.  This file defines such changes one by one, at any depth, and shows that none of them
changes what a type reads.

Most of this needs no care about keys that are there twice: a field that is given twice is refused.
It is different where all keys of an object count, in JSON of any kind and in dictionaries.  There
the last of several members under one key wins, so members of one key must not change places.
Members that a type does not know may repeat keys as they like.

## What is here

* `Schema.bare`, `Schema.itemType?`, `Schema.memberType?`, `Schema.fields?` — what the type says of
  the parts of a tree.
* `Edit` — one change.
* `ParseTree.HasDistinctKeys` — no key is there twice; `Clear` — no key that counts is.
* `Edit.clear` — a change leaves the keys that count distinct.
* `carries_item` and its likes — what is read of a container after one change to it.
* `Edit.carries`, `carries_of_edits` — a tree is read as before after one change, and after any
  number of them.
-/

set_option autoImplicit false

namespace TypedGraphQL

open Json

/-! ## The types of the parts of a tree -/

namespace Schema

/-- The type of the values other than `null`. -/
def bare : Schema → Schema
  | .optional s => s.bare
  | s => s

theorem bare_ne_optional (b : Schema) : (s : Schema) → s.bare ≠ .optional b
  | .optional s => bare_ne_optional b s
  | .free | .text | .flag | .integer _ | .float _ | .time | .list _ | .pair _ | .dictionary _
  | .record _ _ => nofun

/-- The type that an item of an array is read as. -/
def itemType? (s : Schema) (i : Nat) : Option Schema :=
  match s.bare with
  | .free => some .free
  | .list s => some s
  | .pair s => some s
  | .record _ fields => fields.types[i]?.map (·.2)
  | _ => none

/-- The type that a member of an object is read as.  It is `none` if the member is not read. -/
def memberType? (s : Schema) (key : String) : Option Schema :=
  match s.bare with
  | .free => some .free
  | .dictionary s => some s
  | .record _ fields => fields.type? key
  | _ => none

/-- The fields, if objects are read as records. -/
def fields? (s : Schema) : Option Fields :=
  match s.bare with
  | .record _ fields => some fields
  | _ => none

/-- All keys of an object count. -/
def KeepsKeys (s : Schema) : Prop :=
  match s.bare with
  | .free => True
  | .dictionary _ => True
  | _ => False

end Schema

/-! ## Changes -/

/-- **One change to a tree that is read as a type.**  What a member without a field holds is changed
by taking the member away and putting another one in. -/
inductive Edit : Schema → ParseTree → ParseTree → Prop
  /-- The members of an object change places. -/
  | permute {s : Schema} {members members' : List (Option String × ParseTree)}
      (h : members.Perm members') : Edit s (.object members none) (.object members' none)
  /-- A member without a field is put into a record. -/
  | insert {s : Schema} {fields : Fields} {key : String} {t : ParseTree}
      (before after : List (Option String × ParseTree)) (hs : s.fields? = some fields)
      (hkey : fields.type? key = none) (ht : t.IsWhole) :
      Edit s (.object (before ++ after) none) (.object (before ++ (some key, t) :: after) none)
  /-- A member without a field is taken out of a record. -/
  | delete {s : Schema} {fields : Fields} {key : String} {t : ParseTree}
      (before after : List (Option String × ParseTree)) (hs : s.fields? = some fields)
      (hkey : fields.type? key = none) :
      Edit s (.object (before ++ (some key, t) :: after) none) (.object (before ++ after) none)
  /-- An optional field that is absent becomes `null`. -/
  | insertNull {s s' : Schema} {fields : Fields} {name : String}
      (before after : List (Option String × ParseTree)) (hs : s.fields? = some fields)
      (hname : fields.type? name = some (.optional s'))
      (habsent : ∀ t, (some name, t) ∉ before ++ after) :
      Edit s (.object (before ++ after) none) (.object (before ++ (some name, .null) :: after) none)
  /-- An optional field that is `null` becomes absent. -/
  | deleteNull {s s' : Schema} {fields : Fields} {name : String}
      (before after : List (Option String × ParseTree)) (hs : s.fields? = some fields)
      (hname : fields.type? name = some (.optional s')) :
      Edit s (.object (before ++ (some name, .null) :: after) none) (.object (before ++ after) none)
  /-- An item of an array is changed. -/
  | item {s s' : Schema} {t t' : ParseTree} (before after : List ParseTree)
      (hs : s.itemType? before.length = some s') (h : Edit s' t t') :
      Edit s (.array (before ++ t :: after) none) (.array (before ++ t' :: after) none)
  /-- A member of an object is changed. -/
  | member {s s' : Schema} {key : String} {t t' : ParseTree}
      (before after : List (Option String × ParseTree)) (hs : s.memberType? key = some s')
      (h : Edit s' t t') :
      Edit s (.object (before ++ (some key, t) :: after) none)
        (.object (before ++ (some key, t') :: after) none)

/-! ## Keys that are there once -/

/-- No object in the tree has a key twice. -/
inductive Json.ParseTree.HasDistinctKeys : ParseTree → Prop
  | null : HasDistinctKeys .null
  | bool (b : Bool) : HasDistinctKeys (.bool b)
  | number (n : Option Number) : HasDistinctKeys (.number n)
  | str (s : Option String) : HasDistinctKeys (.str s)
  | broken (d : Damage) : HasDistinctKeys (.broken d)
  | array {items : List ParseTree} {unclosed : Option Damage}
    (h : ∀ t ∈ items, HasDistinctKeys t) : HasDistinctKeys (.array items unclosed)
  | object {members : List (Option String × ParseTree)} {unclosed : Option Damage}
    (hkeys : (members.filterMap (·.1)).Nodup) (h : ∀ m ∈ members, HasDistinctKeys m.2) :
    HasDistinctKeys (.object members unclosed)

/-- **No object in the tree has a key twice where all its keys count.** -/
inductive Clear : Schema → ParseTree → Prop
  | leaf {s : Schema} {t : ParseTree} (hitems : ∀ items unclosed, t ≠ .array items unclosed)
    (hmembers : ∀ members unclosed, t ≠ .object members unclosed) : Clear s t
  | array {s : Schema} {items : List ParseTree} {unclosed : Option Damage}
    (h : ∀ i t s', items[i]? = some t → s.itemType? i = some s' → Clear s' t) :
    Clear s (.array items unclosed)
  | object {s : Schema} {members : List (Option String × ParseTree)} {unclosed : Option Damage}
    (hkeys : s.KeepsKeys → (members.filterMap (·.1)).Nodup)
    (h : ∀ key t s', (some key, t) ∈ members → s.memberType? key = some s' → Clear s' t) :
    Clear s (.object members unclosed)

theorem Json.ParseTree.HasDistinctKeys.clear {t : ParseTree} (h : t.HasDistinctKeys) (s : Schema) :
    Clear s t := by
  induction h generalizing s with
  | null | bool | number | str | broken => exact .leaf nofun nofun
  | array _ ih => exact .array fun i t s' ht _ => ih t (List.mem_of_getElem? ht) s'
  | object hkeys _ ih => exact .object (fun _ => hkeys) fun key t s' ht _ => ih _ ht s'

section Clear

variable {s s' : Schema} {fields : Fields} {key : String} {t t' : ParseTree}

/-- Only records have fields. -/
theorem bare_of_fields? (hs : s.fields? = some fields) :
    ∃ name, s.bare = .record name fields := by
  rw [Schema.fields?] at hs
  cases hb : s.bare with
  | record name fields' =>
    rw [hb] at hs
    cases hs
    exact ⟨name, rfl⟩
  | free | text | flag | integer | float | time | optional | list | pair | dictionary =>
    rw [hb] at hs
    cases hs

theorem not_keepsKeys_of_fields? (hs : s.fields? = some fields) : ¬ s.KeepsKeys := by
  obtain ⟨name, hb⟩ := bare_of_fields? hs
  rw [Schema.KeepsKeys, hb]
  exact id

theorem memberType?_of_fields? (hs : s.fields? = some fields) :
    s.memberType? key = fields.type? key := by
  obtain ⟨name, hb⟩ := bare_of_fields? hs
  rw [Schema.memberType?, hb]

theorem Clear.of_mem {members : List (Option String × ParseTree)} {unclosed : Option Damage}
    (h : Clear s (.object members unclosed)) (ht : (some key, t) ∈ members)
    (hs : s.memberType? key = some s') : Clear s' t := by
  cases h with
  | leaf _ hmembers => exact absurd rfl (hmembers _ _)
  | object _ hparts => exact hparts key t s' ht hs

theorem Clear.of_getElem? {items : List ParseTree} {unclosed : Option Damage} {i : Nat}
    (h : Clear s (.array items unclosed)) (ht : items[i]? = some t)
    (hs : s.itemType? i = some s') : Clear s' t := by
  cases h with
  | leaf hitems _ => exact absurd rfl (hitems _ _)
  | array hparts => exact hparts i t s' ht hs

theorem Clear.nodup {members : List (Option String × ParseTree)} {unclosed : Option Damage}
    (h : Clear s (.object members unclosed)) (hs : s.KeepsKeys) :
    (members.filterMap (·.1)).Nodup := by
  cases h with
  | leaf _ hmembers => exact absurd rfl (hmembers _ _)
  | object hkeys _ => exact hkeys hs

/-- A record may be read from other members, whatever their keys, if what is new is clear. -/
theorem Clear.of_fields? {members members' : List (Option String × ParseTree)}
    {unclosed : Option Damage} (h : Clear s (.object members unclosed))
    (hs : s.fields? = some fields)
    (hnew : ∀ key t s', (some key, t) ∈ members' → fields.type? key = some s' →
      (some key, t) ∈ members ∨ Clear s' t) : Clear s (.object members' unclosed) := by
  refine .object (fun hkeys => absurd hkeys (not_keepsKeys_of_fields? hs)) fun key t s' ht hs' => ?_
  have htype : fields.type? key = some s' := (memberType?_of_fields? hs).symm.trans hs'
  rcases hnew key t s' ht htype with hold | hclear
  · exact h.of_mem hold hs'
  · exact hclear

theorem mem_insert_iff {α : Type} {a b : α} {before after : List α} :
    a ∈ before ++ b :: after ↔ a = b ∨ a ∈ before ++ after := by
  rw [List.perm_middle.mem_iff, List.mem_cons]

theorem getElem?_insert_of_ne {α : Type} {a b : α} {before after : List α} {i : Nat}
    (h : i ≠ before.length) : (before ++ a :: after)[i]? = (before ++ b :: after)[i]? := by
  rw [List.getElem?_append, List.getElem?_append]
  split
  · rfl
  · obtain ⟨n, hn⟩ : ∃ n, i - before.length = n + 1 := ⟨i - before.length - 1, by omega⟩
    rw [hn, List.getElem?_cons_succ, List.getElem?_cons_succ]

theorem getElem?_insert_self {α : Type} {a : α} {before after : List α} :
    (before ++ a :: after)[before.length]? = some a := by
  rw [List.getElem?_append_right (Nat.le_refl _), Nat.sub_self, List.getElem?_cons_zero]

/-- **A change leaves the keys that count distinct.** -/
theorem Edit.clear (h : Edit s t t') (hclear : Clear s t) : Clear s t' := by
  induction h with
  | permute h =>
    refine .object (fun hs => (h.filterMap _).nodup_iff.1 (hclear.nodup hs)) fun key t s' ht hs' => ?_
    exact hclear.of_mem (h.mem_iff.2 ht) hs'
  | insert before after hs hkey _ =>
    refine hclear.of_fields? hs fun k u s' hu hs' => ?_
    rcases mem_insert_iff.1 hu with heq | hu
    · cases heq
      cases hkey.symm.trans hs'
    · exact Or.inl hu
  | delete before after hs _ =>
    exact hclear.of_fields? hs fun k u s' hu _ => Or.inl (mem_insert_iff.2 (Or.inr hu))
  | insertNull before after hs _ _ =>
    refine hclear.of_fields? hs fun k u s' hu _ => ?_
    rcases mem_insert_iff.1 hu with heq | hu
    · cases heq
      exact Or.inr (.leaf nofun nofun)
    · exact Or.inl hu
  | deleteNull before after hs _ =>
    exact hclear.of_fields? hs fun k u s' hu _ => Or.inl (mem_insert_iff.2 (Or.inr hu))
  | @item s s' t t' before after hs _ ih =>
    refine .array fun i u s'' hu hs'' => ?_
    by_cases hi : i = before.length
    · subst hi
      cases getElem?_insert_self.symm.trans hu
      cases hs.symm.trans hs''
      exact ih (hclear.of_getElem? getElem?_insert_self hs)
    · exact hclear.of_getElem? ((getElem?_insert_of_ne hi).trans hu) hs''
  | @member s s' key t t' before after hs _ ih =>
    refine .object (fun hkeys => ?_) fun k u s'' hu hs'' => ?_
    · have hnodup := hclear.nodup hkeys
      rwa [List.filterMap_append, List.filterMap_cons] at hnodup ⊢
    · rcases mem_insert_iff.1 hu with heq | hu
      · cases heq
        cases hs.symm.trans hs''
        exact ih (hclear.of_mem (mem_insert_iff.2 (Or.inl rfl)) hs)
      · exact hclear.of_mem (mem_insert_iff.2 (Or.inr hu)) hs''

end Clear

/-! ## What is read -/

/-- What a type reads from the first tree it reads from the second as well. -/
def Schema.Carries (origin : Origin) (s : Schema) (levels : Nat) (t t' : ParseTree) : Prop :=
  ∀ v, s.read origin levels t = .ok v → s.read origin levels t' = .ok v

section Carries

variable {origin : Origin} {s s' : Schema} {levels : Nat} {t t' : ParseTree} {fields : Fields}

/-- What is not `null` is read as if it were not optional. -/
theorem carries_of_bare (ht : t ≠ .null) (ht' : t' ≠ .null) :
    (s : Schema) → s.bare.Carries origin levels t t' → s.Carries origin levels t t'
  | .optional s, h => by
    intro v hv
    obtain ⟨w, hw, hsome⟩ := map_eq_ok_iff.1 ((read_optional ht).symm.trans hv)
    have hcarries := carries_of_bare ht ht' s h
    exact (read_optional ht').trans (map_eq_ok_iff.2 ⟨w, hcarries w hw, hsome⟩)
  | .free, h | .text, h | .flag, h | .integer _, h | .float _, h | .time, h | .list _, h
  | .pair _, h | .dictionary _, h | .record _ _, h => h

/-- **An item is changed into one that is read as before.** -/
theorem carries_item {before after : List ParseTree} (hs : s.itemType? before.length = some s')
    (h : ∀ levels, s'.Carries origin levels t t') :
    s.Carries origin levels (.array (before ++ t :: after) none)
      (.array (before ++ t' :: after) none) := by
  refine carries_of_bare (by nofun) (by nofun) s fun v hv => ?_
  rw [Schema.itemType?] at hs
  generalize s.bare = b at hs v hv ⊢
  cases b with
  | free =>
    cases hs
    obtain ⟨below, rfl, vs, hvs, rfl⟩ := readFree_array_eq_ok_iff.1 hv
    exact readFree_array_eq_ok_iff.2 ⟨below, rfl, vs, readItems_replace (h below) hvs, rfl⟩
  | list b =>
    cases hs
    obtain ⟨below, rfl, hvs⟩ := Schema.read_list_eq_ok_iff.1 hv
    exact Schema.read_list_eq_ok_iff.2 ⟨below, rfl, readItems_replace (h below) hvs⟩
  | pair b =>
    cases hs
    obtain ⟨below, rfl, hvs⟩ := Schema.read_pair_eq_ok_iff.1 hv
    exact Schema.read_pair_eq_ok_iff.2 ⟨below, rfl, readItems_replace (h below) hvs⟩
  | record name fields =>
    obtain ⟨below, rfl, hvs⟩ := Schema.read_record_array_eq_ok_iff.1 hv
    exact Schema.read_record_array_eq_ok_iff.2
      ⟨below, rfl, fields.readArray_congr (h below) before hs hvs⟩
  | text | flag | integer | float | time | optional | dictionary => cases hs

/-- **A member is changed into one that is read as before.** -/
theorem carries_member {before after : List (Option String × ParseTree)} {key : String}
    (hs : s.memberType? key = some s') (h : ∀ levels, s'.Carries origin levels t t') :
    s.Carries origin levels (.object (before ++ (some key, t) :: after) none)
      (.object (before ++ (some key, t') :: after) none) := by
  refine carries_of_bare (by nofun) (by nofun) s fun v hv => ?_
  rw [Schema.memberType?] at hs
  generalize s.bare = b at hs v hv ⊢
  cases b with
  | free =>
    cases hs
    obtain ⟨below, rfl, es, hes, rfl⟩ := readFree_object_eq_ok_iff.1 hv
    exact readFree_object_eq_ok_iff.2 ⟨below, rfl, es, readMembers_replace (h below) hes, rfl⟩
  | dictionary b =>
    cases hs
    obtain ⟨below, rfl, es, hes, rfl⟩ := Schema.read_dictionary_eq_ok_iff.1 hv
    exact Schema.read_dictionary_eq_ok_iff.2
      ⟨below, rfl, es, readMembers_replace (h below) hes, rfl⟩
  | record name fields =>
    obtain ⟨below, rfl, slots, hslots, hfinish⟩ := Schema.read_record_eq_ok_iff.1 hv
    refine Schema.read_record_eq_ok_iff.2 ⟨below, rfl, slots, ?_, hfinish⟩
    exact readSlots_replace (fun _ _ => Fields.put_congr hs (h below)) hslots
  | text | flag | integer | float | time | optional | list | pair => cases hs

/-- **Members change places.** -/
theorem carries_permute {members members' : List (Option String × ParseTree)}
    (hkeys : s.KeepsKeys → (members.filterMap (·.1)).Nodup) (h : members.Perm members') :
    s.Carries origin levels (.object members none) (.object members' none) := by
  refine carries_of_bare (by nofun) (by nofun) s fun v hv => ?_
  rw [Schema.KeepsKeys] at hkeys
  have hne : ∀ b, s.bare ≠ .optional b := fun b => Schema.bare_ne_optional b s
  generalize s.bare = b at hkeys hne v hv ⊢
  cases b with
  | free =>
    obtain ⟨below, rfl, es, hes, rfl⟩ := readFree_object_eq_ok_iff.1 hv
    obtain ⟨es', hes', hperm⟩ := exists_readMembers_of_perm h hes
    have hdistinct : (es.map (·.1)).Nodup := map_fst_of_readMembers hes ▸ hkeys trivial
    refine readFree_object_eq_ok_iff.2 ⟨below, rfl, es', hes', ?_⟩
    exact congrArg Json.obj (entriesOf_perm hperm hdistinct).symm
  | dictionary b =>
    obtain ⟨below, rfl, es, hes, rfl⟩ := Schema.read_dictionary_eq_ok_iff.1 hv
    obtain ⟨es', hes', hperm⟩ := exists_readMembers_of_perm h hes
    have hdistinct : (es.map (·.1)).Nodup := map_fst_of_readMembers hes ▸ hkeys trivial
    exact Schema.read_dictionary_eq_ok_iff.2
      ⟨below, rfl, es', hes', (entriesOf_perm hperm hdistinct).symm⟩
  | record name fields =>
    obtain ⟨below, rfl, slots, hslots, hfinish⟩ := Schema.read_record_eq_ok_iff.1 hv
    exact Schema.read_record_eq_ok_iff.2
      ⟨below, rfl, slots, readSlots_perm fields.commutes_put h hslots, hfinish⟩
  | optional b => exact absurd rfl (hne b)
  | text | flag | integer | float | time | list | pair => cases hv

/-- **A record is read from other members** that leave the same behind. -/
theorem carries_of_fields? {members members' : List (Option String × ParseTree)}
    (hs : s.fields? = some fields)
    (h : ∀ below slots, readSlots (fields.put origin below) fields.noSlots members = .ok slots →
      ∃ slots', readSlots (fields.put origin below) fields.noSlots members' = .ok slots' ∧
        fields.finish slots' = fields.finish slots) :
    s.Carries origin levels (.object members none) (.object members' none) := by
  refine carries_of_bare (by nofun) (by nofun) s fun v hv => ?_
  obtain ⟨name, hb⟩ := bare_of_fields? hs
  generalize s.bare = b at hb v hv ⊢
  subst hb
  obtain ⟨below, rfl, slots, hslots, hfinish⟩ := Schema.read_record_eq_ok_iff.1 hv
  obtain ⟨slots', hslots', hsame⟩ := h below slots hslots
  exact Schema.read_record_eq_ok_iff.2 ⟨below, rfl, slots', hslots', hsame.trans hfinish⟩

/-- **A changed tree is read as before.** -/
theorem Edit.carries (h : Edit s t t') (hclear : Clear s t) : s.Carries origin levels t t' := by
  induction h generalizing levels with
  | permute h => exact carries_permute hclear.nodup h
  | @insert s fields key t before after hs hkey ht =>
    refine carries_of_fields? hs fun below slots hslots => ⟨slots, ?_, rfl⟩
    refine (readSlots_insert_iff fields.commutes_put).2 ⟨slots, hslots, ?_⟩
    have hskip : skip t = .ok () := by rw [skip, ht]
    rw [Fields.put_of_type?_eq_none hkey, hskip]
    rfl
  | @delete s fields key t before after hs hkey =>
    refine carries_of_fields? hs fun below slots hslots => ?_
    obtain ⟨next, hnext, hput⟩ := (readSlots_insert_iff fields.commutes_put).1 hslots
    rw [Fields.put_of_type?_eq_none hkey] at hput
    obtain ⟨-, -, rfl⟩ := map_eq_ok_iff.1 hput
    exact ⟨next, hnext, rfl⟩
  | @insertNull s s' fields name before after hs hname habsent =>
    refine carries_of_fields? hs fun below slots hslots => ?_
    obtain ⟨slots', hput⟩ := Fields.exists_put_null hname habsent hslots
    exact ⟨slots', (readSlots_insert_iff fields.commutes_put).2 ⟨slots, hslots, hput⟩,
      fields.finish_put_null hname hput⟩
  | @deleteNull s s' fields name before after hs hname =>
    refine carries_of_fields? hs fun below slots hslots => ?_
    obtain ⟨next, hnext, hput⟩ := (readSlots_insert_iff fields.commutes_put).1 hslots
    exact ⟨next, hnext, (fields.finish_put_null hname hput).symm⟩
  | item before after hs _ ih =>
    exact carries_item hs fun below => ih (hclear.of_getElem? getElem?_insert_self hs)
  | member before after hs _ ih =>
    exact carries_member hs fun below => ih (hclear.of_mem (mem_insert_iff.2 (Or.inl rfl)) hs)

/-- **Any number of changes leave what is read.** -/
theorem carries_of_edits (h : Relation.ReflTransGen (Edit s) t t') (hclear : Clear s t) :
    s.Carries origin levels t t' := by
  have hboth : Clear s t' ∧ s.Carries origin levels t t' := by
    induction h with
    | refl => exact ⟨hclear, fun _ hv => hv⟩
    | tail _ hedit ih =>
      exact ⟨hedit.clear ih.1, fun v hv => hedit.carries ih.1 v (ih.2 v hv)⟩
  exact hboth.2

end Carries

end TypedGraphQL
