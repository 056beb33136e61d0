import TypedGraphQL.Proofs.Json.Whole
import TypedGraphQL.Schema

/-!
# What a container is read into

A container is read by reading what is in it: the items of an array one by one, and the members of
an object one by one, each into the field of its name.  This file says what one member does to what
has been read of a record, and what a reader makes of items and members that are written values.

## What is here

* `readNullable_of_ne` — a value that may be `null`.
* `Fields.put_required_self` and its likes — one member of a record.
* `read_list`, `read_record` and their likes — a value of each type, given what is in it.
* `readItems_map`, `readMembers_map` — items and members that were written come back if each of them
  does.
* `readFreeItems_eq`, `readFreeMembers_eq` — the same reader for JSON of any kind.
-/

set_option autoImplicit false

namespace TypedGraphQL

open Json

/-! ## Values that may be null -/

section Nullable

variable {α : Type} {read : ParseTree → Except ReadError α} {t : ParseTree}

theorem readNullable_of_ne (h : t ≠ .null) : readNullable read t = (read t).map some := by
  cases t with
  | null => exact absurd rfl h
  | bool | number | str | array | object | broken =>
    rw [readNullable]
    · cases read _ <;> rfl
    · exact nofun

theorem readNullable_eq_error_iff {cause : ReadError} :
    readNullable read t = .error cause ↔ t ≠ .null ∧ read t = .error cause := by
  by_cases ht : t = .null
  · subst ht
    exact ⟨nofun, fun h => absurd rfl h.1⟩
  · rw [readNullable_of_ne ht]
    cases read t <;> simp [Except.map, ht]

end Nullable

/-! ## One member of a record -/

namespace Fields

variable {origin : Origin} {levels : Nat} {name key : String} {s : Schema} {rest : Fields}
  {t : ParseTree} {slots : rest.Slots}

theorem put_required_self :
    (required name s rest).put origin levels name t (none, slots) =
      (s.read origin levels t).map fun v => (some v, slots) := by
  rw [put]
  refine (if_pos rfl).trans ?_
  cases s.read origin levels t <;> rfl

theorem put_required_of_read {v : s.Value} (h : s.read origin levels t = .ok v) :
    (required name s rest).put origin levels name t (none, slots) = .ok (some v, slots) :=
  put_required_self.trans (congrArg (Except.map _) h)

theorem put_required_of_ne {slot : Option s.Value} (h : key ≠ name) :
    (required name s rest).put origin levels key t (slot, slots) =
      (rest.put origin levels key t slots).map fun slots => (slot, slots) := by
  rw [put]
  refine (if_neg h).trans ?_
  cases rest.put origin levels key t slots <;> rfl

theorem put_sparse_self :
    (sparse name s rest).put origin levels name t (none, slots) =
      (readNullable (s.read origin levels) t).map fun v => (some v, slots) := by
  rw [put]
  refine (if_pos rfl).trans ?_
  cases readNullable (s.read origin levels) t <;> rfl

theorem put_sparse_of_read {v : s.Value} (hne : t ≠ .null) (h : s.read origin levels t = .ok v) :
    (sparse name s rest).put origin levels name t (none, slots) = .ok (some (some v), slots) := by
  have hread : readNullable (s.read origin levels) t = .ok (some v) :=
    (readNullable_of_ne hne).trans (congrArg (Except.map some) h)
  exact put_sparse_self.trans (congrArg (Except.map _) hread)

theorem put_sparse_of_ne {slot : Option (Option s.Value)} (h : key ≠ name) :
    (sparse name s rest).put origin levels key t (slot, slots) =
      (rest.put origin levels key t slots).map fun slots => (slot, slots) := by
  rw [put]
  refine (if_neg h).trans ?_
  cases rest.put origin levels key t slots <;> rfl

theorem put_nil_of_isWhole (ht : t.IsWhole) : nil.put origin levels key t () = .ok () := by
  have hskip : skip t = .ok () := by rw [skip, ht]
  exact congrArg (Except.map fun _ => ()) hskip

end Fields

/-! ## Values by their type -/

section Values

variable {origin : Origin} {levels : Nat} {s : Schema}

theorem read_integer (range : IntRange) (n : range.Member) :
    (Schema.integer range).read origin levels (.number (some (.int n.val))) = .ok n := by
  have hmember : range.member? n.val = some n := dif_pos n.property
  -- the reader runs as far as the question whether the number is in the range
  conv => lhs; whnf
  rw [hmember]

theorem read_time {text : String} {i : Instant} (h : Instant.parse? text = some i) :
    Schema.time.read origin levels (.str (some text)) = .ok i := by
  conv => lhs; whnf
  rw [h]

theorem read_optional {t : ParseTree} (h : t ≠ .null) :
    s.optional.read origin levels t = (s.read origin levels t).map some :=
  readNullable_of_ne h

theorem read_list {items : List ParseTree} {vs : List s.Value}
    (h : readItems (s.read origin levels) items = .ok vs) :
    s.list.read origin (levels + 1) (.array items none) = .ok vs := by
  have hread : s.list.read origin (levels + 1) (.array items none) =
      (readItems (s.read origin levels) items).bind .ok := rfl
  rw [hread, h]
  rfl

theorem read_pair {t u : ParseTree} {v w : s.Value} (ht : s.read origin levels t = .ok v)
    (hu : s.read origin levels u = .ok w) :
    s.pair.read origin (levels + 1) (.array [t, u] none) = .ok (v, w) := by
  have hread : s.pair.read origin (levels + 1) (.array [t, u] none) =
      (s.read origin levels t).bind fun v =>
        (s.read origin levels u).bind fun w => .ok (v, w) := rfl
  rw [hread, ht, hu]
  rfl

theorem read_dictionary {members : List (Option String × ParseTree)} {es : List (String × s.Value)}
    (h : readMembers (s.read origin levels) members = .ok es) :
    s.dictionary.read origin (levels + 1) (.object members none) = .ok (entriesOf es) := by
  have hread : s.dictionary.read origin (levels + 1) (.object members none) =
      (readMembers (s.read origin levels) members).bind fun es => .ok (entriesOf es) := rfl
  rw [hread, h]
  rfl

theorem read_record {name : String} {fields : Fields}
    {members : List (Option String × ParseTree)} {slots : fields.Slots}
    (h : readSlots (fields.put origin levels) fields.noSlots members = .ok slots) :
    (Schema.record name fields).read origin (levels + 1) (.object members none) =
      fields.finish slots := by
  have hread : (Schema.record name fields).read origin (levels + 1) (.object members none) =
      (readSlots (fields.put origin levels) fields.noSlots members).bind fields.finish := rfl
  rw [hread, h]
  rfl

end Values

/-! ## Items and members -/

section Containers

variable {α : Type} {read : ParseTree → Except ReadError α} {write : α → Json}

theorem readItems_map {vs : List α} (h : ∀ v ∈ vs, read (.ofJson (write v)) = .ok v) :
    readItems read (ParseTree.ofItems (vs.map write)) = .ok vs := by
  induction vs with
  | nil => rfl
  | cons v vs ih =>
    obtain ⟨hv, hvs⟩ := List.forall_mem_cons.1 h
    rw [List.map_cons, ParseTree.ofItems, readItems, hv, ih hvs]
    rfl

theorem readMembers_map {es : List (String × α)}
    (h : ∀ e ∈ es, read (.ofJson (write e.2)) = .ok e.2) :
    readMembers read (ParseTree.ofMembers (es.map fun e => (e.1, write e.2))) = .ok es := by
  induction es with
  | nil => rfl
  | cons e es ih =>
    obtain ⟨he, hes⟩ := List.forall_mem_cons.1 h
    rw [List.map_cons, ParseTree.ofMembers, readMembers, he, ih hes]
    rfl

theorem readSlots_cons {σ : Type} {put : String → ParseTree → σ → Except ReadError σ} {slots : σ}
    {key : String} {t : ParseTree} {members : List (Option String × ParseTree)} :
    readSlots put slots ((some key, t) :: members) =
      (put key t slots).bind fun slots => readSlots put slots members :=
  rfl

theorem readFreeItems_eq (levels : Nat) (ts : List ParseTree) :
    readFreeItems levels ts = readItems (readFree levels) ts := by
  induction ts with
  | nil => rfl
  | cons t ts ih => rw [readFreeItems, readItems, ih]

theorem readFreeMembers_eq (levels : Nat) (ms : List (Option String × ParseTree)) :
    readFreeMembers levels ms = readMembers (readFree levels) ms := by
  induction ms with
  | nil => rfl
  | cons m ms ih => rw [readFreeMembers, readMembers, ih]

end Containers

end TypedGraphQL
