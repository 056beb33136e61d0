import TypedGraphQL.Proofs.Json.RoundTrip
import TypedGraphQL.Proofs.Schema.Members

/-!
# A typed value comes back from its text

Writing and reading are defined side by side by the type, and this file shows that reading undoes
writing.  It does so for values that their JSON can tell apart: an optional value is not written as
`null` unless it is absent, the keys of an object are in order, and the fields of a record have
different names.  What is written must not be nested deeper than a reader goes.

## What is here

* `Json.IsSorted` — every object lists its members in the order of their keys.
* `Json.depth` — how many containers are nested in a value.
* `readFree_ofJson` — JSON of any kind is read as it is.
* `Schema.Keeps`, `Fields.Keeps` — the JSON of a value tells it apart.
* `Fields.readSlots_write` — the members of a record are read into its fields.
* `Schema.read_write`, `Schema.readText_write` — the value comes back from its JSON and from its
  text.
-/

set_option autoImplicit false

namespace TypedGraphQL

open Json

/-! ## JSON of any kind -/

namespace Json

/-- Every object in the value lists its members in the order of their keys. -/
inductive IsSorted : Json → Prop
  | null : IsSorted .null
  | bool (b : Bool) : IsSorted (.bool b)
  | number (n : Number) : IsSorted (.number n)
  | str (s : String) : IsSorted (.str s)
  | arr {items : List Json} (h : ∀ v ∈ items, IsSorted v) : IsSorted (.arr items)
  | obj {members : List (String × Json)} (hordered : Ordered members)
    (h : ∀ e ∈ members, IsSorted e.2) : IsSorted (.obj members)

mutual

/-- How many arrays and objects are nested in the value. -/
def depth : Json → Nat
  | arr items => itemsDepth items + 1
  | obj members => membersDepth members + 1
  | _ => 0

/-- How many are nested in some items. -/
def itemsDepth : List Json → Nat
  | [] => 0
  | v :: rest => max v.depth (itemsDepth rest)

/-- How many are nested in some members. -/
def membersDepth : List (String × Json) → Nat
  | [] => 0
  | (_, v) :: rest => max v.depth (membersDepth rest)

end

theorem itemsDepth_le_iff {items : List Json} {levels : Nat} :
    itemsDepth items ≤ levels ↔ ∀ v ∈ items, v.depth ≤ levels := by
  induction items with
  | nil => exact iff_of_true (Nat.zero_le _) (List.forall_mem_nil _)
  | cons v items ih => rw [itemsDepth, Nat.max_le, ih, List.forall_mem_cons]

theorem membersDepth_le_iff {members : List (String × Json)} {levels : Nat} :
    membersDepth members ≤ levels ↔ ∀ e ∈ members, e.2.depth ≤ levels := by
  induction members with
  | nil => exact iff_of_true (Nat.zero_le _) (List.forall_mem_nil _)
  | cons e members ih => rw [membersDepth, Nat.max_le, ih, List.forall_mem_cons]

/-- An array takes one level, and its items take the levels below. -/
theorem exists_of_depth_arr_le {items : List Json} {levels : Nat}
    (h : (arr items).depth ≤ levels) :
    ∃ below, levels = below + 1 ∧ ∀ v ∈ items, v.depth ≤ below := by
  rw [depth] at h
  obtain ⟨below, rfl⟩ := Nat.exists_eq_add_of_le' (Nat.le_trans (Nat.le_add_left 1 _) h)
  exact ⟨below, rfl, itemsDepth_le_iff.1 (Nat.le_of_add_le_add_right h)⟩

/-- An object takes one level, and its members take the levels below. -/
theorem exists_of_depth_obj_le {members : List (String × Json)} {levels : Nat}
    (h : (obj members).depth ≤ levels) :
    ∃ below, levels = below + 1 ∧ ∀ e ∈ members, e.2.depth ≤ below := by
  rw [depth] at h
  obtain ⟨below, rfl⟩ := Nat.exists_eq_add_of_le' (Nat.le_trans (Nat.le_add_left 1 _) h)
  exact ⟨below, rfl, membersDepth_le_iff.1 (Nat.le_of_add_le_add_right h)⟩

end Json

/-- **JSON of any kind is read as it is.** -/
theorem readFree_ofJson {v : Json} (h : v.IsSorted) {levels : Nat} (hd : v.depth ≤ levels) :
    readFree levels (.ofJson v) = .ok v := by
  induction h generalizing levels with
  | null | bool | number | str => rfl
  | @arr items _ ih =>
    obtain ⟨below, rfl, hbelow⟩ := exists_of_depth_arr_le hd
    have hitems : readItems (readFree below) (ParseTree.ofItems (items.map id)) = .ok items :=
      readItems_map fun v hv => ih v hv (hbelow v hv)
    rw [List.map_id] at hitems
    rw [ParseTree.ofJson, readFree, descend]
    dsimp only [bind, Except.bind]
    rw [readFreeItems_eq, hitems]
    rfl
  | @obj members hordered _ ih =>
    obtain ⟨below, rfl, hbelow⟩ := exists_of_depth_obj_le hd
    have hmembers : readMembers (readFree below)
        (ParseTree.ofMembers (members.map fun e => (e.1, id e.2))) = .ok members :=
      readMembers_map fun e he => ih e he (hbelow e he)
    have hsame : members.map (fun e => (e.1, id e.2)) = members := List.map_id members
    rw [hsame] at hmembers
    rw [ParseTree.ofJson, readFree, descend]
    dsimp only [bind, Except.bind]
    rw [readFreeMembers_eq, hmembers]
    exact congrArg Except.ok (objectOf_of_ordered hordered)

/-! ## Values that their JSON tells apart -/

/-- The names of the fields of a record. -/
def Fields.names : Fields → List String
  | .nil => []
  | .required name _ rest => name :: rest.names
  | .sparse name _ rest => name :: rest.names

/-- Every one of some values has a property. -/
def Each {α : Type} (p : α → Prop) (vs : List α) : Prop :=
  ∀ v ∈ vs, p v

mutual

/-- The JSON of the value tells it apart.  Nothing is promised of floating-point numbers. -/
def Schema.Keeps : (s : Schema) → s.Value → Prop
  | .free, v => Json.IsSorted v
  | .text, _ => True
  | .flag, _ => True
  | .integer _, _ => True
  | .float _, _ => False
  | .time, i => Instant.parse? (Instant.toText i) = some i
  | .optional _, none => True
  | .optional s, some v => s.write v ≠ .null ∧ s.Keeps v
  | .list s, vs => Each s.Keeps vs
  | .pair s, (v, w) => s.Keeps v ∧ s.Keeps w
  | .dictionary s, es => @Ordered s.Value es ∧ Each (fun e => s.Keeps e.2) es
  | .record _ fields, vs => fields.names.Nodup ∧ fields.Keeps vs

/-- The members of a record tell its values apart. -/
def Fields.Keeps : (fields : Fields) → fields.Value → Prop
  | .nil, _ => True
  | .required _ s rest, (v, vs) => s.Keeps v ∧ rest.Keeps vs
  | .sparse _ _ rest, (none, vs) => rest.Keeps vs
  | .sparse _ s rest, (some v, vs) => (s.write v ≠ .null ∧ s.Keeps v) ∧ rest.Keeps vs

end

/-! ## The fields of a record -/

section Sparse

variable {name : String} {s : Schema} {rest : Fields} {o : Option s.Value} {vs : rest.Value}

theorem Fields.keeps_sparse_iff :
    (Fields.sparse name s rest).Keeps (o, vs) ↔
      (∀ v ∈ o, s.write v ≠ .null ∧ s.Keeps v) ∧ rest.Keeps vs := by
  cases o with
  | none => exact (and_iff_right nofun).symm
  | some v => exact and_congr_left' ⟨fun h _ hv => Option.some.inj hv ▸ h, fun h => h v rfl⟩

theorem Fields.forall_mem_write_sparse_iff {p : String × Json → Prop} :
    (∀ e ∈ (Fields.sparse name s rest).write (o, vs), p e) ↔
      (∀ v ∈ o, p (name, s.write v)) ∧ ∀ e ∈ rest.write vs, p e := by
  cases o with
  | none => exact (and_iff_right nofun).symm
  | some v =>
    refine List.forall_mem_cons.trans (and_congr_left' ?_)
    exact ⟨fun h _ hv => Option.some.inj hv ▸ h, fun h => h v rfl⟩

end Sparse

/-- What has been read of a record once all its members have been read. -/
def Fields.filled : (fields : Fields) → fields.Value → fields.Slots
  | .nil, _ => ()
  | .required _ _ rest, (v, vs) => (some v, rest.filled vs)
  | .sparse _ _ rest, (none, vs) => (none, rest.filled vs)
  | .sparse _ _ rest, (some v, vs) => (some (some v), rest.filled vs)

/-- Fields that are all filled make up the record. -/
theorem Fields.finish_filled :
    (fields : Fields) → (vs : fields.Value) → fields.finish (fields.filled vs) = .ok vs
  | .nil, () => rfl
  | .required name s rest, (v, vs) => by
    have hstep : (required name s rest).finish ((required name s rest).filled (v, vs)) =
        (rest.finish (rest.filled vs)).bind fun vs => .ok (v, vs) := rfl
    rw [hstep, rest.finish_filled vs]
    rfl
  | .sparse name s rest, (none, vs) => by
    have hstep : (sparse name s rest).finish ((sparse name s rest).filled (none, vs)) =
        (rest.finish (rest.filled vs)).bind fun vs => .ok (none, vs) := rfl
    rw [hstep, rest.finish_filled vs]
    rfl
  | .sparse name s rest, (some v, vs) => by
    have hstep : (sparse name s rest).finish ((sparse name s rest).filled (some v, vs)) =
        (rest.finish (rest.filled vs)).bind fun vs => .ok (some v, vs) := rfl
    rw [hstep, rest.finish_filled vs]
    rfl

/-- Only fields are written. -/
theorem Fields.mem_names_of_mem_write :
    (fields : Fields) → (vs : fields.Value) → ∀ e ∈ fields.write vs, e.1 ∈ fields.names
  | .nil, () => by
    intro e he
    exact absurd he List.not_mem_nil
  | .required name s rest, (v, vs) => by
    intro e he
    rw [Fields.write, List.mem_cons] at he
    rcases he with rfl | he
    · exact List.mem_cons_self
    · exact List.mem_cons_of_mem _ (rest.mem_names_of_mem_write vs e he)
  | .sparse name s rest, (none, vs) => by
    intro e he
    rw [Fields.write] at he
    exact List.mem_cons_of_mem _ (rest.mem_names_of_mem_write vs e he)
  | .sparse name s rest, (some v, vs) => by
    intro e he
    rw [Fields.write, List.mem_cons] at he
    rcases he with rfl | he
    · exact List.mem_cons_self
    · exact List.mem_cons_of_mem _ (rest.mem_names_of_mem_write vs e he)

/-- Members that leave a part of what has been read as it is are read into the other part. -/
theorem readSlots_map {σ τ : Type} {put : String → ParseTree → σ → Except ReadError σ}
    {put' : String → ParseTree → τ → Except ReadError τ} (f : σ → τ)
    {members : List (String × Json)}
    (h : ∀ e ∈ members, ∀ t slots, put' e.1 t (f slots) = (put e.1 t slots).map f) (slots : σ) :
    readSlots put' (f slots) (ParseTree.ofMembers members) =
      (readSlots put slots (ParseTree.ofMembers members)).map f := by
  induction members generalizing slots with
  | nil => rfl
  | cons e members ih =>
    obtain ⟨he, hmembers⟩ := List.forall_mem_cons.1 h
    rw [ParseTree.ofMembers, readSlots_cons, readSlots_cons, he]
    cases put e.1 (.ofJson e.2) slots with
    | error cause => rfl
    | ok slots => exact ih hmembers slots

/-- A member that can be read is read, and then the others. -/
theorem readSlots_of_put {σ : Type} {put : String → ParseTree → σ → Except ReadError σ}
    {key : String} {t : ParseTree} {slots slots' : σ} (h : put key t slots = .ok slots')
    (members : List (Option String × ParseTree)) :
    readSlots put slots ((some key, t) :: members) = readSlots put slots' members := by
  rw [readSlots_cons, h]
  rfl

/-- Members of the further fields of a record leave its first field, named `name`, as it is. -/
theorem readSlots_rest {τ : Type} {origin : Origin} {levels : Nat} {name : String} {rest : Fields}
    {vs : rest.Value} (hname : name ∉ rest.names)
    {put' : String → ParseTree → τ → Except ReadError τ} (f : rest.Slots → τ)
    (hput : ∀ key, key ≠ name → ∀ t slots,
      put' key t (f slots) = (rest.put origin levels key t slots).map f)
    (h : readSlots (rest.put origin levels) rest.noSlots (ParseTree.ofMembers (rest.write vs)) =
      .ok (rest.filled vs)) :
    readSlots put' (f rest.noSlots) (ParseTree.ofMembers (rest.write vs)) =
      .ok (f (rest.filled vs)) := by
  have hothers : ∀ e ∈ rest.write vs, ∀ t slots,
      put' e.1 t (f slots) = (rest.put origin levels e.1 t slots).map f := by
    intro e he
    refine hput e.1 fun heq => hname ?_
    rw [← heq]
    exact rest.mem_names_of_mem_write vs e he
  rw [readSlots_map f hothers, h]
  rfl

/-! ## Reading what was written -/

/-- What is not `null` is no tree of `null`. -/
theorem ofJson_ne_null {v : Json} (h : v ≠ .null) : ParseTree.ofJson v ≠ .null := by
  cases v with
  | null => exact absurd rfl h
  | bool | number | str | arr | obj =>
    rw [ParseTree.ofJson]
    exact nofun

-- The recursion is that of reading: each container takes one level off the bound, and its items or
-- members are bounded by what is left.
mutual

/-- **A value comes back from its JSON.** -/
theorem Schema.read_write (origin : Origin) :
    (s : Schema) → (v : s.Value) → {levels : Nat} → s.Keeps v → (s.write v).depth ≤ levels →
      s.read origin levels (.ofJson (s.write v)) = .ok v
  | .free, v, levels, h, hd => readFree_ofJson h hd
  | .text, _, _, _, _ => rfl
  | .flag, _, _, _, _ => rfl
  | .integer range, n, _, _, _ => read_integer range n
  | .float _, _, _, h, _ => h.elim
  | .time, _, _, h, _ => read_time h
  | .optional s, none, _, _, _ => rfl
  | .optional s, some v, levels, h, hd => by
    have hread := Schema.read_write origin s v h.2 hd
    exact (read_optional (ofJson_ne_null h.1)).trans (congrArg (Except.map some) hread)
  | .list s, vs, levels, h, hd => by
    obtain ⟨below, rfl, hbelow⟩ := exists_of_depth_arr_le hd
    refine read_list (readItems_map fun v hv => ?_)
    exact Schema.read_write origin s v (h v hv) (hbelow _ (List.mem_map_of_mem hv))
  | .pair s, (v, w), levels, h, hd => by
    obtain ⟨below, rfl, hbelow⟩ := exists_of_depth_arr_le hd
    refine read_pair ?_ ?_
    · exact Schema.read_write origin s v h.1 (hbelow _ List.mem_cons_self)
    · exact Schema.read_write origin s w h.2
        (hbelow _ (List.mem_cons_of_mem _ List.mem_cons_self))
  | .dictionary s, es, levels, h, hd => by
    obtain ⟨below, rfl, hbelow⟩ := exists_of_depth_obj_le hd
    refine (read_dictionary (readMembers_map fun e he => ?_)).trans ?_
    · exact Schema.read_write origin s e.2 (h.2 e he) (hbelow _ (List.mem_map_of_mem he))
    · exact congrArg Except.ok (foldl_insertEntry_of_ordered h.1)
  | .record name fields, vs, levels, h, hd => by
    obtain ⟨below, rfl, hbelow⟩ := exists_of_depth_obj_le hd
    exact (read_record (Fields.readSlots_write origin fields vs h.1 h.2 hbelow)).trans
      (fields.finish_filled vs)

/-- **The members of a record are read into its fields.** -/
theorem Fields.readSlots_write (origin : Origin) :
    (fields : Fields) → (vs : fields.Value) → {levels : Nat} → fields.names.Nodup →
      fields.Keeps vs → (∀ e ∈ fields.write vs, e.2.depth ≤ levels) →
      readSlots (fields.put origin levels) fields.noSlots (ParseTree.ofMembers (fields.write vs)) =
        .ok (fields.filled vs)
  | .nil, (), _, _, _, _ => rfl
  | .required name s rest, (v, vs), levels, hnames, h, hd => by
    obtain ⟨hname, hrest⟩ := List.nodup_cons.1 hnames
    obtain ⟨hdepth, hdepths⟩ := List.forall_mem_cons.1 hd
    have hput : (Fields.required name s rest).put origin levels name (.ofJson (s.write v))
        (none, rest.noSlots) = .ok (some v, rest.noSlots) :=
      Fields.put_required_of_read (Schema.read_write origin s v h.1 hdepth)
    have hothers := Fields.readSlots_write origin rest vs hrest h.2 hdepths
    refine (readSlots_of_put hput _).trans ?_
    exact readSlots_rest hname (fun slots => (some v, slots))
      (fun _ hne _ _ => Fields.put_required_of_ne hne) hothers
  | .sparse name s rest, (none, vs), levels, hnames, h, hd => by
    -- nothing was written for the field, so it stays empty
    obtain ⟨hname, hrest⟩ := List.nodup_cons.1 hnames
    have hothers := Fields.readSlots_write origin rest vs hrest h hd
    exact readSlots_rest hname (fun slots => (none, slots))
      (fun _ hne _ _ => Fields.put_sparse_of_ne hne) hothers
  | .sparse name s rest, (some v, vs), levels, hnames, h, hd => by
    obtain ⟨hname, hrest⟩ := List.nodup_cons.1 hnames
    obtain ⟨hdepth, hdepths⟩ := List.forall_mem_cons.1 hd
    have hput : (Fields.sparse name s rest).put origin levels name (.ofJson (s.write v))
        (none, rest.noSlots) = .ok (some (some v), rest.noSlots) :=
      Fields.put_sparse_of_read (ofJson_ne_null h.1.1)
        (Schema.read_write origin s v h.1.2 hdepth)
    have hothers := Fields.readSlots_write origin rest vs hrest h.2 hdepths
    refine (readSlots_of_put hput _).trans ?_
    exact readSlots_rest hname (fun slots => (some (some v), slots))
      (fun _ hne _ _ => Fields.put_sparse_of_ne hne) hothers

end

/-- **A value comes back from its text**, if its numbers are integers of 64 bits. -/
theorem Schema.readText_write {s : Schema} {v : s.Value} (h : s.Keeps v)
    (hintegral : (s.write v).IsIntegral) (hd : (s.write v).depth ≤ maxLevels) :
    s.readText (bytesOf (s.write v).render) = .ok v := by
  have hread := Schema.read_write .text s v h hd
  rw [Schema.readText, parse_render hintegral]
  dsimp only
  rw [hread]
  rfl

end TypedGraphQL
