import TypedGraphQL.Proofs.Schema.Readable

/-!
# The members of a record

The members of an object are read one after the other into the slots of a record.  If this
succeeds, every slot was filled at most once, so the members may as well come in another order.  In
particular any member may come last, and what it does there can be said in a few words: a member
without a field does nothing, and `null` fills an empty slot with what an empty slot counts as.

## What is here

* `Fields.types`, `Fields.type?` — the types of the fields.
* `putSlot` — what a member does to one slot in front of others; `Fields.induction_put` — a record
  is read slot by slot, so what holds of one slot holds of it.
* `Commutes`, `Fields.commutes_put` — two members that are read in one order are read in the other.
* `readSlots_perm`, `readSlots_insert_iff` — the members in another order, and one of them last.
* `Fields.put_of_type?_eq_none`, `Fields.put_congr` — a member without a field, and one with.
* `Fields.exists_put_null`, `Fields.finish_put_null` — a member that is `null`.
* `Fields.readArray_congr` — fields that are listed in an array.
-/

set_option autoImplicit false

namespace TypedGraphQL

open Json

/-! ## The types of fields -/

/-- The names of the fields of a record, and the types of what is read into them. -/
def Fields.types : Fields → List (String × Schema)
  | .nil => []
  | .required name s rest => (name, s) :: rest.types
  | .sparse name s rest => (name, .optional s) :: rest.types

/-- The type of what is read into the field of a name. -/
def Fields.type? (fields : Fields) (name : String) : Option Schema :=
  lookup? name fields.types

/-! ## One member and one slot -/

section Slot

variable {α σ : Type} {name key : String} {read : ParseTree → Except ReadError α}
  {put : String → ParseTree → σ → Except ReadError σ} {t : ParseTree}
  {slot slot' : Option α} {slots slots' : σ}

/-- Reads a member into the slot of its name, which must be empty, or passes it on. -/
def putSlot (name : String) (read : ParseTree → Except ReadError α)
    (put : String → ParseTree → σ → Except ReadError σ) (key : String) (t : ParseTree)
    (slots : Option α × σ) : Except ReadError (Option α × σ) :=
  if key = name then
    if slots.1.isSome then .error (.mismatch (.duplicateField name))
    else (read t).map fun v => (some v, slots.2)
  else (put key t slots.2).map fun rest => (slots.1, rest)

theorem putSlot_self_eq_ok_iff :
    putSlot name read put name t (slot, slots) = .ok (slot', slots') ↔
      slot = none ∧ (∃ v, read t = .ok v ∧ some v = slot') ∧ slots = slots' := by
  rw [putSlot, if_pos rfl]
  cases slot with
  | none =>
    refine map_eq_ok_iff.trans ?_
    simp only [Prod.mk.injEq, true_and, ← and_assoc, exists_and_right]
  | some v => exact ⟨nofun, nofun⟩

theorem putSlot_of_ne_eq_ok_iff (h : key ≠ name) :
    putSlot name read put key t (slot, slots) = .ok (slot', slots') ↔
      slot = slot' ∧ put key t slots = .ok slots' := by
  rw [putSlot, if_neg h, map_eq_ok_iff]
  simp only [Prod.mk.injEq]
  constructor
  · rintro ⟨_, hput, hslot, rfl⟩
    exact ⟨hslot, hput⟩
  · rintro ⟨hslot, hput⟩
    exact ⟨_, hput, hslot, rfl⟩

/-- Two members that are read in one order are read in the other, to the same end, and members of
different names that can both be read can be read one after the other. -/
structure Commutes (put : String → ParseTree → σ → Except ReadError σ) : Prop where
  swap : ∀ key t key' t' slots next slots', put key t slots = .ok next →
    put key' t' next = .ok slots' →
    ∃ next', put key' t' slots = .ok next' ∧ put key t next' = .ok slots'
  meet : ∀ key t key' t' slots next next', key ≠ key' → put key t slots = .ok next →
    put key' t' slots = .ok next' → ∃ slots', put key' t' next = .ok slots'

/-- **Members for different slots do not meet, and two for the same are refused.** -/
theorem Commutes.putSlot (h : Commutes put) : Commutes (putSlot name read put) where
  swap := by
    rintro key t key' t' ⟨slot, slots⟩ ⟨next, nexts⟩ ⟨slot', slots'⟩ hput hput'
    by_cases hkey : key = name
    · subst hkey
      obtain ⟨rfl, ⟨v, hv, rfl⟩, rfl⟩ := putSlot_self_eq_ok_iff.1 hput
      by_cases hkey' : key' = key
      · subst hkey'
        exact absurd (putSlot_self_eq_ok_iff.1 hput').1 nofun
      · obtain ⟨rfl, hrest⟩ := (putSlot_of_ne_eq_ok_iff hkey').1 hput'
        exact ⟨(none, slots'), (putSlot_of_ne_eq_ok_iff hkey').2 ⟨rfl, hrest⟩,
          putSlot_self_eq_ok_iff.2 ⟨rfl, ⟨v, hv, rfl⟩, rfl⟩⟩
    · obtain ⟨rfl, hrest⟩ := (putSlot_of_ne_eq_ok_iff hkey).1 hput
      by_cases hkey' : key' = name
      · subst hkey'
        obtain ⟨rfl, ⟨v, hv, rfl⟩, rfl⟩ := putSlot_self_eq_ok_iff.1 hput'
        exact ⟨(some v, slots), putSlot_self_eq_ok_iff.2 ⟨rfl, ⟨v, hv, rfl⟩, rfl⟩,
          (putSlot_of_ne_eq_ok_iff hkey).2 ⟨rfl, hrest⟩⟩
      · obtain ⟨rfl, hrest'⟩ := (putSlot_of_ne_eq_ok_iff hkey').1 hput'
        obtain ⟨between, hfirst, hsecond⟩ := h.swap key t key' t' slots nexts slots' hrest hrest'
        exact ⟨(slot, between), (putSlot_of_ne_eq_ok_iff hkey').2 ⟨rfl, hfirst⟩,
          (putSlot_of_ne_eq_ok_iff hkey).2 ⟨rfl, hsecond⟩⟩
  meet := by
    rintro key t key' t' ⟨slot, slots⟩ ⟨next, nexts⟩ ⟨next', nexts'⟩ hne hput hput'
    by_cases hkey : key = name
    · subst hkey
      obtain ⟨rfl, ⟨v, hv, rfl⟩, rfl⟩ := putSlot_self_eq_ok_iff.1 hput
      obtain ⟨rfl, hrest⟩ := (putSlot_of_ne_eq_ok_iff hne.symm).1 hput'
      exact ⟨(some v, nexts'), (putSlot_of_ne_eq_ok_iff hne.symm).2 ⟨rfl, hrest⟩⟩
    · obtain ⟨rfl, hrest⟩ := (putSlot_of_ne_eq_ok_iff hkey).1 hput
      by_cases hkey' : key' = name
      · subst hkey'
        obtain ⟨rfl, ⟨v, hv, rfl⟩, rfl⟩ := putSlot_self_eq_ok_iff.1 hput'
        exact ⟨(some v, nexts), putSlot_self_eq_ok_iff.2 ⟨rfl, ⟨v, hv, rfl⟩, rfl⟩⟩
      · obtain ⟨rfl, hrest'⟩ := (putSlot_of_ne_eq_ok_iff hkey').1 hput'
        obtain ⟨slots', hslots'⟩ := h.meet key t key' t' slots nexts nexts' hne hrest hrest'
        exact ⟨(slot, slots'), (putSlot_of_ne_eq_ok_iff hkey').2 ⟨rfl, hslots'⟩⟩

end Slot

/-! ## All members -/

section Members

variable {σ : Type} {put : String → ParseTree → σ → Except ReadError σ} {slots slots' : σ}
  {key : String} {t t' : ParseTree} {members members' : List (Option String × ParseTree)}
  {before after : List (Option String × ParseTree)}

theorem readSlots_cons_eq_ok_iff {m : Option String × ParseTree} :
    readSlots put slots (m :: members) = .ok slots' ↔
      ∃ key, m.1 = some key ∧ ∃ next, put key m.2 slots = .ok next ∧
        readSlots put next members = .ok slots' := by
  obtain ⟨key, t⟩ := m
  have hread : ((readKey key).bind fun key => (put key t slots).bind fun next =>
      readSlots put next members) = .ok slots' ↔ ∃ k, key = some k ∧ ∃ next,
        put k t slots = .ok next ∧ readSlots put next members = .ok slots' := by
    simp only [bind_eq_ok_iff, readKey_eq_ok_iff]
  exact hread

theorem readSlots_append_eq_ok_iff :
    readSlots put slots (before ++ after) = .ok slots' ↔
      ∃ next, readSlots put slots before = .ok next ∧ readSlots put next after = .ok slots' := by
  induction before generalizing slots with
  | nil => exact ⟨fun h => ⟨slots, rfl, h⟩, fun ⟨_, h, h'⟩ => Except.ok.inj h ▸ h'⟩
  | cons m before ih =>
    rw [List.cons_append, readSlots_cons_eq_ok_iff]
    simp only [readSlots_cons_eq_ok_iff, ih]
    constructor
    · rintro ⟨key, hkey, next, hput, end', hbefore, hafter⟩
      exact ⟨end', ⟨key, hkey, next, hput, hbefore⟩, hafter⟩
    · rintro ⟨end', ⟨key, hkey, next, hput, hbefore⟩, hafter⟩
      exact ⟨key, hkey, next, hput, end', hbefore, hafter⟩

/-- **Members may come in any order**, if any two of them may. -/
theorem readSlots_perm (hput : Commutes put) (h : members.Perm members')
    (hread : readSlots put slots members = .ok slots') :
    readSlots put slots members' = .ok slots' := by
  induction h generalizing slots with
  | nil => exact hread
  | cons m _ ih =>
    obtain ⟨key, hkey, next, hfirst, hrest⟩ := readSlots_cons_eq_ok_iff.1 hread
    exact readSlots_cons_eq_ok_iff.2 ⟨key, hkey, next, hfirst, ih hrest⟩
  | swap m m' rest =>
    obtain ⟨key, hkey, next, hfirst, hmore⟩ := readSlots_cons_eq_ok_iff.1 hread
    obtain ⟨key', hkey', next', hsecond, hrest⟩ := readSlots_cons_eq_ok_iff.1 hmore
    obtain ⟨between, hfirst', hsecond'⟩ := hput.swap key _ key' _ slots next next' hfirst hsecond
    exact readSlots_cons_eq_ok_iff.2 ⟨key', hkey', between, hfirst',
      readSlots_cons_eq_ok_iff.2 ⟨key, hkey, next', hsecond', hrest⟩⟩
  | trans _ _ ih ih' => exact ih' (ih hread)

/-- **Any member may come last.** -/
theorem readSlots_insert_iff (hput : Commutes put) :
    readSlots put slots (before ++ (some key, t) :: after) = .ok slots' ↔
      ∃ next, readSlots put slots (before ++ after) = .ok next ∧ put key t next = .ok slots' := by
  have hperm : (before ++ (some key, t) :: after).Perm ((before ++ after) ++ [(some key, t)]) :=
    List.perm_middle.trans (List.perm_append_singleton _ _).symm
  have hlast : readSlots put slots (before ++ (some key, t) :: after) = .ok slots' ↔
      readSlots put slots ((before ++ after) ++ [(some key, t)]) = .ok slots' :=
    ⟨readSlots_perm hput hperm, readSlots_perm hput hperm.symm⟩
  rw [hlast, readSlots_append_eq_ok_iff]
  refine exists_congr fun next => and_congr_right' ?_
  rw [readSlots_cons_eq_ok_iff]
  constructor
  · rintro ⟨_, ⟨⟩, _, h, ⟨⟩⟩
    exact h
  · exact fun h => ⟨key, rfl, slots', h, rfl⟩

/-- A member that could be read first can be read after members of other names. -/
theorem Commutes.exists_put_of_readSlots (hput : Commutes put)
    (habsent : ∀ t', (some key, t') ∉ members) (hread : readSlots put slots members = .ok slots')
    {next : σ} (hfirst : put key t slots = .ok next) : ∃ next', put key t slots' = .ok next' := by
  induction members generalizing slots next with
  | nil =>
    cases hread
    exact ⟨next, hfirst⟩
  | cons m members ih =>
    obtain ⟨key', hkey', between, hm, hrest⟩ := readSlots_cons_eq_ok_iff.1 hread
    have hne : key' ≠ key := by
      rintro rfl
      exact habsent m.2 (List.mem_cons.2 (Or.inl (Prod.ext hkey'.symm rfl)))
    obtain ⟨next', hnext'⟩ := hput.meet key' m.2 key t slots between next hne hm hfirst
    exact ih (fun t' ht' => habsent t' (List.mem_cons_of_mem _ ht')) hrest hnext'

/-- A member may hold something else that does the same. -/
theorem readSlots_replace
    (h : ∀ slots slots', put key t slots = .ok slots' → put key t' slots = .ok slots')
    (hread : readSlots put slots (before ++ (some key, t) :: after) = .ok slots') :
    readSlots put slots (before ++ (some key, t') :: after) = .ok slots' := by
  obtain ⟨next, hbefore, hrest⟩ := readSlots_append_eq_ok_iff.1 hread
  obtain ⟨_, ⟨⟩, next', hput, hafter⟩ := readSlots_cons_eq_ok_iff.1 hrest
  exact readSlots_append_eq_ok_iff.2 ⟨next, hbefore,
    readSlots_cons_eq_ok_iff.2 ⟨key, rfl, next', h next next' hput, hafter⟩⟩

end Members

/-! ## The slots of a record -/

namespace Fields

variable {origin : Origin} {levels : Nat} {name key : String} {s : Schema} {rest fields : Fields}
  {t t' : ParseTree}

theorem put_required :
    (required name s rest).put origin levels =
      putSlot name (s.read origin levels) (rest.put origin levels) := by
  funext key t slots
  obtain ⟨slot, slots⟩ := slots
  by_cases h : key = name
  · subst h
    cases slot with
    | none => exact put_required_self.trans (if_pos rfl).symm
    | some v =>
      rw [put]
      exact (if_pos rfl).trans (if_pos rfl).symm
  · exact (put_required_of_ne h).trans (if_neg h).symm

theorem put_sparse :
    (sparse name s rest).put origin levels =
      putSlot name (s.optional.read origin levels) (rest.put origin levels) := by
  funext key t slots
  obtain ⟨slot, slots⟩ := slots
  by_cases h : key = name
  · subst h
    cases slot with
    | none => exact put_sparse_self.trans (if_pos rfl).symm
    | some v =>
      rw [put]
      exact (if_pos rfl).trans (if_pos rfl).symm
  · exact (put_sparse_of_ne h).trans (if_neg h).symm

/-- **What holds of one slot in front of others holds of a record**: of the slots, the types of the
fields, what a member does and the slots at the start. -/
theorem induction_put {P : (σ : Type) → List (String × Schema) →
      (String → ParseTree → σ → Except ReadError σ) → σ → Prop}
    (hnil : P Unit [] (fun _ t slots => (skip t).map fun _ => slots) ())
    (hcons : ∀ (name : String) (s : Schema) (σ : Type) (types : List (String × Schema))
      (put : String → ParseTree → σ → Except ReadError σ) (start : σ), P σ types put start →
      P (Option s.Value × σ) ((name, s) :: types) (putSlot name (s.read origin levels) put)
        (none, start)) :
    (fields : Fields) → P fields.Slots fields.types (fields.put origin levels) fields.noSlots
  | .nil => hnil
  | .required name s rest => by
    have hrest := hcons name s _ _ _ _ (induction_put hnil hcons rest)
    rw [← put_required] at hrest
    exact hrest
  | .sparse name s rest => by
    have hrest := hcons name s.optional _ _ _ _ (induction_put hnil hcons rest)
    rw [← put_sparse] at hrest
    exact hrest

/-- **The members of a record may come in any order.** -/
theorem commutes_put (fields : Fields) : Commutes (fields.put origin levels) := by
  refine induction_put (P := fun _ _ put _ => Commutes put) ⟨?_, ?_⟩ ?_ fields
  · exact fun _ _ _ _ _ next _ hput hput' => ⟨next, hput', hput⟩
  · exact fun _ _ _ _ _ _ next' _ _ hput' => ⟨next', hput'⟩
  · exact fun _ _ _ _ _ _ hrest => hrest.putSlot

/-- A member without a field is passed over. -/
theorem put_of_type?_eq_none (h : fields.type? key = none) (slots : fields.Slots) :
    fields.put origin levels key t slots = (skip t).map fun _ => slots := by
  refine induction_put (P := fun _ types put _ => lookup? key types = none →
    ∀ slots, put key t slots = (skip t).map fun _ => slots) (fun _ _ => rfl) ?_ fields h slots
  rintro name s σ types put start hrest h ⟨slot, slots⟩
  rw [lookup?] at h
  have hne : key ≠ name := by
    intro heq
    rw [if_pos heq] at h
    cases h
  rw [if_neg hne] at h
  rw [putSlot, if_neg hne, hrest h slots]
  cases skip t <;> rfl

/-- **A member counts for what its value is read as.** -/
theorem put_congr (h : fields.type? key = some s)
    (hread : ∀ v, s.read origin levels t = .ok v → s.read origin levels t' = .ok v)
    {slots slots' : fields.Slots} (hput : fields.put origin levels key t slots = .ok slots') :
    fields.put origin levels key t' slots = .ok slots' := by
  refine induction_put (P := fun _ types put _ => lookup? key types = some s →
    ∀ slots slots', put key t slots = .ok slots' → put key t' slots = .ok slots')
    nofun ?_ fields h slots slots' hput
  rintro name s' σ types put start hrest h ⟨slot, slots⟩ ⟨slot', slots'⟩ hput
  rw [lookup?] at h
  by_cases hkey : key = name
  · rw [if_pos hkey] at h
    cases h
    subst hkey
    obtain ⟨rfl, ⟨v, hv, rfl⟩, rfl⟩ := putSlot_self_eq_ok_iff.1 hput
    exact putSlot_self_eq_ok_iff.2 ⟨rfl, ⟨v, hread v hv, rfl⟩, rfl⟩
  · rw [if_neg hkey] at h
    obtain ⟨rfl, hmore⟩ := (putSlot_of_ne_eq_ok_iff hkey).1 hput
    exact (putSlot_of_ne_eq_ok_iff hkey).2 ⟨rfl, hrest h slots slots' hmore⟩

/-! ## Null -/

/-- An optional field can be set to `null`, to begin with. -/
theorem exists_put_null_noSlots (h : fields.type? name = some (.optional s)) :
    ∃ slots, fields.put origin levels name .null fields.noSlots = .ok slots := by
  refine induction_put (P := fun _ types put start => lookup? name types = some (.optional s) →
    ∃ slots, put name .null start = .ok slots) nofun ?_ fields h
  rintro name' s' σ types put start hrest h
  rw [lookup?] at h
  by_cases hname : name = name'
  · rw [if_pos hname] at h
    cases h
    subst hname
    exact ⟨(some none, start), putSlot_self_eq_ok_iff.2 ⟨rfl, ⟨none, rfl, rfl⟩, rfl⟩⟩
  · rw [if_neg hname] at h
    obtain ⟨slots, hslots⟩ := hrest h
    exact ⟨(none, slots), (putSlot_of_ne_eq_ok_iff hname).2 ⟨rfl, hslots⟩⟩

/-- It can still be set if no member has its name. -/
theorem exists_put_null (h : fields.type? name = some (.optional s))
    {members : List (Option String × ParseTree)} (habsent : ∀ t, (some name, t) ∉ members)
    {slots : fields.Slots}
    (hread : readSlots (fields.put origin levels) fields.noSlots members = .ok slots) :
    ∃ slots', fields.put origin levels name .null slots = .ok slots' := by
  obtain ⟨next, hnext⟩ := exists_put_null_noSlots h
  exact (commutes_put fields).exists_put_of_readSlots habsent hread hnext

theorem finish_required {slot : Option s.Value} {slots : rest.Slots} :
    (required name s rest).finish (slot, slots) =
      match slot.or s.missing? with
      | none => .error (.mismatch (.missingField name))
      | some v => (rest.finish slots).map fun vs => (v, vs) := by
  rw [finish]
  cases slot.or s.missing? with
  | none => rfl
  | some v => cases rest.finish slots <;> rfl

theorem finish_sparse {slot : Option (Option s.Value)} {slots : rest.Slots} :
    (sparse name s rest).finish (slot, slots) =
      (rest.finish slots).map fun vs => (slot.getD none, vs) := by
  rw [finish]
  cases rest.finish slots <;> rfl

/-- **What is `null` counts as what is missing.** -/
theorem finish_put_null : (fields : Fields) → {slots slots' : fields.Slots} →
    fields.type? name = some (.optional s) →
    fields.put origin levels name .null slots = .ok slots' →
      fields.finish slots' = fields.finish slots
  | .nil, _, _, h, _ => nomatch h
  | .required name' s' rest, (slot, slots), (slot', slots'), h, hput => by
    have hslot : putSlot name' (s'.read origin levels) (rest.put origin levels) name .null
        (slot, slots) = .ok (slot', slots') := by
      rw [← put_required]
      exact hput
    rw [type?, types, lookup?] at h
    by_cases hname : name = name'
    · rw [if_pos hname] at h
      cases h
      subst hname
      obtain ⟨rfl, ⟨v, ⟨⟩, rfl⟩, rfl⟩ := putSlot_self_eq_ok_iff.1 hslot
      refine finish_required.trans (Eq.trans ?_ finish_required.symm)
      rfl
    · rw [if_neg hname] at h
      obtain ⟨rfl, hmore⟩ := (putSlot_of_ne_eq_ok_iff hname).1 hslot
      refine finish_required.trans (Eq.trans ?_ finish_required.symm)
      rw [finish_put_null rest h hmore]
  | .sparse name' s' rest, (slot, slots), (slot', slots'), h, hput => by
    have hslot : putSlot name' (s'.optional.read origin levels) (rest.put origin levels) name .null
        (slot, slots) = .ok (slot', slots') := by
      rw [← put_sparse]
      exact hput
    rw [type?, types, lookup?] at h
    by_cases hname : name = name'
    · subst hname
      obtain ⟨rfl, ⟨v, ⟨⟩, rfl⟩, rfl⟩ := putSlot_self_eq_ok_iff.1 hslot
      refine finish_sparse.trans (Eq.trans ?_ finish_sparse.symm)
      rfl
    · rw [if_neg hname] at h
      obtain ⟨rfl, hmore⟩ := (putSlot_of_ne_eq_ok_iff hname).1 hslot
      refine finish_sparse.trans (Eq.trans ?_ finish_sparse.symm)
      rw [finish_put_null rest h hmore]

/-! ## Fields in an array -/

/-- **An item counts for what it is read as**, if the array lists the fields in their order. -/
theorem readArray_congr {phrase : String} {after : List ParseTree}
    (hread : ∀ v, s.read origin levels t = .ok v → s.read origin levels t' = .ok v) :
    (fields : Fields) → (before : List ParseTree) → {n : Nat} → {vs : fields.Value} →
      fields.types[before.length]?.map (·.2) = some s →
      fields.readArray origin levels phrase none n (before ++ t :: after) = .ok vs →
        fields.readArray origin levels phrase none n (before ++ t' :: after) = .ok vs
  | .nil, _, _, _, h, _ => nomatch h
  | .required name' s' rest, [], n, (v, vs), h, hitems => by
    cases h
    obtain ⟨w, hw, hmore⟩ := bind_eq_ok_iff.1 hitems
    exact bind_eq_ok_iff.2 ⟨w, hread w hw, hmore⟩
  | .required name' s' rest, a :: before, n, (v, vs), h, hitems => by
    obtain ⟨w, hw, hmore⟩ := bind_eq_ok_iff.1 hitems
    obtain ⟨ws, hws, hpair⟩ := bind_eq_ok_iff.1 hmore
    have hrest := readArray_congr hread rest before h hws
    exact bind_eq_ok_iff.2 ⟨w, hw, bind_eq_ok_iff.2 ⟨ws, hrest, hpair⟩⟩
  | .sparse name' s' rest, [], n, (v, vs), h, hitems => by
    cases h
    obtain ⟨w, hw, hmore⟩ := bind_eq_ok_iff.1 hitems
    exact bind_eq_ok_iff.2 ⟨w, hread w hw, hmore⟩
  | .sparse name' s' rest, a :: before, n, (v, vs), h, hitems => by
    obtain ⟨w, hw, hmore⟩ := bind_eq_ok_iff.1 hitems
    obtain ⟨ws, hws, hpair⟩ := bind_eq_ok_iff.1 hmore
    have hrest := readArray_congr hread rest before h hws
    exact bind_eq_ok_iff.2 ⟨w, hw, bind_eq_ok_iff.2 ⟨ws, hrest, hpair⟩⟩

end Fields

end TypedGraphQL
