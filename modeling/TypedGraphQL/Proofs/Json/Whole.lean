import TypedGraphQL.Json.ParseTree

/-!
# Below a closed container everything is whole

A parse tree may be damaged, and then every container around the damage carries it too.  So if the
tree of a text is an object that was closed, nothing in it was broken off, and each of its members
can be passed over.  This is an invariant of the builder: whatever waits in an open container is
whole, and damage ends the text at once.

## What is here

* `ParseTree.IsWhole` — the tree can be passed over.
* `Builder.IsWhole` — the invariant; `Builder.IsWhole.step`, `Builder.IsWhole.run`.
* `isWhole_of_parse` — the members of a closed object.
-/

set_option autoImplicit false

namespace TypedGraphQL.Json

/-! ## Whole trees -/

/-- The tree can be passed over. -/
def ParseTree.IsWhole (t : ParseTree) : Prop :=
  t.skip? = none

/-- If the tree is an object that was closed, its members are whole. -/
def ParseTree.HasWholeMembers (t : ParseTree) : Prop :=
  ∀ members, t = .object members none → ∀ m ∈ members, m.2.IsWhole

/-- What a frame holds is whole. -/
def Frame.IsWhole : Frame → Prop
  | .item items => ∀ t ∈ items, t.IsWhole
  | .member members _ => ∀ m ∈ members, m.2.IsWhole

/-- What waits in open containers is whole. -/
def Builder.IsWhole : Builder → Prop
  | .value around => ∀ f ∈ around, f.IsWhole
  | .firstItem around => ∀ f ∈ around, f.IsWhole
  | .firstKey around => ∀ f ∈ around, f.IsWhole
  | .afterItem items around => (∀ t ∈ items, t.IsWhole) ∧ ∀ f ∈ around, f.IsWhole
  | .nextKey members around => (∀ m ∈ members, m.2.IsWhole) ∧ ∀ f ∈ around, f.IsWhole
  | .afterKey members _ around => (∀ m ∈ members, m.2.IsWhole) ∧ ∀ f ∈ around, f.IsWhole
  | .afterMember members around => (∀ m ∈ members, m.2.IsWhole) ∧ ∀ f ∈ around, f.IsWhole
  | .complete tree _ => tree.HasWholeMembers

namespace Builder

variable {around : List Frame}

/-! ## Values that are put into place -/

/-- A whole tree goes into the innermost container. -/
theorem isWhole_put {t : ParseTree} (ht : t.IsWhole) (hm : t.HasWholeMembers)
    (h : ∀ f ∈ around, f.IsWhole) : (put t around).IsWhole := by
  cases around with
  | nil => exact hm
  | cons f around =>
    obtain ⟨hf, haround⟩ := List.forall_mem_cons.1 h
    cases f with
    | item items => exact ⟨List.forall_mem_cons.2 ⟨ht, hf⟩, haround⟩
    | member members key => exact ⟨List.forall_mem_cons.2 ⟨ht, hf⟩, haround⟩

/-- The same for a tree that is no closed object. -/
theorem isWhole_put_of_ne {t : ParseTree} (ht : t.IsWhole)
    (hne : ∀ members, t ≠ .object members none) (h : ∀ f ∈ around, f.IsWhole) :
    (put t around).IsWhole :=
  isWhole_put ht (fun members heq => absurd heq (hne members)) h

/-- An object that is closed has whole members. -/
theorem isWhole_put_object {members : List (Option String × ParseTree)}
    (hm : ∀ m ∈ members, m.2.IsWhole) (h : ∀ f ∈ around, f.IsWhole) :
    (put (.object members none) around).IsWhole := by
  refine isWhole_put rfl (fun members' heq => ?_) h
  cases heq
  exact hm

/-! ## Damage -/

/-- Damage closes no object. -/
theorem abandon_ne (d : Damage) {t : ParseTree} (hne : ∀ members, t ≠ .object members none)
    (members : List (Option String × ParseTree)) : abandon d t around ≠ .object members none := by
  induction around generalizing t with
  | nil => exact hne members
  | cons f around ih =>
    cases f with
    | item items => exact ih nofun
    | member members' key => exact ih nofun

theorem isWhole_breakValue (d : Damage) : (breakValue d around).HasWholeMembers := by
  have hne : ∀ members, ParseTree.broken d ≠ .object members none := nofun
  exact fun members heq => absurd heq (abandon_ne d hne members)

theorem isWhole_breakArray (d : Damage) (items : List ParseTree) :
    (breakArray d items around).HasWholeMembers := by
  have hne : ∀ members, ParseTree.array items.reverse (some d) ≠ .object members none := nofun
  exact fun members heq => absurd heq (abandon_ne d hne members)

theorem isWhole_breakObject (d : Damage) (members : List (Option String × ParseTree)) :
    (breakObject d members around).HasWholeMembers := by
  have hne : ∀ members', ParseTree.object members.reverse (some d) ≠ .object members' none := nofun
  exact fun members' heq => absurd heq (abandon_ne d hne members')

/-! ## One token -/

theorem isWhole_startValue (t : Token) (h : ∀ f ∈ around, f.IsWhole) :
    (startValue t around).IsWhole := by
  cases t with
  | null | bool | number | str => exact isWhole_put_of_ne rfl nofun h
  | openArray | openObject => exact h
  | closeArray | closeObject | comma | colon | brokenStr | broken => exact isWhole_breakValue _

theorem isWhole_startKey (t : Token) {members : List (Option String × ParseTree)}
    (hm : ∀ m ∈ members, m.2.IsWhole) (h : ∀ f ∈ around, f.IsWhole) :
    (startKey t members around).IsWhole := by
  cases t with
  | str s => exact ⟨hm, h⟩
  | null | bool | number | openArray | closeArray | openObject | closeObject | comma | colon
  | brokenStr | broken => exact isWhole_breakObject _ members

theorem step_firstItem {t : Token} (ht : t ≠ .closeArray) :
    (firstItem around).step t = startValue t (.item [] :: around) := by
  cases t <;> first | rfl | exact absurd rfl ht

theorem step_firstKey {t : Token} (ht : t ≠ .closeObject) :
    (firstKey around).step t = startKey t [] around := by
  cases t <;> first | rfl | exact absurd rfl ht

/-- **Every token leaves what waits whole.** -/
theorem IsWhole.step {state : Builder} (h : state.IsWhole) (t : Token) :
    (state.step t).IsWhole := by
  cases state with
  | value around => exact isWhole_startValue t h
  | firstItem around =>
    by_cases ht : t = .closeArray
    · rw [ht]
      exact isWhole_put_of_ne rfl nofun h
    · rw [step_firstItem ht]
      exact isWhole_startValue t (List.forall_mem_cons.2 ⟨List.forall_mem_nil _, h⟩)
  | afterItem items around =>
    obtain ⟨hi, h⟩ := h
    cases t with
    | comma => exact List.forall_mem_cons.2 ⟨hi, h⟩
    | closeArray => exact isWhole_put_of_ne rfl nofun h
    | null | bool | number | str | openArray | openObject | closeObject | colon | brokenStr
    | broken => exact isWhole_breakArray _ items
  | firstKey around =>
    by_cases ht : t = .closeObject
    · rw [ht]
      exact isWhole_put_object (List.forall_mem_nil _) h
    · rw [step_firstKey ht]
      exact isWhole_startKey t (List.forall_mem_nil _) h
  | nextKey members around => exact isWhole_startKey t h.1 h.2
  | afterKey members key around =>
    obtain ⟨hm, h⟩ := h
    cases t with
    | colon => exact List.forall_mem_cons.2 ⟨hm, h⟩
    | null | bool | number | str | openArray | closeArray | openObject | closeObject | comma
    | brokenStr | broken => exact isWhole_breakValue _
  | afterMember members around =>
    obtain ⟨hm, h⟩ := h
    cases t with
    | comma => exact ⟨hm, h⟩
    | closeObject =>
      exact isWhole_put_object (fun m hmem => hm m (List.mem_reverse.1 hmem)) h
    | null | bool | number | str | openArray | closeArray | openObject | colon | brokenStr
    | broken => exact isWhole_breakObject _ members
  | complete tree trailing => exact h

/-- **So do all tokens of a text.** -/
theorem IsWhole.run {state : Builder} (h : state.IsWhole) (s : Bytes) : (state.run s).IsWhole := by
  induction hn : s.length using Nat.strongRecOn generalizing state s with
  | ind n ih =>
    cases htok : nextToken? s with
    | none =>
      rw [run_of_none htok]
      exact h
    | some found =>
      obtain ⟨t, rest⟩ := found
      rw [run_of_some htok]
      have hlt : rest.length < n := by
        rw [← hn]
        exact nextToken?_shorter htok
      exact ih rest.length hlt (h.step t) rest rfl

/-- The end of the text closes no object. -/
theorem IsWhole.finish {state : Builder} (h : state.IsWhole) : state.finish.1.HasWholeMembers := by
  cases state with
  | complete tree trailing => exact h
  | value | afterKey => exact isWhole_breakValue _
  | firstItem | afterItem => exact isWhole_breakArray _ _
  | firstKey | nextKey | afterMember => exact isWhole_breakObject _ _

end Builder

/-- **The members of an object that was closed are whole.** -/
theorem isWhole_of_parse {s : Bytes} {members : List (Option String × ParseTree)} {trailing : Bool}
    (h : parse s = (.object members none, trailing)) : ∀ m ∈ members, m.2.IsWhole := by
  have hstart : (Builder.value []).IsWhole := List.forall_mem_nil _
  have hfinish := (hstart.run s).finish
  rw [parse] at h
  rw [h] at hfinish
  exact hfinish members rfl

end TypedGraphQL.Json
