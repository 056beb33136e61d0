import TypedGraphQL.Client
import TypedGraphQL.Proofs.Json.RoundTrip
import TypedGraphQL.Proofs.Schema.Members

/-!
# Errors and partial data

A response with errors amounts to its errors, whatever data it has.  But this is decided after the
whole response has been read, the data as the type asked for included, and data that come with
errors are often partial.  This file says what a body with errors decodes to: its errors exactly if
all keys can be read and the data are absent, `null` or readable as the type.  Otherwise the first
member that cannot be read is all that is seen.

## What is here

* `Response.put_data`, `Response.put_errors`, `Response.put_other` — what one member does.
* `Response.Hides`, `Response.problem?` — what is wrong with a member, the errors aside.
* `Response.ReadsTo` — how reading all members ends; `Response.readsTo`, by induction on them and in
  any order.
* `decode_of_errors` — what a body with errors decodes to.
-/

set_option autoImplicit false

namespace TypedGraphQL

open Json

/-! ## The members of a response -/

namespace Response

/-- The fields of a response. -/
def fields (target : Schema) : Fields :=
  .required "data" (.optional target) (.sparse "errors" (.list GraphQLError.schema) .nil)

/-- The levels that may still be entered inside the object of a response. -/
def innerLevels : Nat :=
  maxLevels - 1

/-- Reads the data of a response. -/
def readData (target : Schema) (t : ParseTree) : Except ReadError (Option target.Value) :=
  readNullable (target.read .text innerLevels) t

/-- Reads the errors of a response. -/
def readErrors (t : ParseTree) : Except ReadError (Option (List GraphQLError.schema.Value)) :=
  readNullable ((Schema.list GraphQLError.schema).read .text innerLevels) t

/-- What has been read so far: data and errors. -/
def slots {target : Schema} (data : Option (Option target.Value))
    (errors : Option (Option (List GraphQLError.schema.Value))) : (fields target).Slots :=
  (data, errors, ())

/-- Reads one member of a response. -/
def put (target : Schema) (key : String) (t : ParseTree) (slots : (fields target).Slots) :
    Except ReadError (fields target).Slots :=
  (fields target).put .text innerLevels key t slots

/-- A member that cannot be read, the errors aside, and why: its key is no text, or it has data that
are not of the type. -/
inductive Hides (target : Schema) : Option String × ParseTree → ReadError → Prop
  | key {t : ParseTree} : Hides target (none, t) (.flaw .malformed)
  | data {t : ParseTree} {cause : ReadError} (hne : t ≠ .null)
      (h : target.read .text innerLevels t = .error cause) : Hides target (some "data", t) cause

/-! ## One member -/

section Members

variable {target : Schema} {data : Option (Option target.Value)}
  {errors : Option (Option (List GraphQLError.schema.Value))} {t : ParseTree}

theorem put_data :
    put target "data" t (slots none errors) =
      (readData target t).map fun v => slots (some v) errors :=
  Fields.put_required_self

theorem put_errors :
    put target "errors" t (slots data none) = (readErrors t).map fun v => slots data (some v) := by
  refine (Fields.put_required_of_ne (by decide)).trans ?_
  refine (congrArg (Except.map _) Fields.put_sparse_self).trans ?_
  exact (comp_map _ (fun rest => (data, rest)) (readErrors t)).symm

theorem put_other {key : String} (hd : key ≠ "data") (he : key ≠ "errors") (ht : t.IsWhole) :
    put target key t (slots data errors) = .ok (slots data errors) := by
  refine (Fields.put_required_of_ne hd).trans ?_
  refine (congrArg (Except.map _) (Fields.put_sparse_of_ne he)).trans ?_
  exact congrArg (Except.map _) (congrArg (Except.map _) (Fields.put_nil_of_isWhole ht))

/-- What is wrong with a member, the errors aside. -/
def problem? (target : Schema) : Option String × ParseTree → Option ReadError
  | (none, _) => some (.flaw .malformed)
  | (some key, t) =>
    if key = "data" then
      match readData target t with
      | .ok _ => none
      | .error cause => some cause
    else none

theorem problem?_data :
    problem? target (some "data", t) =
      match readData target t with
      | .ok _ => none
      | .error cause => some cause := by
  rw [problem?]
  exact if_pos rfl

theorem problem?_of_ne {key : String} (h : key ≠ "data") :
    problem? target (some key, t) = none :=
  if_neg h

theorem problem?_eq_some_iff {m : Option String × ParseTree} {cause : ReadError} :
    problem? target m = some cause ↔ Hides target m cause := by
  obtain ⟨key, t⟩ := m
  cases key with
  | none =>
    constructor
    · intro h
      cases h
      exact .key
    · rintro ⟨⟩
      rfl
  | some key =>
    by_cases hd : key = "data"
    · subst hd
      have hread : problem? target (some "data", t) = some cause ↔
          readData target t = .error cause := by
        rw [problem?_data]
        cases readData target t <;> simp
      rw [hread, readData, readNullable_eq_error_iff]
      constructor
      · rintro ⟨hne, h⟩
        exact .data hne h
      · rintro ⟨⟩
        exact ⟨by assumption, by assumption⟩
    · rw [problem?_of_ne hd]
      refine ⟨nofun, fun h => ?_⟩
      cases h
      exact absurd rfl hd

theorem problem?_eq_none_iff {m : Option String × ParseTree} :
    problem? target m = none ↔ ∀ cause, ¬ Hides target m cause := by
  rw [Option.eq_none_iff_forall_ne_some]
  exact forall_congr' fun cause => not_congr problem?_eq_some_iff

theorem findSome?_problem?_eq_none_iff {members : List (Option String × ParseTree)} :
    members.findSome? (problem? target) = none ↔
      ∀ m ∈ members, ∀ cause, ¬ Hides target m cause := by
  rw [List.findSome?_eq_none_iff]
  simp only [problem?_eq_none_iff]

/-- The first problem is that of a member with none before it. -/
theorem findSome?_problem?_eq_some_iff {members : List (Option String × ParseTree)}
    {cause : ReadError} :
    members.findSome? (problem? target) = some cause ↔
      ∃ before m after, members = before ++ m :: after ∧ Hides target m cause ∧
        ∀ m' ∈ before, ∀ cause', ¬ Hides target m' cause' := by
  rw [List.findSome?_eq_some_iff]
  simp only [problem?_eq_some_iff, problem?_eq_none_iff]

/-- No member hides the errors if all keys can be read, and the data as well. -/
theorem not_hides_iff {members : List (Option String × ParseTree)} :
    (∀ m ∈ members, ∀ cause, ¬ Hides target m cause) ↔
      (∀ m ∈ members, m.1 ≠ none) ∧ ∀ t, (some "data", t) ∈ members →
        t = .null ∨ ∃ v, target.read .text innerLevels t = .ok v := by
  constructor
  · intro h
    refine ⟨fun m hm hkey => ?_, fun t ht => ?_⟩
    · obtain ⟨key, t⟩ := m
      obtain rfl : key = none := hkey
      exact h _ hm _ .key
    · by_cases hne : t = .null
      · exact Or.inl hne
      · cases hread : target.read .text innerLevels t with
        | ok v => exact Or.inr ⟨v, rfl⟩
        | error cause => exact absurd (.data hne hread) (h _ ht cause)
  · rintro ⟨hkeys, hdata⟩ m hm cause hm'
    cases hm' with
    | key => exact hkeys _ hm rfl
    | data hne hread =>
      rcases hdata _ hm with hnull | ⟨v, hv⟩
      · exact hne hnull
      · rw [hv] at hread
        cases hread

/-! ## All members -/

/-- A key that is there once is not found again. -/
theorem nodup_of_cons {members : List (Option String × ParseTree)} {key : String}
    (h : (((some key, t) :: members).filterMap (·.1)).Nodup) :
    (members.filterMap (·.1)).Nodup ∧ ∀ t', (some key, t') ∉ members := by
  have hcons : (key :: members.filterMap (·.1)).Nodup := h
  obtain ⟨hnot, hrest⟩ := List.nodup_cons.1 hcons
  exact ⟨hrest, fun t' ht' => hnot (List.mem_filterMap.2 ⟨_, ht', rfl⟩)⟩

/-- A key that is there once has one value. -/
theorem eq_of_mem {members : List (Option String × ParseTree)}
    (hdistinct : (members.filterMap (·.1)).Nodup) {key : String} {t' : ParseTree}
    (h : (some key, t) ∈ members) (h' : (some key, t') ∈ members) : t = t' := by
  induction members with
  | nil => cases h
  | cons m rest ih =>
    have hrest : (rest.filterMap (·.1)).Nodup :=
      hdistinct.sublist ((List.sublist_cons_self m rest).filterMap _)
    rcases List.mem_cons.1 h with heq | hmem
    · subst heq
      have hnot := (nodup_of_cons hdistinct).2
      rcases List.mem_cons.1 h' with heq | hmem'
      · exact (congrArg Prod.snd heq).symm
      · exact absurd hmem' (hnot t')
    · rcases List.mem_cons.1 h' with heq | hmem'
      · subst heq
        exact absurd hmem ((nodup_of_cons hdistinct).2 t)
      · exact ih hrest hmem hmem'

/-- How reading members ends: with their first problem, or with the errors `found` if they have been
read or are among the members. -/
structure ReadsTo (target : Schema) (found : Option (List GraphQLError.schema.Value))
    (data : Option (Option target.Value))
    (errors : Option (Option (List GraphQLError.schema.Value)))
    (members : List (Option String × ParseTree)) : Prop where
  of_problem : ∀ cause, members.findSome? (problem? target) = some cause →
    readSlots (put target) (slots data errors) members = .error cause
  of_none : members.findSome? (problem? target) = none → ∃ data' errors',
    readSlots (put target) (slots data errors) members = .ok (slots data' errors') ∧
      ((errors = some found ∨ ∃ t, (some "errors", t) ∈ members) → errors' = some found)

/-- A member without a problem goes in front. -/
theorem ReadsTo.cons {found : Option (List GraphQLError.schema.Value)}
    {members : List (Option String × ParseTree)} {key : String}
    {data' : Option (Option target.Value)}
    {errors' : Option (Option (List GraphQLError.schema.Value))}
    (hproblem : problem? target (some key, t) = none)
    (hput : put target key t (slots data errors) = .ok (slots data' errors'))
    (hpass : (errors = some found ∨ ∃ u, (some "errors", u) ∈ (some key, t) :: members) →
      errors' = some found ∨ ∃ u, (some "errors", u) ∈ members)
    (h : ReadsTo target found data' errors' members) :
    ReadsTo target found data errors ((some key, t) :: members) := by
  have hfirst : ((some key, t) :: members).findSome? (problem? target) =
      members.findSome? (problem? target) := by
    rw [List.findSome?_cons, hproblem]
  have hstep : readSlots (put target) (slots data errors) ((some key, t) :: members) =
      readSlots (put target) (slots data' errors') members := by
    rw [readSlots_cons, hput]
    rfl
  constructor
  · intro cause hcause
    rw [hstep]
    exact h.of_problem cause (hfirst ▸ hcause)
  · intro hnone
    obtain ⟨data'', errors'', hread, hend⟩ := h.of_none (hfirst ▸ hnone)
    exact ⟨data'', errors'', hstep.trans hread, fun hfound => hend (hpass hfound)⟩

/-- Behind a member with a problem nothing is read. -/
theorem ReadsTo.of_error {found : Option (List GraphQLError.schema.Value)}
    {members : List (Option String × ParseTree)} {key : String} {cause : ReadError}
    (hproblem : problem? target (some key, t) = some cause)
    (hput : put target key t (slots data errors) = .error cause) :
    ReadsTo target found data errors ((some key, t) :: members) := by
  have hfirst : ((some key, t) :: members).findSome? (problem? target) = some cause := by
    rw [List.findSome?_cons, hproblem]
  constructor
  · intro cause' hcause
    obtain rfl := Option.some.inj (hfirst.symm.trans hcause)
    rw [readSlots_cons, hput]
    rfl
  · intro hnone
    cases hfirst.symm.trans hnone

/-- A member that is not `errors` leaves what was said of them as it is. -/
theorem errors_mem_of_ne {members : List (Option String × ParseTree)} {key : String}
    (hne : key ≠ "errors") (h : ∃ u, (some "errors", u) ∈ (some key, t) :: members) :
    ∃ u, (some "errors", u) ∈ members := by
  obtain ⟨u, hu⟩ := h
  rcases List.mem_cons.1 hu with heq | hmem
  · cases heq
    exact absurd rfl hne
  · exact ⟨u, hmem⟩

/-- **The members of a response are read in any order.**  If the errors can be read, the first
problem of the other members is the problem of the response, and without a problem the errors are
kept. -/
theorem readsTo {members : List (Option String × ParseTree)}
    (hdistinct : (members.filterMap (·.1)).Nodup) (hwhole : ∀ m ∈ members, m.2.IsWhole)
    {found : Option (List GraphQLError.schema.Value)}
    (hfound : ∀ t, (some "errors", t) ∈ members → readErrors t = .ok found)
    (hdata : ∀ t, (some "data", t) ∈ members → data = none)
    (herrors : ∀ t, (some "errors", t) ∈ members → errors = none) :
    ReadsTo target found data errors members := by
  induction members generalizing data errors with
  | nil =>
    refine ⟨nofun, fun _ => ⟨data, errors, rfl, fun h => ?_⟩⟩
    exact h.resolve_right fun ⟨_, h⟩ => List.not_mem_nil h
  | cons m rest ih =>
    obtain ⟨key, t⟩ := m
    cases key with
    | none =>
      refine ⟨fun cause h => ?_, nofun⟩
      cases h
      rfl
    | some key =>
      obtain ⟨hrest, hnot⟩ := nodup_of_cons hdistinct
      obtain ⟨ht, hwhole'⟩ := List.forall_mem_cons.1 hwhole
      have hfound' := fun t h => hfound t (List.mem_cons_of_mem _ h)
      have hdata' := fun t h => hdata t (List.mem_cons_of_mem _ h)
      have herrors' := fun t h => herrors t (List.mem_cons_of_mem _ h)
      by_cases hd : key = "data"
      · -- from now on there are data, and no further member has them
        subst hd
        obtain rfl := hdata t List.mem_cons_self
        cases hread : readData target t with
        | error cause =>
          have hproblem : problem? target (some "data", t) = some cause := by
            rw [problem?_data, hread]
          have hput : put target "data" t (slots none errors) = .error cause := by
            rw [put_data, hread]
            rfl
          exact .of_error hproblem hput
        | ok v =>
          have hproblem : problem? target (some "data", t) = none := by
            rw [problem?_data, hread]
          have hput : put target "data" t (slots none errors) =
              .ok (slots (some v) errors) := by
            rw [put_data, hread]
            rfl
          have hbelow : ReadsTo target found (some v) errors rest :=
            ih hrest hwhole' hfound' (fun u hu => absurd hu (hnot u)) herrors'
          exact hbelow.cons hproblem hput (Or.imp_right (errors_mem_of_ne (by decide)))
      · have hproblem : problem? target (some key, t) = none := problem?_of_ne hd
        by_cases he : key = "errors"
        · subst he
          obtain rfl := herrors t List.mem_cons_self
          have hput : put target "errors" t (slots data none) = .ok (slots data (some found)) := by
            rw [put_errors, hfound t List.mem_cons_self]
            rfl
          have hbelow : ReadsTo target found data (some found) rest :=
            ih hrest hwhole' hfound' hdata' fun u hu => absurd hu (hnot u)
          exact hbelow.cons hproblem hput fun _ => Or.inl rfl
        · have hbelow : ReadsTo target found data errors rest :=
            ih hrest hwhole' hfound' hdata' herrors'
          exact hbelow.cons hproblem (put_other hd he ht) (Or.imp_right (errors_mem_of_ne he))

end Members

/-- The text of an object is read member by member. -/
theorem readText_eq {target : Schema} {body : Bytes} {members : List (Option String × ParseTree)}
    (hbody : parse body = (.object members none, false)) :
    (schema target).readText body =
      (readSlots (put target) (slots none none) members).bind (fields target).finish := by
  have hread : (schema target).read .text maxLevels (.object members none) =
      (readSlots (put target) (slots none none) members).bind (fields target).finish := rfl
  rw [Schema.readText, hbody]
  dsimp only
  rw [hread]
  generalize (readSlots (put target) (slots none none) members).bind _ = outcome
  cases outcome <;> rfl

end Response

/-! ## What a body with errors decodes to -/

section Decode

open Response

variable {target : Schema} {body : Bytes} {members : List (Option String × ParseTree)}
  {tree : ParseTree} {vs : List GraphQLError.schema.Value}

/-- The errors of a list are not `null`. -/
theorem readErrors_eq_ok
    (h : (Schema.list GraphQLError.schema).read .text innerLevels tree = .ok vs) :
    readErrors tree = .ok (some vs) := by
  have hne : tree ≠ .null := by
    rintro rfl
    cases h
  exact (readNullable_of_ne hne).trans (congrArg (Except.map some) h)

/-- The first problem of the members hides the errors. -/
theorem decode_eq (hbody : parse body = (.object members none, false))
    (hdistinct : (members.filterMap (·.1)).Nodup) (hmem : (some "errors", tree) ∈ members)
    (herrors : readErrors tree = .ok (some vs)) (hne : vs ≠ []) :
    decode target body =
      match members.findSome? (problem? target) with
      | none => .error (.response (vs.map GraphQLError.ofValue))
      | some cause => .error (.decode cause) := by
  have hfound : ∀ t, (some "errors", t) ∈ members → readErrors t = .ok (some vs) := by
    intro t ht
    rw [eq_of_mem hdistinct ht hmem]
    exact herrors
  have hend : ReadsTo target (some vs) none none members :=
    readsTo hdistinct (isWhole_of_parse hbody) hfound (fun _ _ => rfl) fun _ _ => rfl
  obtain ⟨v, vs', rfl⟩ := List.exists_cons_of_ne_nil hne
  rw [decode, Response.read, readText_eq hbody]
  cases hproblem : members.findSome? (problem? target) with
  | some cause =>
    rw [hend.of_problem cause hproblem]
    rfl
  | none =>
    obtain ⟨data, errors, hread, hkept⟩ := hend.of_none hproblem
    rw [hread, hkept (Or.inr ⟨tree, hmem⟩)]
    cases data <;> rfl

/-- **A body with errors decodes to its errors exactly if all its keys can be read and its data are
absent, `null` or readable as the type.**  Data that cannot be read, as partial data often cannot,
hide the errors: the first problem is all that is seen.  In which order data and errors come is of
no importance. -/
theorem decode_of_errors (hbody : parse body = (.object members none, false))
    (hdistinct : (members.filterMap (·.1)).Nodup) (hmem : (some "errors", tree) ∈ members)
    (herrors : (Schema.list GraphQLError.schema).read .text innerLevels tree = .ok vs)
    (hne : vs ≠ []) :
    (decode target body = .error (.response (vs.map GraphQLError.ofValue)) ↔
      (∀ m ∈ members, m.1 ≠ none) ∧ ∀ data, (some "data", data) ∈ members →
        data = .null ∨ ∃ v, target.read .text innerLevels data = .ok v) ∧
    ∀ cause, decode target body = .error (.decode cause) ↔
      ∃ before m after, members = before ++ m :: after ∧ Hides target m cause ∧
        ∀ m' ∈ before, ∀ cause', ¬ Hides target m' cause' := by
  rw [decode_eq hbody hdistinct hmem (readErrors_eq_ok herrors) hne, ← not_hides_iff,
    ← findSome?_problem?_eq_none_iff]
  refine ⟨?_, fun cause => ?_⟩
  · cases members.findSome? (problem? target) with
    | none => exact iff_of_true rfl rfl
    | some found => exact ⟨nofun, nofun⟩
  · rw [← findSome?_problem?_eq_some_iff]
    cases members.findSome? (problem? target) with
    | none => exact ⟨nofun, nofun⟩
    | some found =>
      constructor
      · intro h
        cases h
        rfl
      · intro h
        cases h
        rfl

/-- Data that ask for a viewer, who must not be `null`. -/
def viewerData : Schema :=
  .record "Data"
    (.required "viewer" (.record "Viewer" (.required "login" (.optional .text) .nil)) .nil)

/-- A server may leave the viewer out and say why; but the reason is lost. -/
theorem decode_of_errors_without_viewer :
    decode viewerData (bytesOf
        "\x7b\"data\":\x7b\"viewer\":null\x7d,\"errors\":[\x7b\"message\":\"m\"\x7d]\x7d") =
      .error (.decode (.mismatch (.invalidType .null "struct Viewer"))) := by
  have hdata : (Json.obj [("viewer", .null)]).IsIntegral :=
    .obj (List.forall_mem_singleton.2 .null)
  have hmessage : (Json.arr [.obj [("message", .str "m")]]).IsIntegral :=
    .arr (List.forall_mem_singleton.2 (.obj (List.forall_mem_singleton.2 (.str "m"))))
  have htext : (Json.obj [("data", .obj [("viewer", .null)]),
      ("errors", .arr [.obj [("message", .str "m")]])]).render =
      "\x7b\"data\":\x7b\"viewer\":null\x7d,\"errors\":[\x7b\"message\":\"m\"\x7d]\x7d" := by
    decide +kernel
  have hbody : parse (bytesOf
      "\x7b\"data\":\x7b\"viewer\":null\x7d,\"errors\":[\x7b\"message\":\"m\"\x7d]\x7d") =
      (.object [(some "data", .object [(some "viewer", .null)] none),
        (some "errors", .array [.object [(some "message", .str (some "m"))] none] none)] none,
        false) :=
    parse_of_render
      (.obj (List.forall_mem_cons.2 ⟨hdata, List.forall_mem_singleton.2 hmessage⟩)) htext
  have herrors : (Schema.list GraphQLError.schema).read .text innerLevels
      (.array [.object [(some "message", .str (some "m"))] none] none) =
      .ok [("m", none, none, none, ())] := rfl
  refine ((decode_of_errors hbody (by decide) ?_ herrors (List.cons_ne_nil _ _)).2 _).2 ?_
  · exact List.mem_cons_of_mem _ List.mem_cons_self
  · exact ⟨[], _, _, rfl, .data (by rintro ⟨⟩) rfl, List.forall_mem_nil _⟩

end Decode

end TypedGraphQL
