import TypedGraphQL.Proofs.Client.Exchange
import TypedGraphQL.Proofs.Response.Errors

/-!
# A server reads the request that was sent

A request is written as JSON, and what is absent in it is left out.  This file shows that a server
gets the request back from the text, whatever the query and the name are.  One value stands in the
way: variables that are present but `null` cannot be told from variables that are absent.  A client
never sends them, since the variables of an operation are an object.

As everywhere, floating-point numbers are excluded, since they may come back as their neighbours,
and what is nested too deep is not read.

## What is here

* `Request.members` — the members of a request.
* `Request.read_toJson`, `Request.read_null` — what is read from the text of a request.
* `Client.eq_request_of_mem_sent` — the requests of a client; `Variables.isExact_obj`,
  `Variables.depth_obj_lt` — the values in them.
* `requests_come_back` — both together.
-/

set_option autoImplicit false

namespace TypedGraphQL

open Json

/-! ## The text of a request -/

namespace Request

variable {r : Request}

/-- The members of a request: the query, and values and name if they are present. -/
def members (r : Request) : List (String × Json) :=
  ("query", .str r.query) ::
    ((r.values.map fun v => ("variables", v)).toList ++
      (r.operationName.map fun n => ("operationName", Json.str n)).toList)

theorem toJson_eq (r : Request) : r.toJson = .obj r.members := by
  obtain ⟨query, values, operationName⟩ := r
  cases values <;> cases operationName <;> rfl

/-- What holds of all text holds of the members of a request if it holds of the values. -/
theorem forall_mem_members {p : Json → Prop} (hstr : ∀ s, p (.str s))
    (h : ∀ v ∈ r.values, p v) : ∀ e ∈ r.members, p e.2 := by
  refine List.forall_mem_cons.2 ⟨hstr r.query, List.forall_mem_append.2 ⟨?_, ?_⟩⟩
  · intro e he
    obtain ⟨v, hv, rfl⟩ := Option.map_eq_some_iff.1 (Option.mem_toList.1 he)
    exact h v hv
  · intro e he
    obtain ⟨n, -, rfl⟩ := Option.map_eq_some_iff.1 (Option.mem_toList.1 he)
    exact hstr n

theorem isIntegral_toJson (h : ∀ v ∈ r.values, v.IsIntegral) : r.toJson.IsIntegral := by
  rw [toJson_eq]
  exact .obj (forall_mem_members .str h)

/-- A request is nested one level deeper than its values. -/
theorem depth_toJson_le (h : ∀ v ∈ r.values, v.depth < maxLevels) :
    r.toJson.depth ≤ maxLevels := by
  have hmembers : ∀ e ∈ r.members, e.2.depth ≤ maxLevels - 1 :=
    forall_mem_members (fun _ => Nat.zero_le _) fun v hv => Nat.le_pred_of_lt (h v hv)
  rw [toJson_eq, depth]
  exact Nat.succ_le_succ (membersDepth_le_iff.2 hmembers)

theorem keeps_toValue (h : ∀ v ∈ r.values, v ≠ .null ∧ v.IsSorted) : schema.Keeps r.toValue := by
  have hnames : ["query", "variables", "operationName"].Nodup := by decide
  refine ⟨hnames, trivial, ?_⟩
  refine Fields.keeps_sparse_iff.2 ⟨h, Fields.keeps_sparse_iff.2 ⟨fun n _ => ?_, trivial⟩⟩
  exact ⟨nofun, trivial⟩

/-- **A request comes back from its text** if its values are not `null`. -/
theorem read_toJson (h : ∀ v ∈ r.values, v.IsExact ∧ v.depth < maxLevels)
    (hne : r.values ≠ some .null) : Request.read (bytesOf r.toJson.render) = .ok r := by
  have hkeeps : schema.Keeps r.toValue := by
    refine keeps_toValue fun v hv => ⟨?_, (h v hv).1.isSorted⟩
    rintro rfl
    exact hne hv
  have hread : schema.readText (bytesOf r.toJson.render) = .ok r.toValue :=
    Schema.readText_write hkeeps (isIntegral_toJson fun v hv => (h v hv).1.isIntegral)
      (depth_toJson_le fun v hv => (h v hv).2)
  rw [Request.read, hread]
  rfl

/-- **Variables that are `null` are read as absent.** -/
theorem read_null (query : String) (operationName : Option String) :
    Request.read (bytesOf (toJson ⟨query, some .null, operationName⟩).render) =
      .ok ⟨query, none, operationName⟩ := by
  have hintegral : (toJson ⟨query, some .null, operationName⟩).IsIntegral := by
    refine isIntegral_toJson fun v hv => ?_
    cases hv
    exact .null
  rw [Request.read, Schema.readText, parse_render hintegral]
  cases operationName <;> rfl

/-- **`null` is the only value that is lost.** -/
theorem read_toJson_eq_ok_iff (h : ∀ v ∈ r.values, v.IsExact ∧ v.depth < maxLevels) :
    Request.read (bytesOf r.toJson.render) = .ok r ↔ r.values ≠ some .null := by
  refine ⟨fun hread hnull => ?_, read_toJson h⟩
  obtain ⟨query, values, operationName⟩ := r
  cases hnull
  rw [read_null] at hread
  cases hread

end Request

/-! ## The requests of a client -/

namespace Variables

variable {vs : Variables}

theorem isExact_obj (h : ∀ e ∈ vs.entries, e.2.value.IsExact) : (Json.obj vs.members).IsExact where
  isIntegral := by
    refine .obj fun e he => ?_
    obtain ⟨d, hd, rfl⟩ := List.mem_map.1 he
    exact (h d hd).isIntegral
  isSorted := by
    refine .obj vs.ordered_members fun e he => ?_
    obtain ⟨d, hd, rfl⟩ := List.mem_map.1 he
    exact (h d hd).isSorted

/-- The object of the variables takes one level. -/
theorem depth_obj_lt (h : ∀ e ∈ vs.entries, e.2.value.depth + 1 < maxLevels) :
    (Json.obj vs.members).depth < maxLevels := by
  have hmembers : ∀ e ∈ vs.members, e.2.depth ≤ maxLevels - 2 := by
    intro e he
    obtain ⟨d, hd, rfl⟩ := List.mem_map.1 he
    have := h d hd
    dsimp only
    omega
  exact Nat.succ_lt_succ (Nat.lt_succ_of_le (membersDepth_le_iff.2 hmembers))

end Variables

namespace Client

variable {R : Type} {c : Client} {transport : Transport} {catalog : Catalog R} {root : TypeShape R}
  {target : Schema} {kind : OperationKind} {name : String} {vs : Variables}

/-- A client sends a request only for a text that it has compiled. -/
theorem eq_request_of_mem_sent {r : Request}
    (h : r ∈ (c.run transport catalog root target kind name vs).sent) :
    ∃ text, c.compile catalog root kind name vs = .ok text ∧ r = request text name vs := by
  rw [run] at h
  cases hcompile : c.compile catalog root kind name vs with
  | error e =>
    rw [hcompile] at h
    exact absurd h List.not_mem_nil
  | ok text =>
    rw [hcompile] at h
    exact ⟨text, rfl, List.mem_singleton.1 h⟩

end Client

/-- **A server reads the request that a client holds.**  A request comes back from its text exactly
if its values are not `null`, and the text has a member for the values or the name exactly if they
are present.  The values of a request that a client sends are never `null`: they are the object of
the variables in the order of their names, or absent if there are none, and with them come the text
that was compiled and the name, unless it is empty.  So this request comes back. -/
theorem requests_come_back :
    (∀ r : Request,
      (r.toJson.member? "query" = some (.str r.query) ∧ r.toJson.member? "variables" = r.values ∧
        r.toJson.member? "operationName" = r.operationName.map .str) ∧
      ((∀ v ∈ r.values, v.IsExact ∧ v.depth < maxLevels) →
        (Request.read (bytesOf r.toJson.render) = .ok r ↔ r.values ≠ some .null))) ∧
    ∀ {R : Type} (c : Client) (transport : Transport) (catalog : Catalog R) (root : TypeShape R)
      (target : Schema) (kind : OperationKind) (name : String) (vs : Variables),
      ∀ r ∈ (c.run transport catalog root target kind name vs).sent,
        c.compile catalog root kind name vs = .ok r.query ∧
        r.values = (if vs.members = [] then none else some (.obj vs.members)) ∧
        r.operationName = (if name = "" then none else some name) ∧
        r.values ≠ some .null ∧
        ((∀ e ∈ vs.entries, e.2.value.IsExact ∧ e.2.value.depth + 1 < maxLevels) →
          Request.read (bytesOf r.toJson.render) = .ok r) := by
  refine ⟨fun r => ⟨?_, Request.read_toJson_eq_ok_iff⟩, ?_⟩
  · obtain ⟨query, values, operationName⟩ := r
    cases values <;> cases operationName <;> exact ⟨rfl, rfl, rfl⟩
  · intro R c transport catalog root target kind name vs r hr
    obtain ⟨text, htext, rfl⟩ := Client.eq_request_of_mem_sent hr
    have hvalues := values_request text name vs
    have hne : (Client.request text name vs).values ≠ some .null := by
      rw [hvalues]
      split <;> exact nofun
    refine ⟨htext, hvalues, rfl, hne, fun h => Request.read_toJson (fun v hv => ?_) hne⟩
    rw [hvalues] at hv
    split at hv
    · cases hv
    · cases hv
      exact ⟨Variables.isExact_obj fun e he => (h e he).1,
        Variables.depth_obj_lt fun e he => (h e he).2⟩

/-- The request for a page of a shelf: its variables come back as an object.  A request whose
variables are `null` does not come back. -/
theorem requests_come_back_shelf :
    (∃ r ∈ (Client.run {} Client.silent shelf (.record 0) .free .query "Shelf" Client.firstPage).sent,
      r.values = some (.obj [("first", .int 10)]) ∧ r.operationName = some "Shelf" ∧
      Request.read (bytesOf r.toJson.render) = .ok r) ∧
    Request.read (bytesOf (Request.toJson ⟨"", some .null, some ""⟩).render) ≠
      .ok ⟨"", some .null, some ""⟩ := by
  have hexact : ∀ e ∈ Client.firstPage.entries, e.2.value.IsExact ∧ e.2.value.depth + 1 < maxLevels := by
    intro e he
    obtain rfl := List.mem_singleton.1 he
    exact ⟨⟨.int (by decide) (by decide), .number _⟩, by decide⟩
  have hnull : ∀ v ∈ some Json.null, v.IsExact ∧ v.depth < maxLevels := by
    intro v hv
    cases hv
    exact ⟨⟨.null, .null⟩, by decide⟩
  refine ⟨⟨_, List.mem_singleton.2 rfl, rfl, rfl, ?_⟩, fun hread => ?_⟩
  · exact (requests_come_back.2 {} Client.silent shelf (.record 0) .free .query "Shelf" Client.firstPage _
      (List.mem_singleton.2 rfl)).2.2.2.2 hexact
  · exact ((requests_come_back.1 ⟨"", some .null, some ""⟩).2 hnull).1 hread rfl

end TypedGraphQL
