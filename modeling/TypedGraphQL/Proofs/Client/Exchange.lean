import TypedGraphQL.Proofs.Json.ObjectWriter
import TypedGraphQL.Proofs.Operation.Parts
import TypedGraphQL.Proofs.Operation.Validated

/-!
# What a client sends and what comes of it

A request has three parts that are built separately: the text of the operation, the values of its
variables and its name.  A server takes the name and the variables from the text and looks in the
other parts for what the text promises.  This file shows that it finds just that, by reading the
name and the variables back from the text that is sent.

## What is here

* `Request.Fits` — the name and the values in a request are those that its text promises.
* `Exchange.Answers` — nothing was sent if there is no text; otherwise one request that fits, and
  the answer to it is the result.
* `Client.run_answers` — what a client does with an operation of any kind.
* `Client.calls_answer` — the same for the four calls of a client.
-/

set_option autoImplicit false

namespace TypedGraphQL

open Document Json

/-- **The name and the values in a request are those that its text promises.**  The text has parts;
a name is given if and only if one stands behind the keyword, and is that name; values are given if
and only if the header declares variables, and they are an object with the declared variables in the
order of the header, each with its value. -/
def Request.Fits (r : Request) (vs : Variables) : Prop :=
  ∃ parts declared,
    OperationParts.read? r.query = some parts ∧ declaredIn? parts.header = some declared ∧
    (r.operationName = none ↔ parts.name = "") ∧ (∀ n ∈ r.operationName, n = parts.name) ∧
    (r.values = none ↔ declared = []) ∧
    ∀ json ∈ r.values, ∃ members, json = .obj members ∧
      members.map (·.1) = declared.map (·.1) ∧
      ∀ e ∈ members, (vs.get? e.1).map (·.value) = some e.2

/-- **What was done with an operation.**  If it has no text, nothing was sent and the problem is the
result.  Otherwise one request was sent, which carries the text and fits it, and the result is the
failure of the transport or what is decoded from the body that it returned. -/
def Exchange.Answers {target : Schema} (x : Exchange target) (transport : Transport)
    (compiled : Except Error String) (vs : Variables) : Prop :=
  match compiled with
  | .error e => x.sent = [] ∧ x.result = .error e
  | .ok text =>
    ∃ request, x.sent = [request] ∧ request.query = text ∧ request.Fits vs ∧
      (∀ e, transport request = .error e → x.result = .error e) ∧
      ∀ body, transport request = .ok body → x.result = decode target body

section Fits

variable {R : Type} {c : Client} {catalog : Catalog R} {root : TypeShape R} {kind : OperationKind}
  {name text : String} {vs : Variables}

/-- What a client accepts is what was compiled. -/
theorem compile_of_accepted (h : c.compile catalog root kind name vs = .ok text) :
    compile catalog c.options root vs kind name = .ok text := by
  rw [Client.compile] at h
  cases hcompile : compile catalog c.options root vs kind name with
  | error e =>
    rw [hcompile] at h
    cases h
  | ok compiled =>
    rw [hcompile] at h
    dsimp only [bind, Except.bind] at h
    split at h
    · split at h
      · exact h
      · cases h
    · exact h

/-- Where a character of names is none that ends a part, it is in no name. -/
theorem not_mem_of_isName {s : String} (h : isName s = true) {d : Char}
    (hd : isNameChar d = false) : d ∉ s.toList := by
  intro hmem
  rw [isNameChar_of_mem_name (Or.inr h) d hmem] at hd
  cases hd

/-- The variables that are declared in the header are those at hand, in their order. -/
theorem declaredIn?_of_compileHeader {options : CompileOptions} {header : Option String}
    (hvars : ∀ e ∈ vs.entries, isName e.1 = true)
    (h : compileHeader options kind vs = .ok header) :
    ∃ declared, declaredIn? header = some declared ∧
      declared.map (·.1) = vs.members.map (·.1) := by
  have hkeys : vs.members.map (·.1) = vs.entries.map (·.1) := by
    rw [Variables.members, List.map_map]
    rfl
  rw [hkeys]
  rcases compileHeader_eq_ok_iff.1 h with ⟨hnil, rfl⟩ | ⟨-, text, htext, rfl⟩
  · rw [hnil]
    exact ⟨[], rfl, rfl⟩
  · have hnames : ∀ e ∈ vs.entries, '$' ∉ e.1.toList ∧ ':' ∉ e.1.toList := fun e he =>
      ⟨not_mem_of_isName (hvars e he) (by decide), not_mem_of_isName (hvars e he) (by decide)⟩
    obtain ⟨declared, hread, hmap⟩ := readHeader?_declarations hnames htext
    have hfirst := congrArg (List.map Prod.fst) hmap
    rw [List.map_map, List.map_map] at hfirst
    exact ⟨declared, hread, hfirst.symm⟩

/-- The header does not contain its closing bracket. -/
theorem not_mem_compileHeader {options : CompileOptions} {header : Option String}
    (hvars : ∀ e ∈ vs.entries, isName e.1 = true)
    (h : compileHeader options kind vs = .ok header) : ∀ s ∈ header, ')' ∉ s.toList := by
  rcases compileHeader_eq_ok_iff.1 h with ⟨-, rfl⟩ | ⟨-, text, htext, rfl⟩
  · exact nofun
  · intro s hs
    cases hs
    exact not_mem_declarations (fun e he => not_mem_of_isName (hvars e he) (by decide)) htext

/-- The name and the variables of an operation can be read in its text. -/
theorem exists_parts {options : CompileOptions} (hname : name = "" ∨ isName name = true)
    (hvars : ∀ e ∈ vs.entries, isName e.1 = true)
    (h : compile catalog options root vs kind name = .ok text) :
    ∃ parts declared, OperationParts.read? text = some parts ∧ parts.name = name ∧
      declaredIn? parts.header = some declared ∧ declared.map (·.1) = vs.members.map (·.1) := by
  obtain ⟨s, header, -, hheader, rfl⟩ := compile_eq_ok_iff.1 h
  have hread := OperationParts.read?_construct options kind hname
    (not_mem_compileHeader hvars hheader) s.toList_render
  obtain ⟨declared, hdeclared, hkeys⟩ := declaredIn?_of_compileHeader hvars hheader
  exact ⟨_, declared, hread, rfl, hdeclared, hkeys⟩

/-- The values that are sent, if there are variables, are those of the variables in their order. -/
theorem values_request (text name : String) (vs : Variables) :
    (Client.request text name vs).values =
      if vs.members = [] then none else some (.obj vs.members) := by
  have hobj : vs.toJson = .obj vs.members := objectOf_of_ordered vs.ordered_members
  rw [Client.request, Variables.isEmpty, hobj, Variables.members]
  cases vs.entries <;> rfl

/-- Each member has the value of its variable. -/
theorem get?_of_mem_members (vs : Variables) :
    ∀ e ∈ vs.members, (vs.get? e.1).map (·.value) = some e.2 := by
  intro e he
  obtain ⟨d, hd, rfl⟩ := List.mem_map.1 he
  have hlookup : vs.get? d.1 = some d.2 := (lookup?_eq_some_iff vs.ordered).2 hd
  rw [hlookup]
  rfl

/-- **The request that is sent for a text that was compiled fits it.** -/
theorem fits_request {options : CompileOptions} (hname : name = "" ∨ isName name = true)
    (hvars : ∀ e ∈ vs.entries, isName e.1 = true)
    (h : compile catalog options root vs kind name = .ok text) :
    (Client.request text name vs).Fits vs := by
  obtain ⟨parts, declared, hread, rfl, hdeclared, hkeys⟩ := exists_parts hname hvars h
  have hempty : declared = [] ↔ vs.members = [] := by
    rw [← List.map_eq_nil_iff (f := Prod.fst), hkeys, List.map_eq_nil_iff]
  have hgiven : (Client.request text parts.name vs).operationName =
      if parts.name = "" then none else some parts.name := rfl
  refine ⟨parts, declared, hread, hdeclared, ?_, ?_, ?_, ?_⟩
  · rw [hgiven]
    by_cases hn : parts.name = "" <;> simp [hn]
  · intro n hn
    rw [hgiven] at hn
    split at hn
    · cases hn
    · cases hn
      rfl
  · rw [values_request, hempty]
    by_cases hnone : vs.members = [] <;> simp [hnone]
  · intro json hjson
    rw [values_request] at hjson
    split at hjson
    · cases hjson
    · cases hjson
      exact ⟨vs.members, rfl, hkeys.symm, get?_of_mem_members vs⟩

end Fits

namespace Client

variable {R : Type} {c : Client} {catalog : Catalog R} {root : TypeShape R} {name : String}
  {vs : Variables}

/-- **What a client does with an operation of any kind.** -/
theorem run_answers (kind : OperationKind) (transport : Transport) (target : Schema)
    (hname : name = "" ∨ isName name = true) (hvars : ∀ e ∈ vs.entries, isName e.1 = true) :
    (c.run transport catalog root target kind name vs).Answers transport
      (c.compile catalog root kind name vs) vs := by
  rw [run]
  cases hcompile : c.compile catalog root kind name vs with
  | error e => exact ⟨rfl, rfl⟩
  | ok text =>
    have hfits := fits_request hname hvars (compile_of_accepted hcompile)
    refine ⟨request text name vs, rfl, rfl, hfits, ?_, ?_⟩
    · intro e he
      dsimp only
      rw [he]
      rfl
    · intro body hbody
      dsimp only
      rw [hbody]
      rfl

/-- **The calls of a client.**  Each of them sends one request if its operation has a text, and none
otherwise.  The request carries the text, its name and variables are those that can be read in the
text, and the result is the answer to the request. -/
theorem calls_answer (transport : Transport) (target : Schema)
    (hname : name = "" ∨ isName name = true) (hvars : ∀ e ∈ vs.entries, isName e.1 = true) :
    (c.query transport catalog root target vs).Answers transport
        (c.compile catalog root .query "" vs) vs ∧
      (c.namedQuery transport catalog root target name vs).Answers transport
        (c.compile catalog root .query name vs) vs ∧
      (c.mutate transport catalog root target vs).Answers transport
        (c.compile catalog root .mutation "" vs) vs ∧
      (c.namedMutate transport catalog root target name vs).Answers transport
        (c.compile catalog root .mutation name vs) vs := by
  refine ⟨?_, ?_, ?_, ?_⟩
  · exact run_answers .query transport target (Or.inl rfl) hvars
  · exact run_answers .query transport target hname hvars
  · exact run_answers .mutation transport target (Or.inl rfl) hvars
  · exact run_answers .mutation transport target hname hvars

/-- A variable whose declaration in the header has its `!` twice. -/
def firstPage : Variables :=
  Variables.empty.set "first" ⟨.scalar .int64, .int 10⟩

/-- A server that has nothing to say. -/
def silent : Transport :=
  fun _ => .ok []

theorem calls_answer_shelf :
    ∃ request, (namedQuery {} silent shelf (.record 0) .free "Shelf" firstPage).sent = [request] ∧
      request.query = "query Shelf($first:Int!!)\x7bname,books\x7bheading\x7d\x7d" ∧
      request.Fits firstPage ∧
      (namedQuery {} silent shelf (.record 0) .free "Shelf" firstPage).result =
        decode .free [] := by
  have hcompile : Client.compile {} shelf (.record 0) .query "Shelf" firstPage =
      .ok "query Shelf($first:Int!!)\x7bname,books\x7bheading\x7d\x7d" := rfl
  have hname : "Shelf" = "" ∨ isName "Shelf" = true := Or.inr (by decide)
  have hvars : ∀ e ∈ firstPage.entries, isName e.1 = true := by decide
  have hnamed : (namedQuery {} silent shelf (.record 0) .free "Shelf" firstPage).Answers silent
      (Client.compile {} shelf (.record 0) .query "Shelf" firstPage) firstPage :=
    (calls_answer silent .free hname hvars).2.1
  rw [hcompile] at hnamed
  obtain ⟨request, hsent, hquery, hfits, -, hanswer⟩ := hnamed
  exact ⟨request, hsent, hquery, hfits, hanswer [] rfl⟩

end Client

end TypedGraphQL
