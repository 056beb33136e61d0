import TypedGraphQL.Client
import TypedGraphQL.Proofs.Schema.RoundTrip

/-!
# Errors on the way to the caller

A server writes its errors as JSON, and the caller gets them as values.  This file shows that
nothing is lost or altered in between: the body that has the errors and no data is decoded to just
these errors, whatever type the data should have been of.

Two things are excluded because their JSON does not tell them apart.  Extensions that are `null`
would come back as absent, and a floating-point number may come back as its neighbour.  What is
nested too deep is not read at all.

## What is here

* `Json.IsExact` — JSON as a program holds it, without floating-point numbers.
* `GraphQLError.IsExact` — all that an error carries is such JSON.
* `errorBody` — the body of a response that has errors and no data.
* `keeps_toValue`, `isIntegral_toJson` — an error can be told apart by its JSON and by its text.
* `decode_errorBody` — the errors come back.
-/

set_option autoImplicit false

namespace TypedGraphQL

open Json

/-- JSON as a program holds it, without floating-point numbers: its integers fit 64 bits, and its
objects have their members in the order of the keys. -/
structure Json.IsExact (v : Json) : Prop where
  isIntegral : v.IsIntegral
  isSorted : v.IsSorted

/-! ## Places -/

namespace Location

/-- **A place comes back from its value.** -/
theorem ofValue_toValue (l : Location) : ofValue l.toValue = l := by
  have hcounter : ∀ n : UInt32, UInt32.ofNat (counter n).val.toNat = n := by
    intro n
    rw [counter, Int.toNat_natCast, UInt32.ofNat_toNat]
  have hvalue : ofValue l.toValue =
      ⟨.ofNat (counter l.line).val.toNat, .ofNat (counter l.column).val.toNat⟩ := rfl
  rw [hvalue, hcounter, hcounter]

theorem keeps_toValue (l : Location) : schema.Keeps l.toValue := by
  have hnames : ["line", "column"].Nodup := by decide
  exact ⟨hnames, trivial, trivial, trivial⟩

theorem isIntegral_write (l : Location) : (schema.write l.toValue).IsIntegral := by
  have hcounter : ∀ n : UInt32, (Json.int (counter n).val).IsIntegral := by
    intro n
    have hlt := n.toNat_lt
    have hval : (counter n).val = n.toNat := rfl
    refine .int ?_ ?_
    · rw [hval, minSigned_eq]
      omega
    · rw [hval, maxUnsigned_eq]
      omega
  refine .obj (List.forall_mem_cons.2 ⟨hcounter l.line, List.forall_mem_cons.2 ⟨?_, ?_⟩⟩)
  · exact hcounter l.column
  · exact List.forall_mem_nil _

end Location

/-! ## Errors -/

namespace GraphQLError

/-- All that an error carries beside its message and its places is exact JSON, and its extensions
are not `null`. -/
structure IsExact (e : GraphQLError) : Prop where
  path : ∀ items ∈ e.path, ∀ v ∈ items, v.IsExact
  extensions : ∀ v ∈ e.extensions, v ≠ .null ∧ v.IsExact

/-- **An error comes back from its value**: each optional member as present or as absent. -/
theorem ofValue_toValue (e : GraphQLError) : ofValue e.toValue = e := by
  have hlocations : (e.locations.map (List.map Location.toValue)).map (List.map Location.ofValue) =
      e.locations := by
    rw [Option.map_map]
    refine (congrArg (fun f => Option.map f e.locations) (funext fun ls => ?_)).trans
      (congrFun Option.map_id e.locations)
    have hsame : Location.ofValue ∘ Location.toValue = id := funext Location.ofValue_toValue
    rw [Function.comp_apply, List.map_map, hsame, List.map_id]
    rfl
  have hvalue : ofValue e.toValue =
      ⟨e.message, (e.locations.map (List.map Location.toValue)).map (List.map Location.ofValue),
        e.path, e.extensions⟩ := rfl
  rw [hvalue, hlocations]

theorem keeps_toValue {e : GraphQLError} (h : e.IsExact) : schema.Keeps e.toValue := by
  have hnames : ["message", "locations", "path", "extensions"].Nodup := by decide
  refine ⟨hnames, trivial, ?_⟩
  refine Fields.keeps_sparse_iff.2 ⟨?_, Fields.keeps_sparse_iff.2 ⟨?_, ?_⟩⟩
  · intro vs hvs
    obtain ⟨ls, -, rfl⟩ := Option.map_eq_some_iff.1 hvs
    refine ⟨nofun, fun v hv => ?_⟩
    obtain ⟨l, -, rfl⟩ := List.mem_map.1 hv
    exact Location.keeps_toValue l
  · intro items hitems
    exact ⟨nofun, fun v hv => (h.path items hitems v hv).isSorted⟩
  · refine Fields.keeps_sparse_iff.2 ⟨fun v hv => ?_, trivial⟩
    exact ⟨(h.extensions v hv).1, (h.extensions v hv).2.isSorted⟩

theorem isIntegral_toJson {e : GraphQLError} (h : e.IsExact) : e.toJson.IsIntegral := by
  refine .obj (List.forall_mem_cons.2 ⟨.str e.message, ?_⟩)
  refine Fields.forall_mem_write_sparse_iff.2 ⟨?_, Fields.forall_mem_write_sparse_iff.2 ⟨?_, ?_⟩⟩
  · intro vs hvs
    obtain ⟨ls, -, rfl⟩ := Option.map_eq_some_iff.1 hvs
    refine .arr fun v hv => ?_
    rw [List.map_map] at hv
    obtain ⟨l, -, rfl⟩ := List.mem_map.1 hv
    exact Location.isIntegral_write l
  · intro items hitems
    refine .arr fun v hv => ?_
    obtain ⟨w, hw, rfl⟩ := List.mem_map.1 hv
    exact (h.path items hitems w hw).isIntegral
  · refine Fields.forall_mem_write_sparse_iff.2 ⟨fun v hv => ?_, List.forall_mem_nil _⟩
    exact (h.extensions v hv).2.isIntegral

end GraphQLError

/-! ## The response -/

/-- The body of a response that has errors and no data. -/
def errorBody (es : List GraphQLError) : Json :=
  .obj [("data", .null), ("errors", .arr (es.map GraphQLError.toJson))]

section Decode

variable {target : Schema} {es : List GraphQLError}

/-- The response as it travels: no data, and the errors. -/
def errorValue (target : Schema) (es : List GraphQLError) : (Response.schema target).Value :=
  (none, some (es.map GraphQLError.toValue), ())

theorem write_errorValue (target : Schema) (es : List GraphQLError) :
    (Response.schema target).write (errorValue target es) = errorBody es := by
  have hmap : (es.map GraphQLError.toValue).map GraphQLError.schema.write =
      es.map GraphQLError.toJson := by
    rw [List.map_map]
    rfl
  rw [errorBody, ← hmap]
  rfl

theorem keeps_errorValue (target : Schema) (h : ∀ e ∈ es, e.IsExact) :
    (Response.schema target).Keeps (errorValue target es) := by
  have hnames : ["data", "errors"].Nodup := by decide
  refine ⟨hnames, trivial, ⟨nofun, fun v hv => ?_⟩, trivial⟩
  obtain ⟨e, he, rfl⟩ := List.mem_map.1 hv
  exact GraphQLError.keeps_toValue (h e he)

theorem isIntegral_errorBody (h : ∀ e ∈ es, e.IsExact) : (errorBody es).IsIntegral := by
  refine .obj (List.forall_mem_cons.2 ⟨.null, List.forall_mem_cons.2 ⟨.arr fun v hv => ?_, ?_⟩⟩)
  · obtain ⟨e, he, rfl⟩ := List.mem_map.1 hv
    exact GraphQLError.isIntegral_toJson (h e he)
  · exact List.forall_mem_nil _

/-- The response that was read has the errors, and no data. -/
theorem ofValue_errorValue (target : Schema) (es : List GraphQLError) :
    Response.ofValue (errorValue target es) = ⟨none, some es⟩ := by
  have hsame : GraphQLError.ofValue ∘ GraphQLError.toValue = id :=
    funext GraphQLError.ofValue_toValue
  have herrors : (es.map GraphQLError.toValue).map GraphQLError.ofValue = es := by
    rw [List.map_map, hsame, List.map_id]
  exact congrArg (fun es => Response.mk none (some es)) herrors

/-- **No error is lost or altered on the way to the caller.**  The text of a body with errors and
without data is decoded to the same errors in the same order, whatever type was asked for. -/
theorem decode_errorBody (target : Schema) (hne : es ≠ []) (h : ∀ e ∈ es, e.IsExact)
    (hdepth : (errorBody es).depth ≤ maxLevels) :
    decode target (bytesOf (errorBody es).render) = .error (.response es) := by
  have hwritten := write_errorValue target es
  have hread : (Response.schema target).readText (bytesOf (errorBody es).render) =
      .ok (errorValue target es) := by
    rw [← hwritten] at hdepth ⊢
    refine Schema.readText_write (keeps_errorValue target h) ?_ hdepth
    rw [hwritten]
    exact isIntegral_errorBody h
  have hresponse : Response.read target (bytesOf (errorBody es).render) =
      .ok (Response.ofValue (errorValue target es)) := by
    rw [Response.read, hread]
    rfl
  obtain ⟨e, rest, rfl⟩ := List.exists_cons_of_ne_nil hne
  rw [decode, hresponse, ofValue_errorValue]
  rfl

/-- An error that carries all that an error can carry. -/
def missingViewer : GraphQLError where
  message := "no \"viewer\"\n"
  locations := some [⟨1, 2⟩]
  path := some [.str "viewer", .int 0]
  extensions := some (.obj [("code", .int (-1))])

theorem isExact_missingViewer : missingViewer.IsExact where
  path := by
    intro items hitems v hv
    cases hitems
    have hstr : (Json.str "viewer").IsExact := ⟨.str _, .str _⟩
    have hint : (Json.int 0).IsExact := ⟨.int (by decide) (by decide), .number _⟩
    rcases List.mem_cons.1 hv with rfl | hv
    · exact hstr
    · obtain rfl := List.mem_singleton.1 hv
      exact hint
  extensions := by
    intro v hv
    cases hv
    have hordered : Ordered [("code", Json.int (-1))] := List.pairwise_singleton _ _
    refine ⟨nofun, .obj fun e he => ?_, .obj hordered fun e he => ?_⟩
    · obtain rfl := List.mem_singleton.1 he
      exact .int (by decide) (by decide)
    · obtain rfl := List.mem_singleton.1 he
      exact .number _

theorem decode_errorBody_missingViewer :
    decode .flag (bytesOf (errorBody [missingViewer, { message := "" }]).render) =
      .error (.response [missingViewer, { message := "" }]) := by
  have hexact : ∀ e ∈ [missingViewer, { message := "" }], e.IsExact :=
    List.forall_mem_cons.2 ⟨isExact_missingViewer, List.forall_mem_singleton.2 ⟨nofun, nofun⟩⟩
  exact decode_errorBody .flag (List.cons_ne_nil _ _) hexact (by decide)

end Decode

end TypedGraphQL
