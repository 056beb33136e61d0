import TypedGraphQL.Client
import TypedGraphQL.Input
import TypedGraphQL.Proofs.Json.RoundTrip
import TypedGraphQL.Proofs.Schema.Edit

/-!
# Bodies that amount to the same

Servers differ in how they write a response: in the order of members, in members of their own, in
whether they write `null` or nothing.  This file shows that none of this reaches the caller.  If a
body without repeated keys is decoded to data or to errors, a body that differs by such changes only
is decoded to the same data or the same errors.

## What is here

* `IsAnswer`, `exists_read_of_isAnswer` — a body that is decoded to data or to errors can be read.
* `decode_of_edits` — a changed body is decoded to the same.
-/

set_option autoImplicit false

namespace TypedGraphQL

open Json

section Decode

variable {target : Schema} {body body' : Bytes}

/-- The body is decoded to data, or to errors of the server. -/
def IsAnswer (target : Schema) (body : Bytes) : Prop :=
  (∃ v, decode target body = .ok v) ∨ ∃ es, decode target body = .error (.response es)

/-- Such a body can be read. -/
theorem exists_read_of_isAnswer (h : IsAnswer target body) :
    ∃ v, (Response.schema target).readText body = .ok v := by
  cases hread : (Response.schema target).readText body with
  | ok v => exact ⟨v, rfl⟩
  | error cause =>
    have hdecode : decode target body = .error (.decode cause) := by
      rw [decode, Response.read, hread]
      rfl
    rcases h with ⟨v, hv⟩ | ⟨es, hes⟩
    · cases hdecode.symm.trans hv
    · cases hdecode.symm.trans hes

/-- **How a response is written does not reach the caller.**  A body without repeated keys that is
decoded to data or to errors may have its members in another order, members that nothing is read
from, and `null` for what is absent or the other way round, at any depth. -/
theorem decode_of_edits (hdistinct : (parse body).1.HasDistinctKeys)
    (hedits : Relation.ReflTransGen (Edit (Response.schema target)) (parse body).1 (parse body').1)
    (htrailing : (parse body').2 = false) (h : IsAnswer target body) :
    decode target body' = decode target body := by
  obtain ⟨v, hv⟩ := exists_read_of_isAnswer h
  have hread := (Schema.readText_eq_ok_iff.1 hv).1
  have hread' := carries_of_edits hedits (hdistinct.clear _) v hread
  have hv' : (Response.schema target).readText body' = .ok v :=
    Schema.readText_eq_ok_iff.2 ⟨hread', htrailing⟩
  rw [decode, decode, Response.read, Response.read, hv, hv']

/-- Data with a list of points. -/
def pointsData : Schema :=
  .record "Data" (.required "at" (.list .point) .nil)

theorem isIntegral_pointsData {point : List (String × Json)} (h : ∀ e ∈ point, e.2.IsIntegral) :
    (Json.obj [("at", .arr [.obj point])]).IsIntegral :=
  .obj (List.forall_mem_singleton.2 (.arr (List.forall_mem_singleton.2 (.obj h))))

theorem parse_nullLongitude :
    parse (bytesOf
      "\x7b\"data\":\x7b\"at\":[\x7b\"longitude\":null\x7d]\x7d,\"errors\":null\x7d") =
      (.object [(some "data", .object [(some "at",
          .array [.object [(some "longitude", .null)] none] none)] none),
        (some "errors", .null)] none, false) := by
  have hnull : ∀ {key : String}, ∀ e ∈ [(key, Json.null)], e.2.IsIntegral :=
    List.forall_mem_singleton.2 .null
  have htext : (Json.obj [("data", .obj [("at", .arr [.obj [("longitude", .null)]])]),
      ("errors", .null)]).render =
      "\x7b\"data\":\x7b\"at\":[\x7b\"longitude\":null\x7d]\x7d,\"errors\":null\x7d" := by
    decide +kernel
  exact parse_of_render
    (.obj (List.forall_mem_cons.2 ⟨isIntegral_pointsData hnull, hnull⟩)) htext

theorem parse_noLongitude :
    parse (bytesOf "\x7b\"x\":true,\"data\":\x7b\"at\":[\x7b\x7d]\x7d\x7d") =
      (.object [(some "x", .bool true), (some "data",
        .object [(some "at", .array [.object [] none] none)] none)] none, false) := by
  have hdata := isIntegral_pointsData (List.forall_mem_nil _)
  have htext : (Json.obj [("x", .bool true), ("data", .obj [("at", .arr [.obj []])])]).render =
      "\x7b\"x\":true,\"data\":\x7b\"at\":[\x7b\x7d]\x7d\x7d" := by
    decide +kernel
  exact parse_of_render
    (.obj (List.forall_mem_cons.2 ⟨.bool true, List.forall_mem_singleton.2 hdata⟩)) htext

/-- A body with `null` in two places, and one with a member of its own instead. -/
theorem decode_of_edits_points :
    decode pointsData (bytesOf "\x7b\"x\":true,\"data\":\x7b\"at\":[\x7b\x7d]\x7d\x7d") =
      decode pointsData (bytesOf
        "\x7b\"data\":\x7b\"at\":[\x7b\"longitude\":null\x7d]\x7d,\"errors\":null\x7d") := by
  -- the point loses its `null`, and with it the data
  have hpoint : Edit .point (.object [(some "longitude", .null)] none) (.object [] none) :=
    .deleteNull [] [] rfl rfl
  have hdata : Edit (.optional pointsData)
      (.object [(some "at", .array [.object [(some "longitude", .null)] none] none)] none)
      (.object [(some "at", .array [.object [] none] none)] none) :=
    .member [] [] rfl (.item [] [] rfl hpoint)
  refine decode_of_edits ?_ ?_ ?_ ?_
  · rw [parse_nullLongitude]
    refine .object (by decide) (List.forall_mem_cons.2 ⟨?_, List.forall_mem_singleton.2 .null⟩)
    refine .object (by decide) (List.forall_mem_singleton.2 (.array ?_))
    exact List.forall_mem_singleton.2 (.object (by decide) (List.forall_mem_singleton.2 .null))
  · rw [parse_nullLongitude, parse_noLongitude]
    refine .head (.deleteNull [_] [] rfl rfl) ?_
    refine .head (.member [] [] rfl hdata) ?_
    exact .single (.insert [] [_] rfl rfl rfl)
  · rw [parse_noLongitude]
  · refine Or.inl ⟨(⟨[(none, none, ())], ()⟩ : pointsData.Value), ?_⟩
    rw [decode, Response.read, Schema.readText, parse_nullLongitude]
    rfl

end Decode

end TypedGraphQL
