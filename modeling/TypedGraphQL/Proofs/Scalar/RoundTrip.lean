import TypedGraphQL.Input
import TypedGraphQL.Proofs.Schema.Readable
import TypedGraphQL.Proofs.Schema.RoundTrip
import TypedGraphQL.Proofs.Time.Reader

/-!
# A nullable scalar comes back from its text

A nullable scalar is a value or `null`, and what looks like nothing is not nothing: zero, `false` and
the empty string are values.  This file shows that every scalar comes back from its text as what it
was, for strings of any characters, for the integers of 64 bits and for all points in time whose year
can be told apart.  Floating-point numbers are left out, but `null` is not.

A point in time may be read from texts that differ from the one it is written as: at another offset,
with more or fewer digits, with blanks between its parts.  Once written it stays as it is.

## What is here

* `ScalarKind.encoded`, `ScalarKind.decoded` — the text of a nullable scalar and the way back.
* `ScalarKind.Holds` — the scalars that come back; `decoded_encoded`.
* `decoded_str_eq_ok_iff` — a point in time is read from a string exactly as from its characters.
* `nullable_comes_back` — scalars of every kind, and points in time from whatever text.
-/

set_option autoImplicit false

namespace TypedGraphQL

open Json

namespace ScalarKind

variable {k : ScalarKind} {v : Option k.plainSchema.Value}

/-- The JSON text of a nullable scalar. -/
def encoded (k : ScalarKind) (v : Option k.plainSchema.Value) : String :=
  (k.schema.write v).render

/-- The nullable scalar in a JSON text. -/
def decoded (k : ScalarKind) (text : String) : Except ReadError (Option k.plainSchema.Value) :=
  k.schema.readText (bytesOf text)

/-- A scalar as a program holds it.  Nothing is promised of floating-point numbers. -/
def Holds : (k : ScalarKind) → Option k.plainSchema.Value → Prop
  | .float64, v => v = none
  | .time, v => ∀ t ∈ (v : Option Instant), Instant.inRange t.date.year = true
  | .bool, _ => True
  | .int64, _ => True
  | .string, _ => True
  | .id, _ => True

theorem holds_none : k.Holds none := by
  cases k with
  | float64 => rfl
  | time => exact nofun
  | bool | int64 | string | id => trivial

/-- A value is not written as `null`. -/
theorem write_eq_null_iff (h : k.Holds v) : k.schema.write v = .null ↔ v = none := by
  cases v with
  | none => exact iff_of_true rfl rfl
  | some v =>
    cases k with
    | float64 => cases h
    | bool | int64 | string | time | id => exact iff_of_false nofun nofun

theorem isIntegral_write (h : k.Holds v) : (k.schema.write v).IsIntegral := by
  cases v with
  | none => exact .null
  | some v =>
    cases k with
    | bool => exact .bool v
    | float64 => cases h
    | int64 =>
      obtain ⟨n, hleast, hgreatest⟩ := v
      exact .int hleast (hgreatest.trans (by decide))
    | string => exact .str v
    | time => exact .str _
    | id => exact .str v

theorem depth_write (h : k.Holds v) : (k.schema.write v).depth = 0 := by
  cases v with
  | none => rfl
  | some v =>
    cases k with
    | float64 => cases h
    | bool | int64 | string | time | id => rfl

theorem keeps_of_holds (h : k.Holds v) : k.schema.Keeps v := by
  cases v with
  | none => trivial
  | some v =>
    have hne : k.plainSchema.write v ≠ .null := fun hnull =>
      Option.some_ne_none v ((write_eq_null_iff h).1 hnull)
    refine ⟨hne, ?_⟩
    cases k with
    | float64 => cases h
    | time => exact Instant.parse?_toText (h v rfl)
    | bool | int64 | string | id => trivial

/-- **A nullable scalar comes back from its text.** -/
theorem decoded_encoded (h : k.Holds v) : k.decoded (k.encoded v) = .ok v := by
  refine Schema.readText_write (keeps_of_holds h) (isIntegral_write h) ?_
  rw [depth_write h]
  exact Nat.zero_le _

theorem encoded_none (k : ScalarKind) : k.encoded none = "null" := rfl

/-- The text of a value is not that of `null`. -/
theorem encoded_eq_null_iff (h : k.Holds v) : k.encoded v = "null" ↔ v = none := by
  rw [← encoded_none k]
  constructor
  · intro hnull
    have hread := decoded_encoded h
    rw [hnull, decoded_encoded holds_none] at hread
    exact (Except.ok.inj hread).symm
  · exact congrArg k.encoded

/-! ## Points in time from any text -/

section Time

variable {t : Instant}

theorem encoded_time (t : Instant) : time.encoded (some t) = (Json.str t.toText).render := rfl

/-- A point in time is read from a string exactly as from its characters. -/
theorem decoded_str_eq_ok_iff {s : String} :
    time.decoded (Json.str s).render = .ok (some t) ↔ Instant.parse? s = some t := by
  have hparse : parse (bytesOf (Json.str s).render) = (.str (some s), false) :=
    parse_render (.str s)
  refine Schema.readText_eq_ok_iff.trans ?_
  rw [hparse, and_iff_left rfl]
  refine Schema.read_optional_eq_ok_some_iff.trans ?_
  rw [and_iff_right (show ParseTree.str (some s) ≠ .null from nofun)]
  refine Schema.read_time_eq_ok_iff.trans ?_
  constructor
  · rintro ⟨_, ⟨⟩, h⟩
    exact h
  · exact fun h => ⟨s, rfl, h⟩

/-- A point in time that is read has a year that can be told apart, so it can be written. -/
theorem holds_of_decoded {text : String} (h : time.decoded text = .ok (some t)) :
    time.Holds (some t) := by
  obtain ⟨hread, -⟩ := Schema.readText_eq_ok_iff.1 h
  obtain ⟨-, hread⟩ := Schema.read_optional_eq_ok_some_iff.1 hread
  obtain ⟨s, -, hparse⟩ := Schema.read_time_eq_ok_iff.1 hread
  rintro _ ⟨⟩
  obtain ⟨_, -, -, -, hrange⟩ := Instant.parse?_eq_some_iff.1 hparse
  exact hrange

end Time

end ScalarKind

open ScalarKind in
/-- **Every nullable scalar comes back from its text**, and only the text of nothing is `null`.

A point in time may also be read from a text of another form: whatever text it is, the point in time
is written as the clock in UTC shows it, is read from there as what it was, and is written in the same
way again.  The texts that are read are exactly those that show a clock in a year that can be told
apart, there and in UTC, and they are read as the point in time that they show.  Every RFC 3339 text is
one of them, also with a blank for its `T`. -/
theorem nullable_comes_back :
    (∀ (k : ScalarKind) (v : Option k.plainSchema.Value), k.Holds v →
      k.decoded (k.encoded v) = .ok v ∧ (k.encoded v = "null" ↔ v = none)) ∧
    (∀ (text : String) (t : Instant), time.decoded text = .ok (some t) →
      ∃ s : String, time.encoded (some t) = (Json.str s).render ∧ Instant.IsTimestamp s ∧
        Instant.Shows s.toList t.clock ∧ s.toList.getLast? = some 'Z' ∧
        time.decoded (Json.str s).render = .ok (some t) ∧
        (time.decoded (Json.str s).render).map time.encoded = .ok (Json.str s).render) ∧
    (∀ (s : String) (t : Instant), time.decoded (Json.str s).render = .ok (some t) ↔
      ∃ l : LocalTime, Instant.Shows s.toList l ∧ Instant.inRange l.date.year = true ∧ t.IsAt l ∧
        Instant.inRange t.date.year = true) ∧
    ∀ s : String, Instant.IsSpacedRfc3339 s →
      ∃ (l : LocalTime) (t : Instant), Instant.Shows s.toList l ∧ t.IsAt l ∧
        time.decoded (Json.str s).render = .ok (some t) := by
  refine ⟨fun k v h => ⟨decoded_encoded h, encoded_eq_null_iff h⟩, fun text t h => ?_,
    fun s t => decoded_str_eq_ok_iff.trans Instant.parse?_eq_some_iff, fun s h => ?_⟩
  · have hread : time.decoded (Json.str t.toText).render = .ok (some t) := by
      rw [← encoded_time]
      exact decoded_encoded (holds_of_decoded h)
    refine ⟨t.toText, encoded_time t, t.isTimestamp_toText, t.shows_toText, ?_, hread, ?_⟩
    · rw [Instant.toText, String.toList_ofList, Instant.text, List.getLast?_concat]
    · exact congrArg (Except.map time.encoded) hread
  · obtain ⟨l, t, hshows, hat, hparse⟩ := Instant.exists_parse?_of_isSpacedRfc3339 h
    exact ⟨l, t, hshows, hat, decoded_str_eq_ok_iff.2 hparse⟩

/-- The leap second at the end of 1990. -/
def leapSecond : Instant where
  date := ⟨1990, 12, 31, by decide⟩
  hour := 23
  minute := 59
  second := 60
  nano := 0
  isTimeOfDay := by decide

section Examples

open ScalarKind Instant

/-- The leap second as a clock eight hours behind UTC showed it. -/
theorem isSpacedRfc3339_leapSecond : IsSpacedRfc3339 "1990-12-31 15:59:60-08:00" := by
  have hdigits : ∀ s : List Char, s.all Char.isDigit = true →
      IsDigits s.length (digitsToNat s) s := fun s h => ⟨rfl, List.all_eq_true.1 h, rfl⟩
  have hdate : IsFullDate IsFullYear ['1', '9', '9', '0', '-', '1', '2', '-', '3', '1'] :=
    .intro (IsFullYear.intro (hdigits ['1', '9', '9', '0'] rfl)) (hdigits ['1', '2'] rfl)
      (hdigits ['3', '1'] rfl) (by decide)
  have htime : IsPartialTime ['1', '5', ':', '5', '9', ':', '6', '0'] :=
    .intro (hdigits ['1', '5'] rfl) (hdigits ['5', '9'] rfl) (hdigits ['6', '0'] rfl)
      (by decide) (by decide) (by decide) .none
  have hoffset : IsTimeOffset ['-', '0', '8', ':', '0', '0'] :=
    .numeric (Or.inr rfl) (hdigits ['0', '8'] rfl) (hdigits ['0', '0'] rfl) (by decide) (by decide)
  have hblank : ' ' ∈ ['T', 't', ' '] := by simp
  exact .intro hdate hblank htime hoffset

/-- An empty string stays one, and so does a leap second, from whatever clock it was read and however
that was written. -/
theorem nullable_comes_back_leapSecond :
    string.decoded "\"\"" = .ok (some "") ∧
    (∃ l, Shows "1990-12-31 15:59:60-08:00".toList l ∧ leapSecond.IsAt l) ∧
    (∃ l, Shows "1990-12-31 7 : 59 :60.0 −1600 ".toList l ∧ leapSecond.IsAt l) ∧
    time.decoded "\"1990-12-31 15:59:60-08:00\"" = .ok (some leapSecond) ∧
    time.decoded "\"1990-12-31T23:59:60Z\"" = .ok (some leapSecond) := by
  obtain ⟨hback, htext, hread_iff, hrfc3339⟩ := nullable_comes_back
  have hlocal : (Json.str "1990-12-31 15:59:60-08:00").render =
      "\"1990-12-31 15:59:60-08:00\"" := by decide +kernel
  have hutc : time.encoded (some leapSecond) = "\"1990-12-31T23:59:60Z\"" := by decide +kernel
  have hread : time.decoded (Json.str "1990-12-31 15:59:60-08:00").render =
      .ok (some leapSecond) := decoded_str_eq_ok_iff.2 (by decide +kernel)
  have hloose : time.decoded (Json.str "1990-12-31 7 : 59 :60.0 −1600 ").render =
      .ok (some leapSecond) := decoded_str_eq_ok_iff.2 (by decide +kernel)
  refine ⟨?_, ?_, ?_, hlocal ▸ hread, ?_⟩
  · have hempty : string.encoded (some "") = "\"\"" := by decide +kernel
    rw [← hempty]
    exact (hback .string (some "") trivial).1
  · obtain ⟨l, t, hshows, hat, ht⟩ := hrfc3339 _ isSpacedRfc3339_leapSecond
    obtain rfl := Option.some.inj (Except.ok.inj (hread.symm.trans ht))
    exact ⟨l, hshows, hat⟩
  · obtain ⟨l, hshows, -, hat, -⟩ := (hread_iff _ leapSecond).1 hloose
    exact ⟨l, hshows, hat⟩
  · obtain ⟨s, hs, -, -, -, hagain, -⟩ := htext _ leapSecond hread
    rw [← hutc, hs]
    exact hagain

end Examples

end TypedGraphQL
