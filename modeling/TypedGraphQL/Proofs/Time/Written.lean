import Mathlib.Data.Nat.Digits.Defs
import TypedGraphQL.Proofs.Json.Scan
import TypedGraphQL.Time.Instant

/-!
# The text of a point in time

A point in time is written as RFC 3339 has it: a date, a `T`, a time of day and an offset.  A year has
four digits there.  A year that four digits are not enough for is written with a sign and in as many
digits as it needs, which is the one place where a text differs from that of RFC 3339.

## What is here

* `IsDigits` — a number in so many digits; `isDigits_padded`.
* `IsFullDate`, `IsPartialTime`, `IsTimeOffset`, `IsDateTime` — the parts of a text, named as in
  RFC 3339.  What a year looks like is left open, and which mark stands before the time of day.
* `IsFullYear`, `IsAnyYear` — years in four digits, and those with a sign.
* `IsRfc3339`, `IsTimestamp` — texts with years of either sort; `IsSpacedRfc3339` — those in which a
  blank may stand for the `T`.
* `isTimestamp_toText`, `isRfc3339_toText_iff` — a point in time is written with a year of the second
  sort, and of the first exactly if four digits are enough.
-/

set_option autoImplicit false

namespace TypedGraphQL.Instant

/-! ## The grammar -/

/-- The number `n` in `width` decimal digits. -/
structure IsDigits (width n : Nat) (s : List Char) : Prop where
  length : s.length = width
  isDigit : ∀ c ∈ s, c.isDigit = true
  value : digitsToNat s = n

/-- A day of the calendar. -/
inductive IsFullDate (IsYear : Int → List Char → Prop) : List Char → Prop
  | intro {year : Int} {month day : Nat} {y m d : List Char} (hy : IsYear year y)
      (hm : IsDigits 2 month m) (hd : IsDigits 2 day d) (h : IsDate year month day) :
      IsFullDate IsYear (y ++ '-' :: m ++ '-' :: d)

/-- The fraction of a second. -/
inductive IsSecondFraction : List Char → Prop
  | none : IsSecondFraction []
  | some {digits : List Char} (hne : digits ≠ []) (h : ∀ c ∈ digits, c.isDigit = true) :
      IsSecondFraction ('.' :: digits)

/-- A time of day; a minute may have a sixtieth second. -/
inductive IsPartialTime : List Char → Prop
  | intro {hour minute second : Nat} {h m s fraction : List Char} (hh : IsDigits 2 hour h)
      (hm : IsDigits 2 minute m) (hs : IsDigits 2 second s) (hhour : hour < 24)
      (hminute : minute < 60) (hsecond : second ≤ 60) (hfraction : IsSecondFraction fraction) :
      IsPartialTime (h ++ ':' :: m ++ ':' :: s ++ fraction)

/-- An offset from UTC. -/
inductive IsTimeOffset : List Char → Prop
  | utc {c : Char} (h : c = 'Z' ∨ c = 'z') : IsTimeOffset [c]
  | numeric {sign : Char} {hour minute : Nat} {h m : List Char} (hsign : sign = '+' ∨ sign = '-')
      (hh : IsDigits 2 hour h) (hm : IsDigits 2 minute m) (hhour : hour < 24)
      (hminute : minute < 60) : IsTimeOffset (sign :: h ++ ':' :: m)

/-- A date, one of the marks, a time of day and an offset. -/
inductive IsDateTime (IsYear : Int → List Char → Prop) (marks : List Char) : List Char → Prop
  | intro {date time offset : List Char} {t : Char} (hdate : IsFullDate IsYear date)
      (ht : t ∈ marks) (htime : IsPartialTime time) (hoffset : IsTimeOffset offset) :
      IsDateTime IsYear marks (date ++ t :: time ++ offset)

/-- A year in four digits. -/
inductive IsFullYear : Int → List Char → Prop
  | intro {n : Nat} {y : List Char} (h : IsDigits 4 n y) : IsFullYear n y

/-- A year in four digits; or any other year with a sign, in four digits or more. -/
inductive IsAnyYear : Int → List Char → Prop
  | full {year : Int} {y : List Char} (h : IsFullYear year y) : IsAnyYear year y
  | after {width n : Nat} {y : List Char} (hwidth : 4 ≤ width) (h : IsDigits width n y)
      (hn : 9999 < n) : IsAnyYear n ('+' :: y)
  | before {width n : Nat} {y : List Char} (hwidth : 4 ≤ width) (h : IsDigits width n y)
      (hn : 0 < n) : IsAnyYear (-n) ('-' :: y)

/-- An RFC 3339 text. -/
def IsRfc3339 (s : String) : Prop :=
  IsDateTime IsFullYear ['T', 't'] s.toList

/-- An RFC 3339 text in which a blank may stand for the `T`, as RFC 3339 leaves to programs. -/
def IsSpacedRfc3339 (s : String) : Prop :=
  IsDateTime IsFullYear ['T', 't', ' '] s.toList

/-- An RFC 3339 text, but for a year that may have a sign. -/
def IsTimestamp (s : String) : Prop :=
  IsDateTime IsAnyYear ['T', 't'] s.toList

/-! ## Digits -/

section Digits

variable {width n : Nat}

theorem digitsToNat_toDigits (n : Nat) : digitsToNat (Nat.toDigits 10 n) = n := by
  have h := Json.digitsValue_decimalDigits n
  rwa [Json.decimalDigits, Json.digitsValue, List.foldl_map] at h

/-- Zeros in front make no difference. -/
theorem digitsToNat_padded (width n : Nat) : digitsToNat (padded width n) = n := by
  have hzeros : ∀ k : Nat,
      (List.replicate k '0').foldl (fun n c => n * 10 + (c.toNat - 48)) 0 = 0 := by
    intro k
    induction k with
    | zero => rfl
    | succ k ih => exact ih
  rw [padded, digitsToNat, List.foldl_append, hzeros]
  exact digitsToNat_toDigits n

theorem isDigit_of_mem_padded : ∀ c ∈ padded width n, c.isDigit = true := by
  intro c hc
  rcases List.mem_append.1 hc with hc | hc
  · rw [List.eq_of_mem_replicate hc]
    rfl
  · exact Nat.isDigit_of_mem_toDigits (by decide) (by decide) hc

theorem length_padded : (padded width n).length = max width (Nat.toDigits 10 n).length := by
  simp only [padded, List.length_append, List.length_replicate]
  omega

/-- A number is written in as many digits as are needed, and at least in `width`. -/
theorem isDigits_padded_length (width n : Nat) :
    width ≤ (padded width n).length ∧ IsDigits (padded width n).length n (padded width n) := by
  refine ⟨?_, rfl, isDigit_of_mem_padded, digitsToNat_padded width n⟩
  rw [length_padded]
  exact Nat.le_max_left _ _

/-- **A number that `width` digits are enough for is written in `width` digits.** -/
theorem isDigits_padded (hwidth : 0 < width) (h : n < Nat.pow 10 width) :
    IsDigits width n (padded width n) := by
  refine ⟨?_, isDigit_of_mem_padded, digitsToNat_padded width n⟩
  rw [length_padded, max_eq_left (Nat.toDigits_length 10 n width hwidth h)]

end Digits

/-! ## The parts -/

section Parts

theorem isFullYear_yearText {year : Int} (h : 0 ≤ year ∧ year ≤ 9999) :
    IsFullYear year (yearText year) := by
  obtain ⟨n, rfl⟩ := Int.eq_ofNat_of_zero_le h.1
  have hn : n < Nat.pow 10 4 := by
    show n < 10000
    omega
  rw [yearText, if_pos h]
  exact .intro (isDigits_padded (by decide) hn)

theorem IsFullYear.exists_isDigit {year : Int} {y : List Char} (h : IsFullYear year y) :
    ∃ c rest, y = c :: rest ∧ c.isDigit = true := by
  obtain ⟨hdigits⟩ := h
  obtain ⟨c, rest, rfl⟩ := List.exists_cons_of_length_eq_add_one hdigits.length
  exact ⟨c, rest, rfl, hdigits.isDigit c List.mem_cons_self⟩

/-- **A year is written with a sign if four digits are not enough.** -/
theorem isAnyYear_yearText (year : Int) : IsAnyYear year (yearText year) := by
  by_cases h : 0 ≤ year ∧ year ≤ 9999
  · exact .full (isFullYear_yearText h)
  · obtain ⟨hwidth, hdigits⟩ := isDigits_padded_length 4 year.natAbs
    rw [yearText, if_neg h]
    by_cases hneg : year < 0
    · have hyear : year = -(year.natAbs : Int) := by omega
      rw [if_pos hneg]
      conv => arg 1; rw [hyear]
      exact .before hwidth hdigits (by omega)
    · have hyear : year = (year.natAbs : Int) := by omega
      rw [if_neg hneg]
      conv => arg 1; rw [hyear]
      exact .after hwidth hdigits (by omega)

theorem isSecondFraction_padded {width n : Nat} (h : 0 < width) :
    IsSecondFraction ('.' :: padded width n) := by
  refine .some (fun hnil => ?_) isDigit_of_mem_padded
  have hle := (isDigits_padded_length width n).1
  rw [hnil, List.length_nil] at hle
  omega

theorem isSecondFraction_fractionText (nano : Nat) : IsSecondFraction (fractionText nano) := by
  rw [fractionText]
  split
  · exact .none
  · split
    · exact isSecondFraction_padded (by decide)
    · split
      · exact isSecondFraction_padded (by decide)
      · exact isSecondFraction_padded (by decide)

/-- Two digits are enough for months, days, hours, minutes and seconds. -/
theorem isDigits_padded_two {n : Nat} (h : n < 100) : IsDigits 2 n (padded 2 n) :=
  isDigits_padded (by decide) h

end Parts

/-! ## The text -/

section Text

variable {IsYear : Int → List Char → Prop} (t : Instant)

/-- Two digits are enough for everything but the year. -/
theorem lt_hundred : t.date.month < 100 ∧ t.date.day < 100 ∧ t.hour < 100 ∧ t.minute < 100 ∧
    t.second < 100 := by
  obtain ⟨hhour, hminute, hsecond, -⟩ := t.isTimeOfDay
  obtain ⟨-, hmonth, -, hday⟩ := t.date.isDate
  have hmonths := (daysInMonth_bounds t.date.year t.date.month).2
  omega

/-- What is written of a point in time is a date, a time of day and the offset `Z`. -/
theorem isDateTime_text (h : IsYear t.date.year (yearText t.date.year)) :
    IsDateTime IsYear ['T', 't'] t.text := by
  obtain ⟨hhour, hminute, hsecond, -⟩ := t.isTimeOfDay
  obtain ⟨hmonth₂, hday₂, hhour₂, hminute₂, hsecond₂⟩ := t.lt_hundred
  have hdate : IsFullDate IsYear (yearText t.date.year ++ '-' :: padded 2 t.date.month ++
      '-' :: padded 2 t.date.day) :=
    .intro h (isDigits_padded_two hmonth₂) (isDigits_padded_two hday₂) t.date.isDate
  have htime : IsPartialTime (padded 2 t.hour ++ ':' :: padded 2 t.minute ++
      ':' :: padded 2 t.second ++ fractionText t.nano) :=
    .intro (isDigits_padded_two hhour₂) (isDigits_padded_two hminute₂)
      (isDigits_padded_two hsecond₂) hhour hminute hsecond (isSecondFraction_fractionText t.nano)
  have htext : IsDateTime IsYear ['T', 't'] _ :=
    .intro hdate List.mem_cons_self htime (.utc (Or.inl rfl))
  simpa [text] using htext

theorem isTimestamp_toText : IsTimestamp t.toText := by
  rw [IsTimestamp, toText, String.toList_ofList]
  exact t.isDateTime_text (isAnyYear_yearText t.date.year)

omit t in
/-- A text with a year in four digits begins with a digit. -/
theorem exists_isDigit_of_isDateTime {marks s : List Char} (h : IsDateTime IsFullYear marks s) :
    ∃ c rest, s = c :: rest ∧ c.isDigit = true := by
  obtain ⟨hdate, -, -, -⟩ := h
  obtain ⟨hyear, -, -, -⟩ := hdate
  obtain ⟨c, y, rfl, hc⟩ := hyear.exists_isDigit
  exact ⟨c, _, rfl, hc⟩

/-- **The text is one of RFC 3339 exactly if four digits are enough for the year.** -/
theorem isRfc3339_toText_iff : IsRfc3339 t.toText ↔ 0 ≤ t.date.year ∧ t.date.year ≤ 9999 := by
  rw [IsRfc3339, toText, String.toList_ofList]
  refine ⟨fun h => ?_, fun h => t.isDateTime_text (isFullYear_yearText h)⟩
  by_contra hyear
  obtain ⟨c, rest, htext, hc⟩ := exists_isDigit_of_isDateTime h
  rw [text, yearText, if_neg hyear] at htext
  obtain ⟨hsign, -⟩ := List.cons.inj htext
  rw [← hsign] at hc
  split at hc
  · cases hc
  · cases hc

end Text

end TypedGraphQL.Instant
