/-!
# Days of the calendar

Dates are days of the Gregorian calendar, extended to all years, the year 0 and negative years
included.

## What is here

* `daysInMonth` — the length of a month.
* `Date` — a year, a month and a day that exists.
* `Date.next`, `Date.previous` — the neighbouring days; `next_previous`: the one undoes the other.
-/

set_option autoImplicit false

namespace TypedGraphQL

/-- The year has a 29 February. -/
def isLeapYear (year : Int) : Bool :=
  year % 4 == 0 && (year % 100 != 0 || year % 400 == 0)

/-- The number of days of a month. -/
def daysInMonth (year : Int) (month : Nat) : Nat :=
  if month = 2 then (if isLeapYear year then 29 else 28)
  else if month = 4 ∨ month = 6 ∨ month = 9 ∨ month = 11 then 30
  else 31

theorem daysInMonth_bounds (year : Int) (month : Nat) :
    28 ≤ daysInMonth year month ∧ daysInMonth year month ≤ 31 := by
  unfold daysInMonth
  split
  · split <;> omega
  · split <;> omega

/-- The calendar has the day. -/
def IsDate (year : Int) (month day : Nat) : Prop :=
  1 ≤ month ∧ month ≤ 12 ∧ 1 ≤ day ∧ day ≤ daysInMonth year month

instance (year : Int) (month day : Nat) : Decidable (IsDate year month day) :=
  inferInstanceAs (Decidable (_ ∧ _))

/-- A day of the calendar. -/
structure Date where
  year : Int
  month : Nat
  day : Nat
  isDate : IsDate year month day
  deriving DecidableEq

namespace Date

/-- The day with the given numbers, if the calendar has it. -/
def of? (year : Int) (month day : Nat) : Option Date :=
  if h : IsDate year month day then some ⟨year, month, day, h⟩ else none

theorem of?_self (d : Date) : of? d.year d.month d.day = some d := by
  simp [of?, d.isDate]

theorem of?_eq_some_iff {year : Int} {month day : Nat} {d : Date} :
    of? year month day = some d ↔ d.year = year ∧ d.month = month ∧ d.day = day := by
  constructor
  · intro h
    rw [of?] at h
    split at h
    · cases h
      exact ⟨rfl, rfl, rfl⟩
    · cases h
  · rintro ⟨rfl, rfl, rfl⟩
    exact d.of?_self

/-- The following day. -/
def next (d : Date) : Date :=
  if h : d.day < daysInMonth d.year d.month then
    ⟨d.year, d.month, d.day + 1, by have := d.isDate; unfold IsDate at *; omega⟩
  else if h' : d.month < 12 then
    ⟨d.year, d.month + 1, 1, by
      have := d.isDate
      have := daysInMonth_bounds d.year (d.month + 1)
      unfold IsDate at *
      omega⟩
  else ⟨d.year + 1, 1, 1, by simp [IsDate, daysInMonth]⟩

/-- The day before. -/
def previous (d : Date) : Date :=
  if h : 1 < d.day then
    ⟨d.year, d.month, d.day - 1, by have := d.isDate; unfold IsDate at *; omega⟩
  else if h' : 1 < d.month then
    ⟨d.year, d.month - 1, daysInMonth d.year (d.month - 1), by
      have := d.isDate
      have := daysInMonth_bounds d.year (d.month - 1)
      unfold IsDate at *
      omega⟩
  else ⟨d.year - 1, 12, 31, by simp [IsDate, daysInMonth]⟩

theorem next_previous (d : Date) : d.previous.next = d := by
  obtain ⟨year, month, day, h⟩ := d
  have h0 := h
  unfold IsDate at h0
  by_cases h₁ : 1 < day
  · simp [next, h₁, previous, show day - 1 < daysInMonth year month by omega,
      show day - 1 + 1 = day by omega]
  · have hd : day = 1 := by omega
    subst hd
    by_cases h₂ : 1 < month
    · simp [next, previous, h₂, show month - 1 < 12 by omega,
        show month - 1 + 1 = month by omega]
    · have hm : month = 1 := by omega
      subst hm
      simp [next, previous, daysInMonth]

end Date

end TypedGraphQL
