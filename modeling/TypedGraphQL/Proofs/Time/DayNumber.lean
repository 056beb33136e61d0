import Mathlib.Order.Monotone.Basic
import TypedGraphQL.Time.Calendar

/-!
# Days counted

The days of the calendar are numbered in their order, so that the distance of two days is the
difference of their numbers.  A year that is divisible by four is a leap year unless it is divisible
by a hundred but not by four hundred, and this gives the number of days before a year in one formula;
within a year the lengths of the months add up.

## What is here

* `daysBeforeYear`, `daysInMonths` — the days before a year, and those of its first months.
* `Date.dayNumber` — the number of a day; the first of January of the year 1 has the number 1.
* `Date.dayNumber_next`, `Date.dayNumber_previous` — neighbouring days have neighbouring numbers.
* `Date.eq_of_dayNumber_eq` — a day is known by its number.
-/

set_option autoImplicit false

namespace TypedGraphQL

/-! ## Years and months -/

/-- The number of days before a year, counted from the beginning of the year 1. -/
def daysBeforeYear (year : Int) : Int :=
  365 * (year - 1) + (year - 1) / 4 - (year - 1) / 100 + (year - 1) / 400

/-- The number of days in the first months of a year. -/
def daysInMonths (year : Int) : Nat → Nat
  | 0 => 0
  | month + 1 => daysInMonths year month + daysInMonth year (month + 1)

theorem isLeapYear_iff (year : Int) :
    isLeapYear year = true ↔ year % 4 = 0 ∧ (year % 100 ≠ 0 ∨ year % 400 = 0) := by
  simp [isLeapYear]

theorem daysInMonths_twelve (year : Int) :
    daysInMonths year 12 = if isLeapYear year = true then 366 else 365 := by
  by_cases h : isLeapYear year = true <;> simp [daysInMonths, daysInMonth, h]

/-- **A year ends where the next one begins.** -/
theorem daysBeforeYear_add_daysInMonths (year : Int) :
    daysBeforeYear year + daysInMonths year 12 = daysBeforeYear (year + 1) := by
  rw [daysInMonths_twelve, daysBeforeYear, daysBeforeYear]
  by_cases h : isLeapYear year = true
  · rw [if_pos h]
    rw [isLeapYear_iff] at h
    omega
  · rw [if_neg h]
    rw [isLeapYear_iff] at h
    omega

theorem daysBeforeYear_mono {year later : Int} (h : year ≤ later) :
    daysBeforeYear year ≤ daysBeforeYear later := by
  rw [daysBeforeYear, daysBeforeYear]
  omega

theorem daysInMonths_mono (year : Int) : Monotone (daysInMonths year) :=
  monotone_nat_of_le_succ fun _ => Nat.le_add_right _ _

namespace Date

/-! ## Numbers of days -/

/-- The number of a day. -/
def dayNumber (d : Date) : Int :=
  daysBeforeYear d.year + daysInMonths d.year (d.month - 1) + d.day

variable {d e : Date}

/-- **The number of the following day is the next one.** -/
theorem dayNumber_next (d : Date) : d.next.dayNumber = d.dayNumber + 1 := by
  obtain ⟨year, month, day, h⟩ := d
  obtain ⟨hmonth, hmonth', hday, hday'⟩ := h
  obtain ⟨past, rfl⟩ := Nat.exists_eq_add_of_le' hmonth
  have hsum : daysInMonths year (past + 1) = daysInMonths year past + daysInMonth year (past + 1) :=
    rfl
  rw [next]
  dsimp only
  split
  · simp only [dayNumber]
    omega
  · split
    · -- the last day of a month
      simp only [dayNumber, Nat.add_sub_cancel]
      omega
    · -- the last day of a year
      have hyear : daysBeforeYear year + daysInMonths year (11 + 1) = daysBeforeYear (year + 1) :=
        daysBeforeYear_add_daysInMonths year
      have hnone : daysInMonths (year + 1) 0 = 0 := rfl
      obtain rfl : past = 11 := by omega
      simp only [dayNumber, Nat.sub_self, Nat.add_sub_cancel, hnone]
      omega

theorem dayNumber_previous (d : Date) : d.previous.dayNumber = d.dayNumber - 1 := by
  have h := dayNumber_next d.previous
  rw [next_previous] at h
  omega

/-- The following day is one of the same year or of the next. -/
theorem year_next_le (d : Date) : d.next.year ≤ d.year + 1 := by
  rw [next]
  split
  · exact Int.le_add_of_nonneg_right (by decide)
  · split
    · exact Int.le_add_of_nonneg_right (by decide)
    · exact Int.le_refl _

/-- A day is one of its year. -/
theorem dayNumber_bounds (d : Date) :
    daysBeforeYear d.year < d.dayNumber ∧ d.dayNumber ≤ daysBeforeYear (d.year + 1) := by
  obtain ⟨hmonth, hmonth', hday, hday'⟩ := d.isDate
  obtain ⟨past, hpast⟩ := Nat.exists_eq_add_of_le' hmonth
  have hle : daysInMonths d.year (past + 1) ≤ daysInMonths d.year 12 :=
    daysInMonths_mono d.year (hpast ▸ hmonth')
  have hyear := daysBeforeYear_add_daysInMonths d.year
  rw [daysInMonths] at hle
  rw [hpast] at hday'
  rw [dayNumber, hpast, Nat.add_sub_cancel]
  omega

theorem year_le_of_dayNumber_le (h : d.dayNumber ≤ e.dayNumber) : d.year ≤ e.year := by
  by_contra hlt
  have hmono := daysBeforeYear_mono (show e.year + 1 ≤ d.year by omega)
  have hd := d.dayNumber_bounds
  have he := e.dayNumber_bounds
  omega

theorem month_le_of_dayNumber_le (hyear : d.year = e.year) (h : d.dayNumber ≤ e.dayNumber) :
    d.month ≤ e.month := by
  by_contra hlt
  obtain ⟨hdmonth, -, hdday, -⟩ := d.isDate
  obtain ⟨hemonth, -, -, heday⟩ := e.isDate
  obtain ⟨past, hpast⟩ := Nat.exists_eq_add_of_le' hemonth
  have hmono : daysInMonths e.year (past + 1) ≤ daysInMonths e.year (d.month - 1) :=
    daysInMonths_mono e.year (by omega)
  rw [daysInMonths] at hmono
  rw [hpast] at heday
  rw [dayNumber, dayNumber, hyear, hpast, Nat.add_sub_cancel] at h
  omega

/-- **A day is known by its number.** -/
theorem eq_of_dayNumber_eq (h : d.dayNumber = e.dayNumber) : d = e := by
  have hyear : d.year = e.year :=
    Int.le_antisymm (year_le_of_dayNumber_le h.le) (year_le_of_dayNumber_le h.ge)
  have hmonth : d.month = e.month :=
    Nat.le_antisymm (month_le_of_dayNumber_le hyear h.le) (month_le_of_dayNumber_le hyear.symm h.ge)
  have hday : d.day = e.day := by
    rw [dayNumber, dayNumber, hyear, hmonth] at h
    omega
  obtain ⟨year, month, day, hd⟩ := d
  obtain ⟨year', month', day', he⟩ := e
  cases hyear
  cases hmonth
  cases hday
  rfl

end Date

end TypedGraphQL
