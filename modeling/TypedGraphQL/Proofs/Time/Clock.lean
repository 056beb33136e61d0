import TypedGraphQL.Proofs.Time.DayNumber
import TypedGraphQL.Time.Instant

/-!
# Clocks and points in time

A clock shows a day and a time of day, and it may be ahead of UTC or behind.  The point in time at
which it shows this is found without counting days, by going to the next day or to the day before;
counting them says that this is right, and that no other point in time is meant.

A minute may have a sixtieth second, which an offset of whole minutes leaves where it is.

## What is here

* `LocalTime` — what a clock shows.
* `Instant.IsAt` — the clock and the clock in UTC show the same point in time; `IsAt.unique`.
* `exists_ofLocal?`, `ofLocal?_eq_some_iff` — every clock shows a point in time, which is read if its
  year can be told apart.
-/

set_option autoImplicit false

namespace TypedGraphQL

/-- What a clock shows, and how far it is ahead of UTC. -/
structure LocalTime where
  date : Date
  hour : Nat
  minute : Nat
  second : Nat
  nano : Nat
  isTimeOfDay : IsTimeOfDay hour minute second nano
  /-- In minutes, and less than a day. -/
  offset : Int
  isOffset : -1440 < offset ∧ offset < 1440

/-- The number of a minute, counted from the same beginning as the days. -/
def minuteNumber (date : Date) (hour minute : Nat) : Int :=
  date.dayNumber * 1440 + hour * 60 + minute

namespace Instant

/-- **The point in time is the one that a clock shows**: the clock in UTC is behind by the offset. -/
structure IsAt (t : Instant) (l : LocalTime) : Prop where
  minute : minuteNumber t.date t.hour t.minute = minuteNumber l.date l.hour l.minute - l.offset
  second : t.second = l.second
  nano : t.nano = l.nano

/-- The clock in UTC. -/
def clock (t : Instant) : LocalTime where
  date := t.date
  hour := t.hour
  minute := t.minute
  second := t.second
  nano := t.nano
  isTimeOfDay := t.isTimeOfDay
  offset := 0
  isOffset := by decide

theorem isAt_clock (t : Instant) : t.IsAt t.clock where
  minute := (Int.sub_zero _).symm
  second := rfl
  nano := rfl

/-- **A clock shows one point in time only.** -/
theorem IsAt.unique {t t' : Instant} {l : LocalTime} (h : t.IsAt l) (h' : t'.IsAt l) : t = t' := by
  have hminutes := h.minute.trans h'.minute.symm
  have hsecond := h.second.trans h'.second.symm
  have hnano := h.nano.trans h'.nano.symm
  have htime := t.isTimeOfDay
  have htime' := t'.isTimeOfDay
  unfold IsTimeOfDay at htime htime'
  unfold minuteNumber at hminutes
  have hdate : t.date = t'.date := Date.eq_of_dayNumber_eq (by omega)
  rw [hdate] at hminutes
  have hhour : t.hour = t'.hour := by omega
  have hminute : t.minute = t'.minute := by omega
  obtain ⟨date, hour, minute, second, nano, hexists⟩ := t
  obtain ⟨date', hour', minute', second', nano', hexists'⟩ := t'
  cases hdate
  cases hhour
  cases hminute
  cases hsecond
  cases hnano
  rfl

/-- The clock in UTC shows the same year, the next one or the one before. -/
theorem IsAt.year_bounds {t : Instant} {l : LocalTime} (h : t.IsAt l) :
    l.date.year ≤ t.date.year + 1 ∧ t.date.year ≤ l.date.year + 1 := by
  have hminute := h.minute
  have htime := t.isTimeOfDay
  have htime' := l.isTimeOfDay
  have hoffset := l.isOffset
  unfold IsTimeOfDay at htime htime'
  unfold minuteNumber at hminute
  have hnear : ∀ d e : Date, d.dayNumber ≤ e.dayNumber + 1 → d.year ≤ e.year + 1 := by
    intro d e hle
    rw [← Date.dayNumber_next] at hle
    exact (Date.year_le_of_dayNumber_le hle).trans e.year_next_le
  exact ⟨hnear _ _ (by omega), hnear _ _ (by omega)⟩

/-! ## From a clock to a point in time -/

section OfLocal

variable {l : LocalTime} {t : Instant}

/-- A day and a minute that may be one of a neighbouring day, as a day and one of its minutes. -/
theorem minutes_of_shift {date day : Date} {minutes rest : Int}
    (hleast : -1440 ≤ minutes) (hgreatest : minutes < 2880)
    (h : (if minutes < 0 then (date.previous, minutes + 1440)
      else if 1440 ≤ minutes then (date.next, minutes - 1440) else (date, minutes)) = (day, rest)) :
    0 ≤ rest ∧ rest < 1440 ∧
      day.dayNumber * 1440 + rest = date.dayNumber * 1440 + minutes := by
  split at h
  · cases h
    rw [Date.dayNumber_previous]
    omega
  · split at h
    · cases h
      rw [Date.dayNumber_next]
      omega
    · cases h
      omega

/-- **Every clock shows a point in time**, which is read if its year can be told apart.  The clock in
UTC is less than a day away, so it shows the same day, the next one or the one before. -/
theorem exists_ofLocal? (l : LocalTime) :
    ∃ t : Instant, t.IsAt l ∧
      ofLocal? l.date l.hour l.minute l.second l.nano l.offset =
        if inRange t.date.year then some t else none := by
  obtain ⟨date, hour, minute, second, nano, ⟨hhour, hminute, hsecond, hnano⟩, offset, hleast,
    hgreatest⟩ := l
  rw [ofLocal?]
  dsimp only
  generalize hshift : (if _ < (0 : Int) then _ else _ : Date × Int) = shifted
  obtain ⟨day, rest⟩ := shifted
  obtain ⟨hnonneg, hlt, hsum⟩ := minutes_of_shift (by omega) (by omega) hshift
  have htime : IsTimeOfDay (rest / 60).toNat (rest % 60).toNat second nano :=
    ⟨by omega, by omega, hsecond, hnano⟩
  refine ⟨⟨day, _, _, _, _, htime⟩, ⟨?_, rfl, rfl⟩, dif_pos htime⟩
  simp only [minuteNumber]
  omega

/-- **What is read from a clock is the point in time that it shows.** -/
theorem ofLocal?_eq_some_iff :
    ofLocal? l.date l.hour l.minute l.second l.nano l.offset = some t ↔
      t.IsAt l ∧ inRange t.date.year = true := by
  obtain ⟨t', ht', heq⟩ := exists_ofLocal? l
  rw [heq, Option.ite_none_right_eq_some, Option.some_inj]
  constructor
  · rintro ⟨hrange, rfl⟩
    exact ⟨ht', hrange⟩
  · rintro ⟨ht, hrange⟩
    obtain rfl := ht.unique ht'
    exact ⟨hrange, rfl⟩

end OfLocal

end Instant

end TypedGraphQL
