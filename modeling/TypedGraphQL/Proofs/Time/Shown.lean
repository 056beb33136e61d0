import TypedGraphQL.Proofs.Time.Clock
import TypedGraphQL.Proofs.Time.Written

/-!
# The clock that a text shows

A text shows a clock: a day, a time of day, and how far the clock is ahead of UTC.  RFC 3339 leaves
little choice in how this is written.  Texts that are read may be looser: there may be blanks around
their parts, numbers may have fewer digits and years more, a blank may stand for the `T`, and the
offset may be `UTC`, may lack the colon and may have another minus.

## What is here

* `ShowsYear`, `ShowsNumber`, `ShowsMark`, `ShowsFraction`, `ShowsOffset` — the parts of such a text.
* `Shows` — the text as a whole.
* `shows_toText` — the text of a point in time shows the clock in UTC.
* `exists_shows_of_isDateTime` — every RFC 3339 text shows a clock, also with a blank for the `T`.
-/

set_option autoImplicit false

namespace TypedGraphQL.Instant

/-! ## Digits -/

section Digits

variable {s : List Char}

/-- A digit shifts the digits before it by one place. -/
theorem digitsToNat_concat (s : List Char) (c : Char) :
    digitsToNat (s ++ [c]) = digitsToNat s * 10 + (c.toNat - 48) := by
  rw [digitsToNat, List.foldl_append]
  rfl

theorem digitsToNat_append (s t : List Char) :
    digitsToNat (s ++ t) = digitsToNat s * Nat.pow 10 t.length + digitsToNat t := by
  induction t generalizing s with
  | nil => rw [List.append_nil]; exact (Nat.mul_one _).symm
  | cons c t ih =>
    have hfirst := ih [c]
    have hdigit : digitsToNat [c] = c.toNat - 48 := Nat.zero_add _
    have hpow : Nat.pow 10 (c :: t).length = Nat.pow 10 t.length * 10 := rfl
    rw [List.singleton_append, hdigit] at hfirst
    rw [List.append_cons, ih, digitsToNat_concat, hfirst, hpow]
    ring

/-- Digits spell less than the power of ten that has one digit more. -/
theorem digitsToNat_lt (h : ∀ c ∈ s, c.isDigit = true) : digitsToNat s < Nat.pow 10 s.length := by
  induction s with
  | nil => exact Nat.one_pos
  | cons c s ih =>
    obtain ⟨hc, hs⟩ := List.forall_mem_cons.1 h
    have hdigit : digitsToNat [c] ≤ 9 := by
      simp only [Char.isDigit, Bool.and_eq_true, decide_eq_true_eq, UInt32.le_iff_toNat_le] at hc
      have hvalue : digitsToNat [c] = c.toNat - 48 := Nat.zero_add _
      rw [hvalue]
      exact Nat.sub_le_of_le_add hc.2
    have hpow : Nat.pow 10 ([c] ++ s).length = Nat.pow 10 s.length * 10 := rfl
    have hle := Nat.mul_le_mul_right (Nat.pow 10 s.length) hdigit
    have hlt := ih hs
    rw [← List.singleton_append, digitsToNat_append, hpow]
    omega

end Digits

/-! ## The parts of a text -/

/-- Blanks, or none. -/
def IsBlanks (s : List Char) : Prop :=
  ∀ c ∈ s, isBlank c = true

/-- A mark, behind blanks. -/
inductive ShowsMark (c : Char) : List Char → Prop
  | intro {blanks : List Char} (hblanks : IsBlanks blanks) : ShowsMark c (blanks ++ [c])

/-- A number in one or two digits, behind blanks. -/
inductive ShowsNumber : List Char → Nat → Prop
  | intro {width n : Nat} {blanks digits : List Char} (hblanks : IsBlanks blanks)
      (hpos : 0 < width) (hwidth : width ≤ 2) (h : IsDigits width n digits) :
      ShowsNumber (blanks ++ digits) n

/-- A year, behind blanks. -/
inductive ShowsYear : List Char → Int → Prop
  | unsigned {width n : Nat} {blanks digits : List Char} (hblanks : IsBlanks blanks)
      (hpos : 0 < width) (hwidth : width ≤ 4) (h : IsDigits width n digits) :
      ShowsYear (blanks ++ digits) n
  | after {width n : Nat} {blanks digits : List Char} (hblanks : IsBlanks blanks)
      (hpos : 0 < width) (h : IsDigits width n digits) : ShowsYear (blanks ++ '+' :: digits) n
  | before {width n : Nat} {blanks digits : List Char} (hblanks : IsBlanks blanks)
      (hpos : 0 < width) (h : IsDigits width n digits) : ShowsYear (blanks ++ '-' :: digits) (-n)

/-- The fraction of a second that some digits show, in whole nanoseconds. -/
inductive ShowsFraction : List Char → Nat → Prop
  | none : ShowsFraction [] 0
  | some {digits : List Char} {nano : Nat} (hne : digits ≠ [])
      (h : ∀ c ∈ digits, c.isDigit = true)
      (hnano : nano = digitsToNat digits * Nat.pow 10 9 / Nat.pow 10 digits.length) :
      ShowsFraction ('.' :: digits) nano

/-- The hours and the minutes of an offset, in minutes. -/
inductive ShowsMinutes : List Char → Nat → Prop
  | intro {hour minute : Nat} {h marks m : List Char} (hh : IsDigits 2 hour h)
      (hmarks : ∀ c ∈ marks, isOffsetMark c = true) (hm : IsDigits 2 minute m)
      (hhour : hour < 24) (hminute : minute < 60) :
      ShowsMinutes (h ++ (marks ++ m)) (hour * 60 + minute)

/-- A name of UTC. -/
inductive ShowsUtc : List Char → Prop
  | zulu {c : Char} (h : c ∈ ['Z', 'z']) : ShowsUtc [c]
  | utc {u t c : Char} (hu : u ∈ ['U', 'u']) (ht : t ∈ ['T', 't']) (hc : c ∈ ['C', 'c']) :
      ShowsUtc [u, t, c]

/-- The minutes by which a clock is ahead of UTC. -/
inductive ShowsOffset : List Char → Int → Prop
  | utc {s : List Char} (h : ShowsUtc s) : ShowsOffset s 0
  | ahead {s : List Char} {n : Nat} (h : ShowsMinutes s n) : ShowsOffset ('+' :: s) n
  | behind {sign : Char} {s : List Char} {n : Nat} (hsign : sign = '-' ∨ sign = '−')
      (h : ShowsMinutes s n) : ShowsOffset (sign :: s) (-n)

/-- **A text that shows a clock.** -/
inductive Shows : List Char → LocalTime → Prop
  | intro {l : LocalTime} {t : Char} {year month day hour minute second fraction offset dash dash'
      colon colon' blanks blanks' : List Char}
      (hyear : ShowsYear year l.date.year) (hdash : ShowsMark '-' dash)
      (hmonth : ShowsNumber month l.date.month) (hdash' : ShowsMark '-' dash')
      (hday : ShowsNumber day l.date.day) (ht : t ∈ ['T', 't', ' '])
      (hhour : ShowsNumber hour l.hour) (hcolon : ShowsMark ':' colon)
      (hminute : ShowsNumber minute l.minute) (hcolon' : ShowsMark ':' colon')
      (hsecond : ShowsNumber second l.second) (hfraction : ShowsFraction fraction l.nano)
      (hblanks : IsBlanks blanks) (hoffset : ShowsOffset offset l.offset)
      (hblanks' : IsBlanks blanks') :
      Shows (year ++ (dash ++ (month ++ (dash' ++ (day ++ t :: (hour ++ (colon ++ (minute ++
        (colon' ++ (second ++ (fraction ++ (blanks ++ (offset ++ blanks'))))))))))))) l

/-! ## Texts of RFC 3339 -/

section Strict

variable {n : Nat} {s : List Char}

theorem isBlanks_nil : IsBlanks [] :=
  List.forall_mem_nil _

theorem showsMark_singleton (c : Char) : ShowsMark c [c] :=
  .intro isBlanks_nil

theorem IsDigits.showsNumber (h : IsDigits 2 n s) : ShowsNumber s n :=
  .intro isBlanks_nil Nat.two_pos (Nat.le_refl 2) h

theorem IsAnyYear.showsYear {year : Int} (h : IsAnyYear year s) : ShowsYear s year := by
  cases h with
  | full h =>
    obtain ⟨hdigits⟩ := h
    exact .unsigned isBlanks_nil (Nat.succ_pos 3) (Nat.le_refl 4) hdigits
  | after hwidth h _ => exact .after isBlanks_nil (by omega) h
  | before hwidth h _ => exact .before isBlanks_nil (by omega) h

theorem IsSecondFraction.exists_shows (h : IsSecondFraction s) :
    ∃ nano, nano < Nat.pow 10 9 ∧ ShowsFraction s nano := by
  cases h with
  | none => exact ⟨0, by decide, .none⟩
  | some hne hdigits =>
    refine ⟨_, ?_, .some hne hdigits rfl⟩
    refine Nat.div_lt_of_lt_mul ?_
    exact Nat.mul_lt_mul_of_pos_right (digitsToNat_lt hdigits) (by decide)

theorem ShowsMinutes.lt (h : ShowsMinutes s n) : n < 1440 := by
  cases h
  omega

/-- An offset is less than a day. -/
theorem ShowsOffset.bounds {offset : Int} (h : ShowsOffset s offset) :
    -1440 < offset ∧ offset < 1440 := by
  cases h with
  | utc => decide
  | ahead h =>
    have hlt := h.lt
    omega
  | behind _ h =>
    have hlt := h.lt
    omega

theorem IsTimeOffset.exists_shows (h : IsTimeOffset s) : ∃ offset, ShowsOffset s offset := by
  cases h with
  | utc hc => exact ⟨0, .utc (.zulu (by simpa using hc))⟩
  | @numeric sign hour minute h m hsign hh hm hhour hminute =>
    have hcolon : ∀ c ∈ [':'], isOffsetMark c = true := List.forall_mem_singleton.2 rfl
    have hminutes : ShowsMinutes (h ++ ':' :: m) (hour * 60 + minute) :=
      .intro hh hcolon hm hhour hminute
    rcases hsign with rfl | rfl
    · exact ⟨_, .ahead hminutes⟩
    · exact ⟨_, .behind (Or.inl rfl) hminutes⟩

theorem IsFullYear.bounds {year : Int} (h : IsFullYear year s) : 0 ≤ year ∧ year ≤ 9999 := by
  obtain ⟨hdigits⟩ := h
  have hlt := digitsToNat_lt hdigits.isDigit
  rw [hdigits.value, hdigits.length] at hlt
  have hpow : Nat.pow 10 4 = 10000 := rfl
  omega

/-- **A date, a time of day and an offset show a clock**, whose year is one that can be written. -/
theorem exists_shows_of_isDateTime {IsYear : Int → List Char → Prop} {marks : List Char}
    (h : IsDateTime IsYear marks s) (hmarks : marks ⊆ ['T', 't', ' '])
    (hyears : ∀ year y, IsYear year y → IsAnyYear year y) :
    ∃ l y, Shows s l ∧ IsYear l.date.year y := by
  obtain ⟨hdate, ht, htime, hoffset⟩ := h
  obtain ⟨hyear, hmonth, hday, hexists⟩ := hdate
  obtain ⟨hh, hm, hs, hhour, hminute, hsecond, hfraction⟩ := htime
  obtain ⟨nano, hnano, hfraction⟩ := hfraction.exists_shows
  obtain ⟨offset, hoffset⟩ := hoffset.exists_shows
  let l : LocalTime :=
    ⟨⟨_, _, _, hexists⟩, _, _, _, nano, ⟨hhour, hminute, hsecond, hnano⟩, offset, hoffset.bounds⟩
  have hshows : Shows _ l :=
    .intro (hyears _ _ hyear).showsYear (showsMark_singleton '-') hmonth.showsNumber
      (showsMark_singleton '-') hday.showsNumber (hmarks ht) hh.showsNumber
      (showsMark_singleton ':') hm.showsNumber (showsMark_singleton ':') hs.showsNumber hfraction
      isBlanks_nil hoffset isBlanks_nil
  refine ⟨l, _, ?_, hyear⟩
  simpa using hshows

end Strict

/-! ## What is written -/

section Text

/-- The fraction of a second shows its nanoseconds. -/
theorem showsFraction_fractionText {nano : Nat} (h : nano < Nat.pow 10 9) :
    ShowsFraction (fractionText nano) nano := by
  have hdigits : ∀ {width n : Nat}, 0 < width → n < Nat.pow 10 width →
      nano = n * Nat.pow 10 9 / Nat.pow 10 width → ShowsFraction ('.' :: padded width n) nano := by
    intro width n hwidth hn hnano
    have hpadded := isDigits_padded hwidth hn
    have hne : padded width n ≠ [] :=
      List.ne_nil_of_length_pos (by rw [hpadded.length]; exact hwidth)
    refine .some hne hpadded.isDigit ?_
    rw [hpadded.length, hpadded.value, hnano]
  have hnano : nano < 1000000000 := h
  rw [fractionText]
  split
  · subst_vars
    exact .none
  · split
    · refine hdigits (by decide) (show _ < 1000 by omega) (show _ = _ * 1000000000 / 1000 by omega)
    · split
      · refine hdigits (by decide) (show _ < 1000000 by omega)
          (show _ = _ * 1000000000 / 1000000 by omega)
      · exact hdigits (by decide) h (show _ = _ * 1000000000 / 1000000000 by omega)

/-- **The text of a point in time shows the clock in UTC.** -/
theorem shows_toText (t : Instant) : Shows t.toText.toList t.clock := by
  obtain ⟨hmonth, hday, hhour, hminute, hsecond⟩ := t.lt_hundred
  have hfraction : ShowsFraction (fractionText t.nano) t.nano :=
    showsFraction_fractionText t.isTimeOfDay.2.2.2
  have hshows : Shows _ t.clock :=
    .intro (isAnyYear_yearText t.date.year).showsYear (showsMark_singleton '-')
      (isDigits_padded_two hmonth).showsNumber (showsMark_singleton '-')
      (isDigits_padded_two hday).showsNumber List.mem_cons_self
      (isDigits_padded_two hhour).showsNumber (showsMark_singleton ':')
      (isDigits_padded_two hminute).showsNumber (showsMark_singleton ':')
      (isDigits_padded_two hsecond).showsNumber hfraction isBlanks_nil
      (.utc (.zulu List.mem_cons_self)) isBlanks_nil
  simpa [toText, text] using hshows

end Text

end TypedGraphQL.Instant
