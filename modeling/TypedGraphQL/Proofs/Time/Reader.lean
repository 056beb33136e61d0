import Mathlib.Data.List.TakeWhile
import TypedGraphQL.Proofs.Time.Shown

/-!
# Points in time are read from the texts that show them

A text is read from the front, and each part of it ends where the next one begins: behind a number no
part begins with a digit, and none begins with a point but the fraction, which may be missing.  So
every reader is exact: it reads each text of its part and no other, and what is read of a whole text
is the point in time that it shows.

## What is here

* `Stops` — the text does not go on with a character of a sort.
* `readNumber?_append` and its likes — the text of a part is read, whatever is behind it.
* `showsNumber_of_readNumber?` and its likes — what is read is the text of a part.
* `parse?_eq_some_iff` — what is read is exactly what is shown.
* `parse?_toText` — a point in time comes back from its text, which is that of a clock in UTC.
* `exists_parse?_of_isSpacedRfc3339` — every RFC 3339 text is read.
-/

set_option autoImplicit false

namespace TypedGraphQL.Instant

/-! ## Where a part ends -/

section Stops

variable {p : Char → Bool} {c : Char} {a s rest : List Char}

/-- The text does not go on with a character of the sort. -/
def Stops (p : Char → Bool) (s : List Char) : Prop :=
  ∀ c ∈ s.head?, p c = false

theorem stops_cons (h : p c = false) : Stops p (c :: s) := by
  rintro _ ⟨⟩
  exact h

theorem stops_of_mem {chars : List Char} (h : chars.any p = false) (hc : c ∈ chars)
    (s : List Char) : Stops p (c :: s) :=
  stops_cons (Bool.eq_false_iff.2 (List.any_eq_false.1 h c hc))

/-- Characters of the sort are passed over up to the first one that is of another. -/
theorem dropWhile_append (h : ∀ c ∈ a, p c = true) (hstop : Stops p s) :
    (a ++ s).dropWhile p = s := by
  rw [List.dropWhile_append_of_pos h]
  cases s with
  | nil => rfl
  | cons c s => exact List.dropWhile_cons_of_neg (Bool.eq_false_iff.1 (hstop c rfl))

theorem takeWhile_append (h : ∀ c ∈ a, p c = true) (hstop : Stops p s) :
    (a ++ s).takeWhile p = a := by
  rw [List.takeWhile_append_of_pos h]
  cases s with
  | nil => exact List.append_nil a
  | cons c s =>
    rw [List.takeWhile_cons_of_neg (Bool.eq_false_iff.1 (hstop c rfl)), List.append_nil]

/-- What is passed over are characters of the sort. -/
theorem exists_dropWhile (p : Char → Bool) (s : List Char) :
    ∃ a, (∀ c ∈ a, p c = true) ∧ s = a ++ s.dropWhile p :=
  ⟨s.takeWhile p, fun _ => List.mem_takeWhile_imp, List.takeWhile_append_dropWhile.symm⟩

theorem isBlank_of_isDigit (h : c.isDigit = true) : isBlank c = false := by
  simp only [Char.isDigit, Bool.and_eq_true, decide_eq_true_eq, UInt32.le_iff_toNat_le] at h
  have hleast : 48 ≤ c.toNat := h.1
  have hgreatest : c.toNat ≤ 57 := h.2
  simp [isBlank]
  omega

theorem isOffsetMark_of_isDigit (h : c.isDigit = true) : isOffsetMark c = false := by
  rw [isOffsetMark, isBlank_of_isDigit h, Bool.or_false, beq_eq_false_iff_ne]
  rintro rfl
  cases h

/-- A text that begins with a number begins with a digit. -/
theorem IsDigits.stops {width n : Nat} (h : IsDigits width n s) (hpos : 0 < width)
    (hp : ∀ c, c.isDigit = true → p c = false) (rest : List Char) : Stops p (s ++ rest) := by
  obtain ⟨c, s, rfl⟩ := List.exists_cons_of_length_pos (h.length ▸ hpos)
  exact stops_cons (hp c (h.isDigit c List.mem_cons_self))

/-- Behind blanks a text goes on with a blank or as it does without. -/
theorem IsBlanks.stops (h : IsBlanks a) (hp : ∀ c, isBlank c = true → p c = false)
    (hs : Stops p s) : Stops p (a ++ s) := by
  cases a with
  | nil => exact hs
  | cons c a => exact stops_cons (hp c (h c List.mem_cons_self))

theorem isDigit_of_isBlank (h : isBlank c = true) : c.isDigit = false :=
  Bool.eq_false_iff.2 fun hdigit => Bool.eq_false_iff.1 (isBlank_of_isDigit hdigit) h

end Stops

/-! ## Digits, blanks and marks -/

section Digits

variable {α : Type} {width most n : Nat} {c : Char} {chars digits s rest : List Char}

theorem skipBlanks_append {blanks : List Char} (h : IsBlanks blanks) (hstop : Stops isBlank s) :
    skipBlanks (blanks ++ s) = s :=
  dropWhile_append h hstop

theorem IsBlanks.skipBlanks {blanks : List Char} (h : IsBlanks blanks) :
    Instant.skipBlanks blanks = [] :=
  List.dropWhile_eq_nil_iff.2 h

theorem exists_blanks (s : List Char) : ∃ blanks, IsBlanks blanks ∧ s = blanks ++ skipBlanks s :=
  exists_dropWhile isBlank s

theorem readOneOf?_eq_some_iff : readOneOf? chars s = some rest ↔ ∃ c ∈ chars, s = c :: rest := by
  cases s with
  | nil => simp [readOneOf?]
  | cons c s =>
    rw [readOneOf?, Option.ite_none_right_eq_some, Option.some_inj, List.contains_iff_mem]
    simp only [List.cons.injEq]
    constructor
    · rintro ⟨hmem, rfl⟩
      exact ⟨c, hmem, rfl, rfl⟩
    · rintro ⟨_, hmem, rfl, rfl⟩
      exact ⟨hmem, rfl⟩

/-- So many digits are read, and nothing else. -/
theorem readDigits?_eq_some_iff :
    readDigits? width s = some (n, rest) ↔
      ∃ digits, IsDigits width n digits ∧ s = digits ++ rest := by
  rw [readDigits?, Option.ite_none_right_eq_some]
  constructor
  · rintro ⟨⟨hlength, hdigits⟩, heq⟩
    cases heq
    exact ⟨s.take width, ⟨hlength, List.all_eq_true.1 hdigits, rfl⟩,
      (List.take_append_drop _ s).symm⟩
  · rintro ⟨digits, ⟨rfl, hdigits, rfl⟩, rfl⟩
    rw [List.take_left, List.drop_left]
    exact ⟨⟨rfl, List.all_eq_true.2 hdigits⟩, rfl⟩

theorem readDigits?_append (h : IsDigits width n digits) (rest : List Char) :
    readDigits? width (digits ++ rest) = some (n, rest) :=
  readDigits?_eq_some_iff.2 ⟨digits, h, rfl⟩

/-- Digits are read up to the first character that is none. -/
theorem readDigitRun?_append (value : List Char → α) (h : IsDigits width n digits)
    (hpos : 0 < width) (hmost : width ≤ most) (hstop : Stops Char.isDigit rest) :
    readDigitRun? most value (digits ++ rest) = some (value digits, rest) := by
  have hlength : digits.length ≤ most := h.length.trans_le hmost
  have hne : digits ≠ [] := List.ne_nil_of_length_pos (h.length ▸ hpos)
  rw [readDigitRun?, takeWhile_append h.isDigit hstop, List.take_of_length_le hlength]
  simp only [if_neg hne, List.drop_left]

/-- All digits are read if as many as the text is long are allowed. -/
theorem IsDigits.le_length (h : IsDigits width n digits) (rest : List Char) :
    width ≤ (digits ++ rest).length := by
  rw [List.length_append, h.length]
  exact Nat.le_add_right _ _

/-- What is read are digits, and no more than are allowed. -/
theorem isDigits_of_readDigitRun? {value : List Char → α} {a : α}
    (h : readDigitRun? most value s = some (a, rest)) :
    ∃ digits, value digits = a ∧ s = digits ++ rest ∧ 0 < digits.length ∧
      digits.length ≤ most ∧ IsDigits digits.length (digitsToNat digits) digits := by
  rw [readDigitRun?] at h
  obtain ⟨hne, heq⟩ := Option.ite_none_left_eq_some.1 h
  cases heq
  have hprefix : (s.takeWhile Char.isDigit).take most <+: s :=
    (List.take_prefix _ _).trans (List.takeWhile_prefix _)
  refine ⟨_, rfl, (List.prefix_iff_eq_append.1 hprefix).symm, List.length_pos_iff.2 hne,
    List.length_take_le _ _, rfl, fun c hc => ?_, rfl⟩
  exact List.mem_takeWhile_imp (List.mem_of_mem_take hc)

/-- The first nine digits of a fraction are its whole nanoseconds. -/
theorem fractionToNat_eq (h : ∀ c ∈ s, c.isDigit = true) :
    fractionToNat s = digitsToNat s * Nat.pow 10 9 / Nat.pow 10 s.length := by
  rw [fractionToNat]
  have hpow : ∀ m n, Nat.pow 10 (m + n) = Nat.pow 10 m * Nat.pow 10 n := Nat.pow_add 10
  have hpos : ∀ n, 0 < Nat.pow 10 n := fun n => Nat.pow_pos (by decide)
  rcases Nat.le_total s.length 9 with hle | hle
  · rw [List.take_of_length_le hle, ← Nat.sub_add_cancel hle, hpow, Nat.add_sub_cancel,
      ← Nat.mul_assoc, Nat.mul_div_cancel _ (hpos _)]
  · have hlength : (s.take 9).length = 9 := List.length_take_of_le hle
    have hback : ∀ c ∈ s.drop 9, c.isDigit = true := fun c hc => h c (List.mem_of_mem_drop hc)
    have hlt := digitsToNat_lt hback
    rw [hlength, Nat.sub_self]
    conv => rhs; rw [← List.take_append_drop 9 s]
    rw [digitsToNat_append, List.length_append, hlength, hpow,
      Nat.mul_comm (Nat.pow 10 9) (Nat.pow 10 _), Nat.mul_div_mul_right _ _ (hpos 9), Nat.add_comm,
      Nat.add_mul_div_right _ _ (hpos _), Nat.div_eq_of_lt hlt, Nat.zero_add]
    exact Nat.mul_one _

end Digits

/-! ## The parts of a text -/

section Parts

variable {c : Char} {s rest : List Char}

theorem ShowsMark.stops (h : ShowsMark c s) (hc : c.isDigit = false) (rest : List Char) :
    Stops Char.isDigit (s ++ rest) := by
  obtain ⟨hblanks⟩ := h
  rw [List.append_assoc]
  exact hblanks.stops (fun _ => isDigit_of_isBlank) (stops_cons hc)

theorem readMark?_append (h : ShowsMark c s) (hc : isBlank c = false) (rest : List Char) :
    readMark? c (s ++ rest) = some rest := by
  obtain ⟨hblanks⟩ := h
  rw [readMark?, List.append_assoc, List.singleton_append,
    skipBlanks_append hblanks (stops_cons hc)]
  exact readOneOf?_eq_some_iff.2 ⟨c, List.mem_singleton_self c, rfl⟩

theorem showsMark_of_readMark? (h : readMark? c s = some rest) :
    ∃ mark, ShowsMark c mark ∧ s = mark ++ rest := by
  obtain ⟨blanks, hblanks, hs⟩ := exists_blanks s
  obtain ⟨d, hd, heq⟩ := readOneOf?_eq_some_iff.1 h
  obtain rfl := List.mem_singleton.1 hd
  exact ⟨blanks ++ [d], .intro hblanks, by rw [hs, heq, List.append_assoc]; rfl⟩

theorem readNumber?_append {n : Nat} (h : ShowsNumber s n) (hstop : Stops Char.isDigit rest) :
    readNumber? (s ++ rest) = some (n, rest) := by
  obtain ⟨hblanks, hpos, hwidth, hdigits⟩ := h
  rw [readNumber?, List.append_assoc,
    skipBlanks_append hblanks (hdigits.stops hpos (fun _ => isBlank_of_isDigit) rest),
    readDigitRun?_append _ hdigits hpos hwidth hstop, hdigits.value]

theorem showsNumber_of_readNumber? {n : Nat} (h : readNumber? s = some (n, rest)) :
    ∃ number, ShowsNumber number n ∧ s = number ++ rest := by
  obtain ⟨blanks, hblanks, hs⟩ := exists_blanks s
  obtain ⟨digits, rfl, hrest, hpos, hwidth, hdigits⟩ := isDigits_of_readDigitRun? h
  exact ⟨blanks ++ digits, .intro hblanks hpos hwidth hdigits,
    by rw [hs, hrest, List.append_assoc]⟩

theorem readYear?_append {year : Int} (h : ShowsYear s year) (hstop : Stops Char.isDigit rest) :
    readYear? (s ++ rest) = some (year, rest) := by
  cases h with
  | @unsigned width n blanks digits hblanks hpos hwidth h =>
    have hsign : ∀ (sign : Char) (t : List Char), sign.isDigit = false →
        digits ++ rest ≠ sign :: t := by
      intro sign t hsign heq
      have hstops := h.stops (p := fun c => !c.isDigit) hpos (fun c hc => by simp [hc]) rest
      rw [heq] at hstops
      simpa [hsign] using hstops sign rfl
    rw [readYear?, List.append_assoc,
      skipBlanks_append hblanks (h.stops hpos (fun _ => isBlank_of_isDigit) rest), ← h.value]
    split
    · next heq => exact absurd heq (hsign '+' _ rfl)
    · next heq => exact absurd heq (hsign '-' _ rfl)
    · rw [readDigitRun?_append _ h hpos hwidth hstop]
  | after hblanks hpos h =>
    rw [readYear?, List.append_assoc, List.cons_append,
      skipBlanks_append hblanks (stops_cons (by decide)), ← h.value]
    exact readDigitRun?_append _ h hpos (h.le_length rest) hstop
  | before hblanks hpos h =>
    rw [readYear?, List.append_assoc, List.cons_append,
      skipBlanks_append hblanks (stops_cons (by decide)), ← h.value]
    exact readDigitRun?_append _ h hpos (h.le_length rest) hstop

theorem showsYear_of_readYear? {year : Int} (h : readYear? s = some (year, rest)) :
    ∃ y, ShowsYear y year ∧ s = y ++ rest := by
  obtain ⟨blanks, hblanks, hs⟩ := exists_blanks s
  rw [readYear?] at h
  split at h
  · next t hsign =>
    obtain ⟨digits, rfl, hrest, hpos, -, hdigits⟩ := isDigits_of_readDigitRun? h
    exact ⟨_, .after hblanks hpos hdigits, by rw [hs, hsign, hrest, List.append_assoc]; rfl⟩
  · next t hsign =>
    obtain ⟨digits, rfl, hrest, hpos, -, hdigits⟩ := isDigits_of_readDigitRun? h
    exact ⟨_, .before hblanks hpos hdigits, by rw [hs, hsign, hrest, List.append_assoc]; rfl⟩
  · obtain ⟨digits, rfl, hrest, hpos, hwidth, hdigits⟩ := isDigits_of_readDigitRun? h
    exact ⟨_, .unsigned hblanks hpos hwidth hdigits, by rw [hs, hrest, List.append_assoc]⟩

theorem readFraction?_append {nano : Nat} (h : ShowsFraction s nano)
    (hstop : Stops Char.isDigit rest) (hdot : Stops (· == '.') rest) :
    readFraction? (s ++ rest) = some (nano, rest) := by
  cases h with
  | none =>
    rw [List.nil_append, readFraction?]
    rintro t rfl
    exact Bool.false_ne_true (hdot '.' rfl).symm
  | @some digits nano hne hdigits hnano =>
    have hrun : IsDigits digits.length (digitsToNat digits) digits := ⟨rfl, hdigits, rfl⟩
    rw [List.cons_append, readFraction?, hnano, ← fractionToNat_eq hdigits]
    exact readDigitRun?_append _ hrun (List.length_pos_iff.2 hne) (hrun.le_length rest) hstop

theorem ShowsFraction.stops {nano : Nat} (h : ShowsFraction s nano)
    (hstop : Stops Char.isDigit rest) : Stops Char.isDigit (s ++ rest) := by
  cases h with
  | none => exact hstop
  | some => exact stops_cons (by decide)

theorem showsFraction_of_readFraction? {nano : Nat} (h : readFraction? s = some (nano, rest)) :
    ∃ fraction, ShowsFraction fraction nano ∧ s = fraction ++ rest := by
  unfold readFraction? at h
  split at h
  · obtain ⟨digits, rfl, hrest, hpos, -, hdigits⟩ := isDigits_of_readDigitRun? h
    exact ⟨_, .some (List.ne_nil_of_length_pos hpos) hdigits.isDigit
      (fractionToNat_eq hdigits.isDigit), by rw [hrest]; rfl⟩
  · cases h
    exact ⟨[], .none, rfl⟩

theorem readMinutes?_append {n : Nat} (h : ShowsMinutes s n) (rest : List Char) :
    readMinutes? (s ++ rest) = some (n, rest) := by
  obtain ⟨hh, hmarks, hm, hhour, hminute⟩ := h
  have hhours := fun rest => readDigits?_append hh rest
  have hminutes := readDigits?_append hm rest
  have hdrop := dropWhile_append hmarks
    (hm.stops Nat.two_pos (fun _ => isOffsetMark_of_isDigit) rest)
  rw [List.append_assoc, List.append_assoc, readMinutes?]
  simp [hhours, hminutes, hdrop, hhour, hminute]

theorem showsMinutes_of_readMinutes? {n : Nat} (h : readMinutes? s = some (n, rest)) :
    ∃ minutes, ShowsMinutes minutes n ∧ s = minutes ++ rest := by
  obtain ⟨⟨hour, s'⟩, hhours, h⟩ := Option.bind_eq_some_iff.1 h
  obtain ⟨⟨minute, _⟩, hminutes, h⟩ := Option.bind_eq_some_iff.1 h
  obtain ⟨⟨hhour, hminute⟩, heq⟩ := Option.ite_none_right_eq_some.1 h
  cases heq
  obtain ⟨hs, hh, rfl⟩ := readDigits?_eq_some_iff.1 hhours
  obtain ⟨ms, hm, hrest⟩ := readDigits?_eq_some_iff.1 hminutes
  obtain ⟨marks, hmarks, hs'⟩ := exists_dropWhile isOffsetMark s'
  refine ⟨_, .intro hh hmarks hm hhour hminute, ?_⟩
  rw [hs', hrest, List.append_assoc, List.append_assoc]

theorem readUtc?_eq_some_iff :
    readUtc? s = some rest ↔ ∃ name, ShowsUtc name ∧ s = name ++ rest := by
  rw [readUtc?, Option.or_eq_some_iff]
  constructor
  · rintro (h | ⟨-, h⟩)
    · obtain ⟨c, hc, rfl⟩ := readOneOf?_eq_some_iff.1 h
      exact ⟨[c], .zulu hc, rfl⟩
    · obtain ⟨_, h, h'⟩ := Option.bind_eq_some_iff.1 h
      obtain ⟨_, h', h''⟩ := Option.bind_eq_some_iff.1 h'
      obtain ⟨u, hu, rfl⟩ := readOneOf?_eq_some_iff.1 h
      obtain ⟨t, ht, rfl⟩ := readOneOf?_eq_some_iff.1 h'
      obtain ⟨c, hc, rfl⟩ := readOneOf?_eq_some_iff.1 h''
      exact ⟨[u, t, c], .utc hu ht hc, rfl⟩
  · rintro ⟨name, hname, rfl⟩
    cases hname with
    | zulu hc => exact Or.inl (readOneOf?_eq_some_iff.2 ⟨_, hc, rfl⟩)
    | @utc u t c hu ht hc =>
      refine Or.inr ⟨?_, ?_⟩
      · have hu' : u = 'U' ∨ u = 'u' := by simpa using hu
        rcases hu' with rfl | rfl <;> rfl
      · refine Option.bind_eq_some_iff.2 ⟨_, readOneOf?_eq_some_iff.2 ⟨u, hu, rfl⟩, ?_⟩
        refine Option.bind_eq_some_iff.2 ⟨_, readOneOf?_eq_some_iff.2 ⟨t, ht, rfl⟩, ?_⟩
        exact readOneOf?_eq_some_iff.2 ⟨c, hc, rfl⟩

/-- What shows an offset begins with a letter or a sign. -/
theorem ShowsOffset.exists_cons {offset : Int} (h : ShowsOffset s offset) :
    ∃ c ∈ ['Z', 'z', 'U', 'u', '+', '-', '−'], ∃ t, s = c :: t := by
  cases h with
  | utc h =>
    cases h with
    | zulu hc => exact ⟨_, by aesop, _, rfl⟩
    | utc hu ht hc => exact ⟨_, by aesop, _, rfl⟩
  | ahead => exact ⟨_, by simp, _, rfl⟩
  | behind hsign => exact ⟨_, by aesop, _, rfl⟩

theorem ShowsOffset.stops {offset : Int} {p : Char → Bool} (h : ShowsOffset s offset)
    (hp : ['Z', 'z', 'U', 'u', '+', '-', '−'].any p = false) (rest : List Char) :
    Stops p (s ++ rest) := by
  obtain ⟨c, hc, t, rfl⟩ := h.exists_cons
  exact stops_of_mem hp hc _

/-- Blanks and an offset begin neither with a digit nor with a point. -/
theorem ShowsOffset.stops_append {offset : Int} {blanks : List Char} (h : ShowsOffset s offset)
    (hblanks : IsBlanks blanks) (rest : List Char) :
    Stops Char.isDigit (blanks ++ (s ++ rest)) ∧ Stops (· == '.') (blanks ++ (s ++ rest)) := by
  refine ⟨?_, ?_⟩
  · exact hblanks.stops (fun _ => isDigit_of_isBlank) (h.stops rfl rest)
  · refine hblanks.stops (fun c hc => beq_eq_false_iff_ne.2 ?_) (h.stops rfl rest)
    rintro rfl
    exact absurd hc (by decide)

theorem readOffset?_append {offset : Int} {blanks : List Char} (h : ShowsOffset s offset)
    (hblanks : IsBlanks blanks) (rest : List Char) :
    readOffset? (skipBlanks (blanks ++ (s ++ rest))) = some (offset, rest) := by
  rw [skipBlanks_append hblanks (h.stops rfl rest)]
  cases h with
  | utc h => simp [readOffset?, readUtc?_eq_some_iff.2 ⟨s, h, rfl⟩]
  | ahead h =>
    have hutc : ∀ t, readUtc? ('+' :: t) = none := fun t => rfl
    simp [readOffset?, hutc, readMinutes?_append h]
  | @behind sign s n hsign h =>
    have hutc : ∀ t, readUtc? (sign :: t) = none := by
      rcases hsign with rfl | rfl <;> exact fun t => rfl
    have hplus : sign ≠ '+' := by rcases hsign with rfl | rfl <;> decide
    simp [readOffset?, hutc, readMinutes?_append h, hplus, hsign]

theorem showsOffset_of_readOffset? {offset : Int} (h : readOffset? s = some (offset, rest)) :
    ∃ text, ShowsOffset text offset ∧ s = text ++ rest := by
  unfold readOffset? at h
  split at h
  · next hutc =>
    cases h
    obtain ⟨name, hname, rfl⟩ := readUtc?_eq_some_iff.1 hutc
    exact ⟨name, .utc hname, rfl⟩
  · cases s with
    | nil => cases h
    | cons sign s =>
      dsimp only at h
      split at h
      · next hsign =>
        subst hsign
        obtain ⟨⟨n, _⟩, hread, heq⟩ := Option.map_eq_some_iff.1 h
        cases heq
        obtain ⟨minutes, hminutes, rfl⟩ := showsMinutes_of_readMinutes? hread
        exact ⟨'+' :: minutes, .ahead hminutes, rfl⟩
      · obtain ⟨hsign, h⟩ := Option.ite_none_right_eq_some.1 h
        obtain ⟨⟨n, _⟩, hread, heq⟩ := Option.map_eq_some_iff.1 h
        cases heq
        obtain ⟨minutes, hminutes, rfl⟩ := showsMinutes_of_readMinutes? hread
        exact ⟨sign :: minutes, .behind hsign hminutes, rfl⟩

end Parts

/-! ## The text -/

section Text

variable {s : List Char} {l : LocalTime} {t : Instant}

theorem parseChars?_eq (h : Shows s l) :
    parseChars? s =
      if inRange l.date.year then ofLocal? l.date l.hour l.minute l.second l.nano l.offset
      else none := by
  cases h with
  | intro hyear hdash hmonth hdash' hday ht hhour hcolon hminute hcolon' hsecond hfraction hblanks
      hoffset hblanks' =>
    -- each part is read, and the reader goes on behind it
    have hpart : ∀ {α β : Type} {x : Option α} {a : α} (f : α → Option β), x = some a →
        x.bind f = f a := by
      rintro α β x a f rfl
      rfl
    have hbehind := hoffset.stops_append hblanks
    refine (hpart _ (readYear?_append hyear (hdash.stops rfl _))).trans ?_
    refine (hpart _ (readMark?_append hdash rfl _)).trans ?_
    refine (hpart _ (readNumber?_append hmonth (hdash'.stops rfl _))).trans ?_
    refine (hpart _ (readMark?_append hdash' rfl _)).trans ?_
    refine (hpart _ (readNumber?_append hday (stops_of_mem rfl ht _))).trans ?_
    refine (hpart _ (readOneOf?_eq_some_iff.2 ⟨_, ht, rfl⟩)).trans ?_
    refine (hpart _ (readNumber?_append hhour (hcolon.stops rfl _))).trans ?_
    refine (hpart _ (readMark?_append hcolon rfl _)).trans ?_
    refine (hpart _ (readNumber?_append hminute (hcolon'.stops rfl _))).trans ?_
    refine (hpart _ (readMark?_append hcolon' rfl _)).trans ?_
    refine (hpart _ (readNumber?_append hsecond (hfraction.stops (hbehind _).1))).trans ?_
    refine (hpart _ (readFraction?_append hfraction (hbehind _).1 (hbehind _).2)).trans ?_
    refine (hpart _ (readOffset?_append hoffset hblanks _)).trans ?_
    rw [Date.of?_self]
    exact if_congr (by simp [hblanks'.skipBlanks, l.isTimeOfDay]) rfl rfl

/-- What is read is what a clock shows whose text it is. -/
theorem exists_shows_of_parseChars? (h : parseChars? s = some t) : ∃ l, Shows s l := by
  obtain ⟨⟨year, _⟩, hreadYear, h⟩ := Option.bind_eq_some_iff.1 h
  obtain ⟨_, hreadDash, h⟩ := Option.bind_eq_some_iff.1 h
  obtain ⟨⟨month, _⟩, hreadMonth, h⟩ := Option.bind_eq_some_iff.1 h
  obtain ⟨_, hreadDash', h⟩ := Option.bind_eq_some_iff.1 h
  obtain ⟨⟨day, _⟩, hreadDay, h⟩ := Option.bind_eq_some_iff.1 h
  obtain ⟨_, hreadMark, h⟩ := Option.bind_eq_some_iff.1 h
  obtain ⟨⟨hour, _⟩, hreadHour, h⟩ := Option.bind_eq_some_iff.1 h
  obtain ⟨_, hreadColon, h⟩ := Option.bind_eq_some_iff.1 h
  obtain ⟨⟨minute, _⟩, hreadMinute, h⟩ := Option.bind_eq_some_iff.1 h
  obtain ⟨_, hreadColon', h⟩ := Option.bind_eq_some_iff.1 h
  obtain ⟨⟨second, _⟩, hreadSecond, h⟩ := Option.bind_eq_some_iff.1 h
  obtain ⟨⟨nano, rest⟩, hreadFraction, h⟩ := Option.bind_eq_some_iff.1 h
  obtain ⟨⟨offset, rest'⟩, hreadOffset, h⟩ := Option.bind_eq_some_iff.1 h
  obtain ⟨⟨hend, -, htime⟩, h⟩ := Option.ite_none_right_eq_some.1 h
  obtain ⟨date, hdate, -⟩ := Option.bind_eq_some_iff.1 h
  obtain ⟨rfl, rfl, rfl⟩ := Date.of?_eq_some_iff.1 hdate
  obtain ⟨_, hyear, rfl⟩ := showsYear_of_readYear? hreadYear
  obtain ⟨_, hdash, rfl⟩ := showsMark_of_readMark? hreadDash
  obtain ⟨_, hmonth, rfl⟩ := showsNumber_of_readNumber? hreadMonth
  obtain ⟨_, hdash', rfl⟩ := showsMark_of_readMark? hreadDash'
  obtain ⟨_, hday, rfl⟩ := showsNumber_of_readNumber? hreadDay
  obtain ⟨_, ht, rfl⟩ := readOneOf?_eq_some_iff.1 hreadMark
  obtain ⟨_, hhour, rfl⟩ := showsNumber_of_readNumber? hreadHour
  obtain ⟨_, hcolon, rfl⟩ := showsMark_of_readMark? hreadColon
  obtain ⟨_, hminute, rfl⟩ := showsNumber_of_readNumber? hreadMinute
  obtain ⟨_, hcolon', rfl⟩ := showsMark_of_readMark? hreadColon'
  obtain ⟨_, hsecond, rfl⟩ := showsNumber_of_readNumber? hreadSecond
  obtain ⟨_, hfraction, rfl⟩ := showsFraction_of_readFraction? hreadFraction
  obtain ⟨offsetText, hoffset, heq⟩ := showsOffset_of_readOffset? hreadOffset
  obtain ⟨blanks, hblanks, hrest⟩ := exists_blanks rest
  obtain ⟨blanks', hblanks', hrest'⟩ := exists_blanks rest'
  rw [hend, List.append_nil] at hrest'
  rw [heq, hrest'] at hrest
  rw [hrest]
  let l : LocalTime := ⟨date, hour, minute, second, nano, htime, offset, hoffset.bounds⟩
  exact ⟨l, .intro hyear hdash hmonth hdash' hday ht hhour hcolon hminute hcolon' hsecond hfraction
    hblanks hoffset hblanks'⟩

/-- **What is read of a text is exactly the point in time that it shows.** -/
theorem parse?_eq_some_iff {s : String} :
    parse? s = some t ↔
      ∃ l, Shows s.toList l ∧ inRange l.date.year = true ∧ t.IsAt l ∧
        inRange t.date.year = true := by
  have hiff : ∀ l, Shows s.toList l → (parse? s = some t ↔
      inRange l.date.year = true ∧ t.IsAt l ∧ inRange t.date.year = true) := by
    intro l h
    rw [parse?, parseChars?_eq h, Option.ite_none_right_eq_some, ofLocal?_eq_some_iff]
  constructor
  · intro h
    obtain ⟨l, hl⟩ := exists_shows_of_parseChars? h
    exact ⟨l, hl, (hiff l hl).1 h⟩
  · rintro ⟨l, hl, h⟩
    exact (hiff l hl).2 h

example : parse? "2017-5-26 21:17:14 +0200" = parse? "2017-05-26T19:17:14Z" := by
  decide +kernel

/-- **A point in time comes back from its text.** -/
theorem parse?_toText (h : inRange t.date.year = true) : parse? t.toText = some t :=
  parse?_eq_some_iff.2 ⟨t.clock, shows_toText t, h, t.isAt_clock, h⟩

/-- **An RFC 3339 text is read**, whatever its offset, and as the point in time that it shows. -/
theorem exists_parse?_of_isSpacedRfc3339 {s : String} (h : IsSpacedRfc3339 s) :
    ∃ l t, Shows s.toList l ∧ t.IsAt l ∧ parse? s = some t := by
  obtain ⟨l, y, hshows, hyear⟩ :=
    exists_shows_of_isDateTime h (List.Subset.refl _) (fun _ _ => .full)
  obtain ⟨hleast, hgreatest⟩ := hyear.bounds
  obtain ⟨t, ht, -⟩ := exists_ofLocal? l
  obtain ⟨hbefore, hafter⟩ := ht.year_bounds
  refine ⟨l, t, hshows, ht, parse?_eq_some_iff.2 ⟨l, hshows, ?_, ht, ?_⟩⟩
  · exact inRange_iff.2 (by omega)
  · exact inRange_iff.2 (by omega)

end Text

end TypedGraphQL.Instant
