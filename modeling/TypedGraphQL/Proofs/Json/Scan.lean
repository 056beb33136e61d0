import TypedGraphQL.Proofs.Text.ByteOrder

/-!
# Scanning what was written

The scalars of JSON are written as characters, which travel as bytes, and scanned byte by byte.
This file shows that each of them comes back, whatever stands behind it.  Only an integer needs
care there: it goes on as long as it can, so no digit, point or exponent may follow.

## What is here

* `utf8` — the bytes of some characters; `decodeUtf8?_utf8` decodes them.
* `scanString_escapedChar`, `stringToken_utf8` — a string, one escaped character at a time.
* `decimalDigits` — the digits of a number; `digitsValue_decimalDigits`, `spanDigits_toDigits`.
* `EndsNumber` — no number goes on here.
* `nextToken?_null` and its likes — the first token of a text that begins with a written scalar.
-/

set_option autoImplicit false

namespace TypedGraphQL.Json

/-! ## Characters as bytes -/

/-- The bytes of some characters. -/
def utf8 (cs : List Char) : Bytes :=
  cs.flatMap String.utf8EncodeChar

theorem bytesOf_ofList (cs : List Char) : bytesOf (String.ofList cs) = utf8 cs := by
  rw [bytesOf, String.toList_ofList]
  rfl

@[simp] theorem utf8_nil : utf8 [] = [] := rfl

theorem utf8_cons (c : Char) (cs : List Char) :
    utf8 (c :: cs) = String.utf8EncodeChar c ++ utf8 cs :=
  List.flatMap_cons

@[simp] theorem utf8_append (cs ds : List Char) : utf8 (cs ++ ds) = utf8 cs ++ utf8 ds :=
  List.flatMap_append

/-- An ASCII character is one byte. -/
theorem utf8_cons_of_ascii {c : Char} (h : c.toNat < 128) (cs : List Char) :
    utf8 (c :: cs) = UInt8.ofNat c.toNat :: utf8 cs := by
  have hone : String.utf8EncodeChar c = [UInt8.ofNat c.toNat] :=
    if_pos (Nat.le_of_lt_succ h)
  rw [utf8_cons, hone]
  rfl

/-- **The bytes of characters decode to these characters.** -/
theorem decodeUtf8?_utf8 (cs : List Char) : decodeUtf8? (utf8 cs) = some (String.ofList cs) := by
  have hbytes : (⟨(utf8 cs).toArray⟩ : ByteArray) = (String.ofList cs).toByteArray := by
    rw [String.toByteArray_ofList, List.utf8Encode, utf8]
    refine ByteArray.ext ?_
    exact List.data_toByteArray.symm
  rw [decodeUtf8?, hbytes, String.fromUTF8?, dif_pos (String.ofList cs).isValidUTF8]
  rfl

/-! ## Strings -/

section Strings

variable {state : StringState} {rest s : Bytes} {read : Bytes}

/-- The byte stands for itself in a string. -/
def IsPlain (b : UInt8) : Prop :=
  b ≠ 0x22 ∧ b ≠ 0x5c ∧ ¬ b < 0x20

theorem isPlain_ofNat {n : Nat} (h : n < 256) (hquote : n ≠ 34) (hslash : n ≠ 92)
    (hcontrol : ¬ n < 32) : IsPlain (UInt8.ofNat n) := by
  refine ⟨fun heq => ?_, fun heq => ?_, fun hlt => ?_⟩
  · exact hquote ((ofNat_eq_ofNat_iff h (by decide)).1 heq)
  · exact hslash ((ofNat_eq_ofNat_iff h (by decide)).1 heq)
  · exact hcontrol ((ofNat_lt_ofNat_iff h (by decide)).1 hlt)

/-- The bytes of a character without an escape stand for themselves. -/
theorem isPlain_of_mem_utf8EncodeChar {c : Char} (hquote : c ≠ '"') (hslash : c ≠ '\\')
    (hcontrol : ¬ c.toNat < 32) : ∀ b ∈ String.utf8EncodeChar c, IsPlain b := by
  have hq : c.val.toNat ≠ 34 := fun h => hquote (Char.toNat_inj.1 h)
  have hs : c.val.toNat ≠ 92 := fun h => hslash (Char.toNat_inj.1 h)
  have hlow : ¬ c.val.toNat < 32 := hcontrol
  have hbound := toNat_lt_of_char c
  rw [String.utf8EncodeChar]
  generalize c.val.toNat = n at hq hs hlow hbound
  intro b hb
  split at hb
  · obtain rfl := List.mem_singleton.1 hb
    exact isPlain_ofNat (by omega) hq hs hlow
  · -- every byte of a longer character is at least 128
    have hbyte : ∃ m, 128 ≤ m ∧ m < 256 ∧ b = UInt8.ofNat m := by
      repeat' split at hb
      all_goals
        simp only [List.mem_cons, List.not_mem_nil, or_false] at hb
        rcases hb with rfl | rfl | rfl | rfl <;> exact ⟨_, by omega, by omega, rfl⟩
    obtain ⟨m, hm, hlt, rfl⟩ := hbyte
    exact isPlain_ofNat hlt (by omega) (by omega) (by omega)

/-- Bytes that stand for themselves are read as they are. -/
theorem scanString_of_isPlain {bytes : Bytes} (h : ∀ b ∈ bytes, IsPlain b) :
    scanString (.text read) (bytes ++ s) = scanString (.text (bytes.reverse ++ read)) s := by
  induction bytes generalizing read with
  | nil => rfl
  | cons b bytes ih =>
    obtain ⟨⟨hquote, hslash, hcontrol⟩, hbytes⟩ := List.forall_mem_cons.1 h
    have hstep : scanString (.text read) (b :: (bytes ++ s)) =
        scanString (.text (b :: read)) (bytes ++ s) := by
      rw [scanString.eq_def]
      dsimp only
      rw [if_neg hquote, if_neg hslash, if_neg hcontrol]
      rfl
    rw [List.cons_append, hstep, ih hbytes, List.reverse_cons, List.append_assoc]
    rfl

/-- A letter behind a backslash stands for the byte of its character. -/
theorem scanString_letter {e b : UInt8} (he : e ≠ 0x75) (h : letterEscape? e = some b) :
    scanString (.text read) (0x5c :: e :: s) = scanString (.text (b :: read)) s := by
  rw [scanString.eq_def]
  dsimp only
  rw [if_neg (by decide), if_pos rfl, if_neg he, h]
  rfl

/-- The digits of a control character spell its number. -/
theorem hexValue4?_hexByte : ∀ n : Nat, n < 32 →
    hexValue4? 0x30 0x30 (UInt8.ofNat (Nat.digitChar (n / 16)).toNat)
      (UInt8.ofNat (Nat.digitChar (n % 16)).toNat) = some n := by
  decide

theorem toNat_digitChar_lt : ∀ d : Nat, d < 16 → (Nat.digitChar d).toNat < 128 := by
  decide

/-- A control character is read from its number. -/
theorem scanString_control {c : Char} (h : c.toNat < 32) :
    scanString (.text read) (utf8 (['\\', 'u', '0', '0'] ++ hexByte c.toNat) ++ s) =
      scanString (.text ((String.utf8EncodeChar c).reverse ++ read)) s := by
  have hdigit := fun d hd => utf8_cons_of_ascii (toNat_digitChar_lt d hd)
  have hbytes : utf8 (['\\', 'u', '0', '0'] ++ hexByte c.toNat) ++ s =
      0x5c :: 0x75 :: 0x30 :: 0x30 :: UInt8.ofNat (Nat.digitChar (c.toNat / 16)).toNat ::
        UInt8.ofNat (Nat.digitChar (c.toNat % 16)).toNat :: s := by
    rw [utf8_append, hexByte, hdigit _ (by omega), hdigit _ (by omega)]
    rfl
  have htrail : isTrailingSurrogate c.toNat = false := by
    simp only [isTrailingSurrogate, Bool.and_eq_false_iff, decide_eq_false_iff_not]
    omega
  have hlead : isLeadingSurrogate c.toNat = false := by
    simp only [isLeadingSurrogate, Bool.and_eq_false_iff, decide_eq_false_iff_not]
    omega
  rw [hbytes, scanString.eq_def]
  dsimp only
  rw [if_neg (by decide), if_pos rfl, if_pos rfl, hexValue4?_hexByte c.toNat h]
  dsimp only
  rw [StringState.codeUnit, htrail, hlead, Char.ofNat_toNat]
  rfl

/-- **An escaped character is read as the character.** -/
theorem scanString_escapedChar (c : Char) :
    scanString (.text read) (utf8 (escapedChar c) ++ s) =
      scanString (.text ((String.utf8EncodeChar c).reverse ++ read)) s := by
  rw [escapedChar.eq_def]
  split
  · exact scanString_letter (by decide) (by decide)
  · exact scanString_letter (by decide) (by decide)
  · exact scanString_letter (by decide) (by decide)
  · exact scanString_letter (by decide) (by decide)
  · exact scanString_letter (by decide) (by decide)
  · exact scanString_letter (by decide) (by decide)
  · exact scanString_letter (by decide) (by decide)
  · rename_i hquote hslash _ _ _ _ _
    split
    · rename_i hcontrol
      exact scanString_control hcontrol
    · rename_i hcontrol
      rw [utf8_cons, utf8_nil, List.append_nil]
      exact scanString_of_isPlain (isPlain_of_mem_utf8EncodeChar hquote hslash hcontrol)

/-- Escaped characters are read one after the other. -/
theorem scanString_flatMap_escapedChar (cs : List Char) :
    scanString (.text read) (utf8 (cs.flatMap escapedChar) ++ s) =
      scanString (.text ((utf8 cs).reverse ++ read)) s := by
  induction cs generalizing read with
  | nil => rfl
  | cons c cs ih =>
    rw [List.flatMap_cons, utf8_append, List.append_assoc, scanString_escapedChar, ih, utf8_cons,
      List.reverse_append, List.append_assoc]

/-- **A string comes back from its text.** -/
theorem nextToken?_writeString (t : String) (rest : Bytes) :
    nextToken? (utf8 (writeString t) ++ rest) = some (.str (some t), rest) := by
  have hbytes : utf8 (writeString t) ++ rest =
      0x22 :: (utf8 (t.toList.flatMap escapedChar) ++ 0x22 :: rest) := by
    rw [writeString, utf8_append, utf8_cons, List.append_assoc]
    rfl
  have hclose : scanString (.text ((utf8 t.toList).reverse ++ [])) (0x22 :: rest) =
      .closed (some t) rest := by
    rw [scanString.eq_def]
    dsimp only
    rw [if_pos rfl, StringState.done?, List.append_nil, List.reverse_reverse, decodeUtf8?_utf8,
      String.ofList_toList]
  have htoken : stringToken (utf8 (t.toList.flatMap escapedChar) ++ 0x22 :: rest) =
      (.str (some t), rest) := by
    rw [stringToken, scanString_flatMap_escapedChar, hclose]
  rw [hbytes, nextToken?, if_neg (by decide)]
  exact congrArg some htoken

end Strings

/-! ## Integers -/

section Integers

variable {n : Nat} {rest : Bytes}

/-- The decimal digits of a number, first digit first. -/
def decimalDigits (n : Nat) : List Nat :=
  (Nat.toDigits 10 n).map fun c => c.toNat - 48

theorem decimalDigits_of_lt (h : n < 10) : decimalDigits n = [n] := by
  rw [decimalDigits, Nat.toDigits_of_lt_base h, List.map_singleton,
    Nat.toNat_digitChar_of_lt_ten h, Nat.add_sub_cancel_left]

/-- The last digit of a longer number. -/
theorem decimalDigits_of_le (h : 10 ≤ n) :
    decimalDigits n = decimalDigits (n / 10) ++ [n % 10] := by
  have hlast : n % 10 < 10 := Nat.mod_lt n (by decide)
  rw [decimalDigits, Nat.toDigits_eq_if (by decide), if_neg (Nat.not_lt.2 h), List.map_append,
    List.map_singleton, Nat.toNat_digitChar_of_lt_ten hlast, Nat.add_sub_cancel_left]
  rfl

/-- **The digits spell the number.** -/
theorem digitsValue_decimalDigits (n : Nat) : digitsValue (decimalDigits n) = n := by
  induction n using Nat.strongRecOn with
  | ind n ih =>
    rcases Nat.lt_or_ge n 10 with h | h
    · rw [decimalDigits_of_lt h, digitsValue]
      exact (Nat.zero_add n)
    · have hfront := ih (n / 10) (by omega)
      rw [digitsValue] at hfront
      rw [decimalDigits_of_le h, digitsValue, List.foldl_append, hfront, List.foldl_cons,
        List.foldl_nil]
      omega

/-- The first digit is 0 only if there is no other. -/
theorem decimalDigits_eq_cons (n : Nat) :
    ∃ d ds, decimalDigits n = d :: ds ∧ (d = 0 → ds = []) := by
  induction n using Nat.strongRecOn with
  | ind n ih =>
    rcases Nat.lt_or_ge n 10 with h | h
    · exact ⟨n, [], decimalDigits_of_lt h, fun _ => rfl⟩
    · obtain ⟨d, ds, hfront, hzero⟩ := ih (n / 10) (by omega)
      refine ⟨d, ds ++ [n % 10], by rw [decimalDigits_of_le h, hfront]; rfl, fun hd => ?_⟩
      -- otherwise the digits in front spell 0
      have hvalue := digitsValue_decimalDigits (n / 10)
      rw [hfront, hd, hzero hd] at hvalue
      have hz : 0 = n / 10 := hvalue
      omega

/-- A digit is a byte. -/
theorem isDigit_of_mem_toDigits {c : Char} (h : c ∈ Nat.toDigits 10 n) :
    c.toNat < 128 ∧ isDigit (UInt8.ofNat c.toNat) = true ∧
      digitValue (UInt8.ofNat c.toNat) = c.toNat - 48 := by
  have hchar : c.isDigit = true := Nat.isDigit_of_mem_toDigits (by decide) (by decide) h
  have hrange : 48 ≤ c.toNat ∧ c.toNat ≤ 57 := by
    rw [Char.isDigit, Bool.and_eq_true, decide_eq_true_iff, decide_eq_true_iff] at hchar
    exact hchar
  have hdigits : ∀ m : Nat, m < 58 → 48 ≤ m →
      isDigit (UInt8.ofNat m) = true ∧ digitValue (UInt8.ofNat m) = m - 48 := by decide
  obtain ⟨hdigit, hvalue⟩ := hdigits c.toNat (by omega) hrange.1
  exact ⟨by omega, hdigit, hvalue⟩

/-- The bytes of digits are digits. -/
theorem utf8_toDigits (n : Nat) :
    (∀ b ∈ utf8 (Nat.toDigits 10 n), isDigit b = true) ∧
      (utf8 (Nat.toDigits 10 n)).map digitValue = decimalDigits n := by
  have hall : ∀ cs : List Char, (∀ c ∈ cs, c ∈ Nat.toDigits 10 n) →
      (∀ b ∈ utf8 cs, isDigit b = true) ∧
        (utf8 cs).map digitValue = cs.map fun c => c.toNat - 48 := by
    intro cs hcs
    induction cs with
    | nil => exact ⟨List.forall_mem_nil _, rfl⟩
    | cons c cs ih =>
      obtain ⟨hc, hrest⟩ := List.forall_mem_cons.1 hcs
      obtain ⟨hascii, hdigit, hvalue⟩ := isDigit_of_mem_toDigits hc
      obtain ⟨hbytes, hvalues⟩ := ih hrest
      rw [utf8_cons_of_ascii hascii, List.map_cons, List.map_cons, hvalue, hvalues]
      exact ⟨List.forall_mem_cons.2 ⟨hdigit, hbytes⟩, rfl⟩
  exact hall _ fun _ hc => hc

/-- No number goes on here. -/
def EndsNumber (rest : Bytes) : Prop :=
  ∀ b ∈ rest.head?, isDigit b = false ∧ b ≠ 0x2e ∧ b ≠ 0x65 ∧ b ≠ 0x45

theorem endsNumber_nil : EndsNumber [] := nofun

/-- Digits are read up to their end. -/
theorem spanDigits_append {bytes : Bytes} (h : ∀ b ∈ bytes, isDigit b = true)
    (hrest : EndsNumber rest) : spanDigits (bytes ++ rest) = (bytes.map digitValue, rest) := by
  rw [spanDigits, List.takeWhile_append_of_pos h, List.dropWhile_append_of_pos h]
  cases rest with
  | nil => rw [List.takeWhile_nil, List.dropWhile_nil, List.append_nil]
  | cons b rest =>
    have hb : ¬ isDigit b = true := by
      rw [(hrest b rfl).1]
      exact Bool.false_ne_true
    rw [List.takeWhile_cons_of_neg hb, List.dropWhile_cons_of_neg hb, List.append_nil]

theorem scanWhole_toDigits (n : Nat) (hrest : EndsNumber rest) :
    scanWhole (utf8 (Nat.toDigits 10 n) ++ rest) = .ok (decimalDigits n, rest) := by
  obtain ⟨hbytes, hvalues⟩ := utf8_toDigits n
  have hspan := spanDigits_append hbytes hrest
  rw [hvalues] at hspan
  rw [scanWhole, hspan]
  obtain ⟨d, ds, hdigits, hzero⟩ := decimalDigits_eq_cons n
  rw [hdigits]
  cases ds with
  | nil => cases d <;> rfl
  | cons d' ds =>
    cases d with
    | zero => cases hzero rfl
    | succ d => rfl

/-- Behind an integer there is neither a fraction nor an exponent. -/
theorem scanNumber_toDigits (negative : Bool) (n : Nat) (hrest : EndsNumber rest) :
    scanNumber negative (utf8 (Nat.toDigits 10 n) ++ rest) =
      .ok (⟨negative, decimalDigits n, none, none⟩, rest) := by
  have hfraction : scanFraction rest = .ok (none, rest) := by
    cases rest with
    | nil => rfl
    | cons b rest => exact if_neg (hrest b rfl).2.1
  have hexponent : scanExponent rest = .ok (none, rest) := by
    cases rest with
    | nil => rfl
    | cons b rest => exact if_neg (not_or.2 (hrest b rfl).2.2)
  simp only [scanNumber, scanWhole_toDigits n hrest, hfraction, hexponent, bind, Except.bind, pure,
    Except.pure]

/-- Digits that fit the significand are all collected. -/
theorem fillSignificand_eq {digits : List Nat} {significand : Nat}
    (h : digits.foldl (fun n d => n * 10 + d) significand ≤ maxUnsigned) :
    fillSignificand significand digits =
      (digits.foldl (fun n d => n * 10 + d) significand, []) := by
  induction digits generalizing significand with
  | nil => rfl
  | cons d digits ih =>
    have hgrows : ∀ (ds : List Nat) (m : Nat), m ≤ ds.foldl (fun n d => n * 10 + d) m := by
      intro ds
      induction ds with
      | nil => exact fun m => Nat.le_refl m
      | cons e ds ihds => exact fun m => Nat.le_trans (by omega) (ihds (m * 10 + e))
    have hfits : ¬ maxUnsigned < significand * 10 + d :=
      Nat.not_lt.2 (Nat.le_trans (hgrows digits _) h)
    rw [fillSignificand, if_neg hfits]
    exact ih h

theorem fillSignificand_decimalDigits (h : n ≤ maxUnsigned) :
    fillSignificand 0 (decimalDigits n) = (n, []) := by
  have hvalue := digitsValue_decimalDigits n
  rw [digitsValue] at hvalue
  have hfill := @fillSignificand_eq (decimalDigits n) 0
  rw [hvalue] at hfill
  exact hfill h

/-- A numeral of digits alone is an integer if it fits 64 bits. -/
theorem value?_nonnegative (h : n ≤ maxUnsigned) :
    Numeral.value? ⟨false, decimalDigits n, none, none⟩ = some (.int n) := by
  rw [Numeral.value?, fillSignificand_decimalDigits h]
  rfl

theorem value?_negative (hpos : n ≠ 0) (h : minSigned ≤ -(n : Int)) :
    Numeral.value? ⟨true, decimalDigits n, none, none⟩ = some (.int (-n)) := by
  have hfits : n ≤ maxUnsigned := by
    rw [minSigned_eq] at h
    rw [maxUnsigned_eq]
    omega
  rw [Numeral.value?, fillSignificand_decimalDigits hfits]
  exact (if_neg hpos).trans (if_pos h)

/-- Where a digit stands, a number begins. -/
theorem tokenAt_of_isDigit {b : UInt8} (h : isDigit b = true) (s : Bytes) :
    tokenAt b s = numberToken false (b :: s) := by
  rw [tokenAt.eq_def]
  split <;> first | exact absurd h (by decide) | exact if_pos h

/-- **An integer of 64 bits comes back from its text**, if no number goes on behind it. -/
theorem nextToken?_intText {i : Int} (hleast : minSigned ≤ i) (hgreatest : i ≤ maxUnsigned)
    (hrest : EndsNumber rest) :
    nextToken? (utf8 (intText i) ++ rest) = some (.number (some (.int i)), rest) := by
  rw [intText]
  split
  · rename_i hneg
    have habs : -(i.natAbs : Int) = i := by omega
    have hvalue : Numeral.value? ⟨true, decimalDigits i.natAbs, none, none⟩ = some (.int i) := by
      have hread := @value?_negative i.natAbs (by omega) (by omega)
      rwa [habs] at hread
    have htoken : numberToken true (utf8 (Nat.toDigits 10 i.natAbs) ++ rest) =
        (.number (some (.int i)), rest) := by
      rw [numberToken, scanNumber_toDigits true _ hrest]
      dsimp only
      rw [hvalue]
    rw [utf8_cons_of_ascii (by decide), List.cons_append, nextToken?, if_neg (by decide)]
    exact congrArg some htoken
  · rename_i hpos
    have habs : (i.natAbs : Int) = i := by omega
    have hvalue : Numeral.value? ⟨false, decimalDigits i.natAbs, none, none⟩ = some (.int i) := by
      have hread := @value?_nonnegative i.natAbs (by omega)
      rwa [habs] at hread
    have htoken : numberToken false (utf8 (Nat.toDigits 10 i.natAbs) ++ rest) =
        (.number (some (.int i)), rest) := by
      rw [numberToken, scanNumber_toDigits false _ hrest]
      dsimp only
      rw [hvalue]
    -- the first byte is a digit, and so neither a blank nor any other token
    obtain ⟨hbytes, hvalues⟩ := utf8_toDigits i.natAbs
    obtain ⟨d, ds, hdigits, -⟩ := decimalDigits_eq_cons i.natAbs
    rw [hdigits] at hvalues
    obtain ⟨b, bytes, hcons, -⟩ := List.map_eq_cons_iff.1 hvalues
    rw [hcons] at hbytes htoken ⊢
    have hdigit : isDigit b = true := hbytes b List.mem_cons_self
    have hblank : ¬ isBlank b = true := by
      intro hb
      simp only [isBlank, Bool.or_eq_true, beq_iff_eq] at hb
      rcases hb with ((rfl | rfl) | rfl) | rfl <;> exact absurd hdigit (by decide)
    rw [List.cons_append] at htoken ⊢
    rw [nextToken?, if_neg hblank, tokenAt_of_isDigit hdigit]
    exact congrArg some htoken

end Integers

/-! ## Words -/

theorem nextToken?_null (rest : Bytes) :
    nextToken? (utf8 (write .null) ++ rest) = some (.null, rest) := by
  rw [write]
  rfl

theorem nextToken?_bool (b : Bool) (rest : Bytes) :
    nextToken? (utf8 (write (.bool b)) ++ rest) = some (.bool b, rest) := by
  cases b <;> rw [write] <;> rfl

end TypedGraphQL.Json
