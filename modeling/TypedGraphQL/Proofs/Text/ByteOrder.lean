import TypedGraphQL.Json.Token

/-!
# The order of strings and the order of their bytes

Strings are compared character by character.  Their UTF-8 bytes come in the same order: of two
characters, the one with the smaller code point has the smaller byte where their bytes first differ,
and the first byte already tells how many there are.

## What is here

* `utf8EncodeChar_append_lt` — two different characters, whatever stands behind them.
* `bytesOf_lt` — strings that are in order have bytes in the same order.
-/

set_option autoImplicit false

namespace TypedGraphQL.Json

/-! ## One character -/

theorem ofNat_lt_ofNat_iff {m n : Nat} (hm : m < 256) (hn : n < 256) :
    UInt8.ofNat m < UInt8.ofNat n ↔ m < n := by
  rw [UInt8.lt_iff_toNat_lt, UInt8.toNat_ofNat', UInt8.toNat_ofNat', Nat.mod_eq_of_lt hm,
    Nat.mod_eq_of_lt hn]

theorem ofNat_eq_ofNat_iff {m n : Nat} (hm : m < 256) (hn : n < 256) :
    UInt8.ofNat m = UInt8.ofNat n ↔ m = n := by
  rw [← UInt8.toNat_inj, UInt8.toNat_ofNat', UInt8.toNat_ofNat', Nat.mod_eq_of_lt hm,
    Nat.mod_eq_of_lt hn]

theorem toNat_lt_of_char (c : Char) : c.val.toNat < 0x110000 := by
  have hvalid : c.val.toNat < 0xd800 ∨ 0xdfff < c.val.toNat ∧ c.val.toNat < 0x110000 := c.valid
  omega

/-- **The smaller character has the smaller bytes**, whatever stands behind the two. -/
theorem utf8EncodeChar_append_lt {c d : Char} (h : c < d) (s t : Bytes) :
    String.utf8EncodeChar c ++ s < String.utf8EncodeChar d ++ t := by
  have hlt : c.val.toNat < d.val.toNat := h
  have hbound := toNat_lt_of_char d
  generalize hm : c.val.toNat = m at hlt
  generalize hn : d.val.toNat = n at hlt hbound
  -- the digits in base 64 in front of the last ones are in the same order, or equal
  have hdigits : ∀ k, m / k < n / k ∨ m / k = n / k :=
    fun k => Nat.lt_or_eq_of_le (Nat.div_le_div_right (Nat.le_of_lt hlt))
  have hfirst := hdigits 262144
  have hsecond := hdigits 4096
  have hthird := hdigits 64
  rw [String.utf8EncodeChar, String.utf8EncodeChar, hm, hn]
  repeat' split
  all_goals
    simp (disch := omega) only [List.cons_append, List.nil_append, List.cons_lt_cons_iff,
      ofNat_lt_ofNat_iff, ofNat_eq_ofNat_iff, Nat.mod_eq_of_lt]
    omega

/-! ## Strings -/

/-- The order of lists of characters is kept. -/
theorem flatMap_utf8EncodeChar_lt {s t : List Char} (h : s < t) :
    s.flatMap String.utf8EncodeChar < t.flatMap String.utf8EncodeChar := by
  induction s generalizing t with
  | nil =>
    cases t with
    | nil => exact absurd h (List.lt_irrefl [])
    | cons d t =>
      obtain ⟨b, bytes, hd⟩ := List.exists_cons_of_ne_nil (String.utf8EncodeChar_ne_nil (c := d))
      rw [List.flatMap_nil, List.flatMap_cons, hd]
      exact List.nil_lt_cons b _
  | cons c s ih =>
    cases t with
    | nil => exact absurd h (List.not_lt_nil _)
    | cons d t =>
      rw [List.flatMap_cons, List.flatMap_cons]
      rcases List.cons_lt_cons_iff.1 h with hlt | ⟨rfl, hlt⟩
      · exact utf8EncodeChar_append_lt hlt _ _
      · exact List.append_left_lt (ih hlt)

/-- **Strings are in the order of their bytes.** -/
theorem bytesOf_lt {s t : String} (h : s < t) : bytesOf s < bytesOf t :=
  flatMap_utf8EncodeChar_lt (String.lt_iff.1 h)

end TypedGraphQL.Json
