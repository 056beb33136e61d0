import TypedGraphQL.Proofs.Name.Legal

/-!
# The ends of words

A segment of an identifier is cut where a small letter or digit is followed by a capital, where a
run of capitals goes on in small letters, and inside a run made of two initialisms.  This file says
what becomes of the words that such a segment was made of: a word with a leading capital ends where
its small letters end, a run of capitals is not cut before its last character, and of two initialisms
that stand together each is found again.

## What is here

* `isUppercase_of_isNameChar` and its likes — letters and digits of ASCII.
* `endsWord_of_isUppercase` and its likes — where a word ends and where it goes on.
* `pieces_capitalized`, `pieces_capitals` — words with a leading capital, and runs of capitals.
* `splitInitialisms_of_mem`, `splitInitialisms_append` — runs of one and of two initialisms.
-/

set_option autoImplicit false

namespace TypedGraphQL

open Document Text

/-! ## Letters and digits -/

section Characters

variable {c : Char}

theorem isNameChar_of_isUpper (h : c.isUpper = true) : isNameChar c = true := by
  simp [isNameChar_eq, h]

theorem isNameChar_of_isLower (h : c.isLower = true) : isNameChar c = true := by
  simp [isNameChar_eq, h]

theorem isNameChar_of_isDigit (h : c.isDigit = true) : isNameChar c = true := by
  simp [isNameChar_eq, h]

theorem isUppercase_of_isNameChar (h : isNameChar c = true) : isUppercase c = c.isUpper :=
  isUppercase_of_ascii (toNat_lt_of_isNameChar h)

theorem isLowercase_of_isNameChar (h : isNameChar c = true) : isLowercase c = c.isLower :=
  isLowercase_of_ascii (toNat_lt_of_isNameChar h)

theorem isNumber_of_isNameChar (h : isNameChar c = true) : isNumber c = c.isDigit :=
  isNumber_of_ascii (toNat_lt_of_isNameChar h)

/-- A capital is neither small nor a digit. -/
theorem not_isLower_of_isUpper (h : c.isUpper = true) : c.isLower = false ∧ c.isDigit = false :=
  of_isNameChar (P := fun c => c.isUpper = true → c.isLower = false ∧ c.isDigit = false)
    (by decide) (isNameChar_of_isUpper h) h

end Characters

namespace Name

/-! ## Where a word ends -/

section Ends

variable {c d : Char} {rest : List Char}

/-- A word goes on in what is no capital. -/
theorem endsWord_of_not_isUppercase (h : isUppercase d = false) : endsWord c (d :: rest) = false := by
  cases rest <;> simp [endsWord, h]

/-- A word ends in a small letter or digit before a capital. -/
theorem endsWord_of_isUppercase (hc : (isLowercase c || isNumber c) = true)
    (hd : isUppercase d = true) : endsWord c (d :: rest) = true := by
  cases rest <;> simp only [endsWord, hc, hd, Bool.and_self, Bool.true_or]

/-- A run of capitals goes on if no small letter follows. -/
theorem endsWord_of_isUpper (hc : c.isUpper = true) (hrest : ∀ e ∈ rest.head?, isLowercase e = false) :
    endsWord c (d :: rest) = false := by
  have hname := isNameChar_of_isUpper hc
  obtain ⟨hlower, hdigit⟩ := not_isLower_of_isUpper hc
  cases rest with
  | nil =>
    simp [endsWord, isLowercase_of_isNameChar hname, isNumber_of_isNameChar hname, hlower, hdigit]
  | cons e rest =>
    simp [endsWord, isLowercase_of_isNameChar hname, isNumber_of_isNameChar hname, hlower, hdigit,
      hrest e rfl]

end Ends

/-- The text begins with a capital, or there is none. -/
def StartsCapital (text : List Char) : Prop :=
  ∀ c ∈ text.head?, c.isUpper = true

theorem foldr_extendFirst_cons (w piece : Word) (pieces : List Word) :
    w.foldr extendFirst (piece :: pieces) = (w ++ piece) :: pieces := by
  induction w with
  | nil => rfl
  | cons c w ih => rw [List.foldr_cons, ih, extendFirst, List.cons_append]

/-- **A word with small letters behind its first character ends where they end.** -/
theorem pieces_capitalized {c : Char} {w : Word} (hne : w ≠ [])
    (hw : ∀ d ∈ w, (d.isLower || d.isDigit) = true) {rest : List Char} (hrest : StartsCapital rest) :
    pieces (c :: (w ++ rest)) = (c :: w) :: pieces rest := by
  have hsmall : ∀ d, (d.isLower || d.isDigit) = true →
      isUppercase d = false ∧ (isLowercase d || isNumber d) = true := by
    intro d hd
    have hname : isNameChar d = true := by
      rcases Bool.or_eq_true_iff.1 hd with h | h
      · exact isNameChar_of_isLower h
      · exact isNameChar_of_isDigit h
    rw [isUppercase_of_isNameChar hname, isLowercase_of_isNameChar hname,
      isNumber_of_isNameChar hname]
    refine ⟨Bool.eq_false_iff.2 fun hup => ?_, hd⟩
    obtain ⟨hlower, hdigit⟩ := not_isLower_of_isUpper hup
    rw [hlower, hdigit] at hd
    cases hd
  induction w generalizing c with
  | nil => exact absurd rfl hne
  | cons d w ih =>
    obtain ⟨hd, hw⟩ := List.forall_mem_cons.1 hw
    obtain ⟨hupper, hlower⟩ := hsmall d hd
    rw [List.cons_append, pieces, endsWord_of_not_isUppercase hupper, if_neg Bool.false_ne_true]
    cases w with
    | nil =>
      have hend : endsWord d rest = true := by
        cases rest with
        | nil => rfl
        | cons e rest =>
          have he := hrest e rfl
          refine endsWord_of_isUppercase hlower ?_
          rw [isUppercase_of_isNameChar (isNameChar_of_isUpper he), he]
      rw [List.nil_append, pieces, hend, if_pos rfl, extendFirst]
    | cons e w => rw [ih (List.cons_ne_nil e w) hw, extendFirst]

/-- **A run of capitals is not cut before its last character** if no small letter follows. -/
theorem pieces_capitals {w : Word} (hw : ∀ c ∈ w, c.isUpper = true) {z : Char}
    (hz : isInitialismChar z = true) {rest : List Char} (hrest : StartsCapital rest) :
    pieces (w ++ z :: rest) = w.foldr extendFirst (pieces (z :: rest)) := by
  have hcapital : ∀ c, isInitialismChar c = true → isLowercase c = false := by
    intro c hc
    rcases Bool.or_eq_true_iff.1 hc with h | h
    · rw [isLowercase_of_isNameChar (isNameChar_of_isUpper h), (not_isLower_of_isUpper h).1]
    · rw [isLowercase_of_isNameChar (isNameChar_of_isDigit h)]
      exact of_isNameChar (P := fun c => c.isDigit = true → c.isLower = false) (by decide)
        (isNameChar_of_isDigit h) h
  have hupper : ∀ c, c.isUpper = true → isLowercase c = false := fun c hc =>
    hcapital c (Bool.or_eq_true_iff.2 (Or.inl hc))
  induction w with
  | nil => rfl
  | cons c w ih =>
    obtain ⟨hc, hw⟩ := List.forall_mem_cons.1 hw
    have hgoes : endsWord c (w ++ z :: rest) = false := by
      cases w with
      | nil => exact endsWord_of_isUpper hc fun e he => hupper e (hrest e he)
      | cons d w =>
        refine endsWord_of_isUpper hc fun e he => ?_
        cases w with
        | nil =>
          cases he
          exact hcapital z hz
        | cons d' w =>
          cases he
          exact hupper _ (hw _ (List.mem_cons_of_mem _ List.mem_cons_self))
    rw [List.cons_append, pieces, hgoes, if_neg Bool.false_ne_true, ih hw, List.foldr_cons]

/-! ## Runs of initialisms -/

/-- An initialism has capitals up to its last character, which may be a digit. -/
theorem capitals_of_mem {w : Word} (h : w ∈ initialisms) :
    (∀ c ∈ w.dropLast, c.isUpper = true) ∧ ∀ c ∈ w, isInitialismChar c = true := by
  have hall : (initialisms.all fun w =>
      w.dropLast.all Char.isUpper && w.all isInitialismChar) = true := by
    decide +kernel
  have hw := List.all_eq_true.1 hall w h
  rwa [Bool.and_eq_true, List.all_eq_true, List.all_eq_true] at hw

/-- What is cut off an initialism so that an initialism is left is the last letter, `S` or `D`. -/
theorem drop_of_take_mem {w : Word} (h : w ∈ initialisms) {i : Nat} (hi : i < w.length)
    (htake : w.take i ∈ initialisms) : w.drop i = ['S'] ∨ w.drop i = ['D'] := by
  have hall : ∀ w ∈ initialisms, ∀ i < w.length, w.take i ∈ initialisms →
      w.drop i = ['S'] ∨ w.drop i = ['D'] := by
    decide +kernel
  exact hall w h i hi htake

/-- Neither letter makes another initialism of one. -/
theorem cons_not_mem {w : Word} (h : w ∈ initialisms) :
    'S' :: w ∉ initialisms ∧ 'D' :: w ∉ initialisms := by
  have hall : ∀ w ∈ initialisms, 'S' :: w ∉ initialisms ∧ 'D' :: w ∉ initialisms := by
    decide +kernel
  exact hall w h

theorem two_le_length_of_mem {w : Word} (h : w ∈ initialisms) : 2 ≤ w.length := by
  have hall : ∀ w ∈ initialisms, 2 ≤ w.length := by
    decide +kernel
  exact hall w h

/-- A word with a small letter in it is no run of initialisms. -/
theorem splitInitialisms_of_isLower {w : Word} {c : Char} (hc : c ∈ w) (h : c.isLower = true) :
    splitInitialisms w = [w] := by
  have hno : isInitialismChar c = false :=
    of_isNameChar (P := fun c => c.isLower = true → isInitialismChar c = false) (by decide)
      (isNameChar_of_isLower h) h
  rw [splitInitialisms, if_neg]
  rw [List.all_eq_true]
  intro hall
  rw [hall c hc] at hno
  cases hno

/-- An initialism is not cut. -/
theorem splitInitialisms_of_mem {w : Word} (h : w ∈ initialisms) : splitInitialisms w = [w] := by
  have hcut : initialismCut? w = none := by
    rw [initialismCut?, List.find?_eq_none]
    intro i hi
    obtain ⟨k, hk, rfl⟩ := List.mem_range'.1 hi
    rw [Bool.and_eq_true, List.contains_iff_mem, List.contains_iff_mem]
    rintro ⟨htake, hdrop⟩
    -- a single letter would be left
    have htwo := two_le_length_of_mem hdrop
    rcases drop_of_take_mem h (by omega) htake with hone | hone
    · rw [hone] at htwo
      exact absurd htwo (by decide)
    · rw [hone] at htwo
      exact absurd htwo (by decide)
  rw [splitInitialisms, hcut]
  exact ite_self _

/-- **A run of two initialisms is cut between them**, since it can be cut nowhere before. -/
theorem splitInitialisms_append {v w : Word} (hv : v ∈ initialisms) (hw : w ∈ initialisms) :
    splitInitialisms (v ++ w) = [v, w] := by
  have hall : (v ++ w).all isInitialismChar = true := by
    rw [List.all_append, Bool.and_eq_true, List.all_eq_true, List.all_eq_true]
    exact ⟨(capitals_of_mem hv).2, (capitals_of_mem hw).2⟩
  have htwo := two_le_length_of_mem hv
  have htwo' := two_le_length_of_mem hw
  have hcut : initialismCut? (v ++ w) = some v.length := by
    rw [initialismCut?, List.find?_range'_eq_some]
    refine ⟨?_, ?_, ?_⟩
    · rw [List.take_left, List.drop_left, Bool.and_eq_true, List.contains_iff_mem,
        List.contains_iff_mem]
      exact ⟨hv, hw⟩
    · rw [List.mem_range'_1, List.length_append]
      omega
    · intro i hlow hhigh
      rw [Bool.not_eq_true', Bool.and_eq_false_iff, List.take_append_of_le_length (by omega),
        List.drop_append_of_le_length (by omega)]
      by_cases htake : v.take i ∈ initialisms
      · right
        rw [← Bool.not_eq_true, List.contains_iff_mem]
        rcases drop_of_take_mem hv hhigh htake with hone | hone
        · rw [hone]
          exact (cons_not_mem hw).1
        · rw [hone]
          exact (cons_not_mem hw).2
      · left
        rw [← Bool.not_eq_true, List.contains_iff_mem]
        exact htake
  rw [splitInitialisms, if_pos hall, hcut]
  dsimp only
  rw [List.take_left, List.drop_left]

end Name

end TypedGraphQL
