import Mathlib.Data.List.DropRight
import TypedGraphQL.Proofs.Name.Agreement
import TypedGraphQL.Proofs.Name.Place

/-!
# Names that are converted once more

A lowerCamelCase name is an identifier itself, and may be converted again.  Its words then have to
be found by their capitals alone.  This file says when the name stays as it is: if every capital
begins a word again.  A capital behind a small letter or a digit always does, so it is two capitals
side by side that matter, as in `aBC`, the name of `a_b_c`, which becomes `aBc`.

## What is here

* `CapitalsSettle` — what two capitals side by side must be followed by.
* `Tidy` — no word has a capital behind its first character.
* `tidy_pieces_iff` — the pieces of a text are tidy if its capitals settle, by induction on the text.
* `segmentWords_of_tidy`, `tidy_pieces_of_segmentWords` — initialisms are not tidy, so that none
  is cut off.
* `lowerCamel_eq_of_tidy`, `tidy_of_lowerCamel_eq` — tidy words are joined as they are, and no
  others are.
* `lowerCamel_segmentWords_eq_iff` — when letters and digits are joined as they are.
* `exists_lowerCamel_eq` — what a joined name looks like.
* `lowerCamel_lowerCamel_eq_iff` — when a name stays as it is.
-/

set_option autoImplicit false

namespace TypedGraphQL

open Document Text

namespace Name

/-- Two capitals side by side are followed by a small letter, and the three are not `IDs`. -/
def CapitalsSettle (text : List Char) : Prop :=
  ∀ c d rest, c :: d :: rest <:+ text → c.isUpper = true → d.isUpper = true →
    ∃ e ∈ rest.head?, e.isLower = true ∧ ¬ (c = 'I' ∧ d = 'D' ∧ e = 's')

/-- No word has a capital behind its first character. -/
def Tidy (words : List Word) : Prop :=
  ∀ w ∈ words, ∀ c ∈ w.tail, c.isUpper = false

/-! ## Two capitals side by side -/

section Settle

variable {c d : Char} {rest text : List Char}

theorem capitalsSettle_nil : CapitalsSettle [] := by
  intro c d rest hsuffix
  simp at hsuffix

theorem capitalsSettle_singleton : CapitalsSettle [c] := by
  intro d e rest hsuffix
  simp [List.suffix_cons_iff] at hsuffix

theorem capitalsSettle_cons_cons :
    CapitalsSettle (c :: d :: rest) ↔
      (c.isUpper = true → d.isUpper = true →
        ∃ e ∈ rest.head?, e.isLower = true ∧ ¬ (c = 'I' ∧ d = 'D' ∧ e = 's')) ∧
      CapitalsSettle (d :: rest) := by
  constructor
  · intro h
    refine ⟨h c d rest List.suffix_rfl, fun c' d' rest' hsuffix => ?_⟩
    exact h c' d' rest' (hsuffix.trans (List.suffix_cons c _))
  · rintro ⟨hfirst, hrest⟩ c' d' rest' hsuffix
    rcases List.suffix_cons_iff.1 hsuffix with heq | hsuffix
    · cases heq
      exact hfirst
    · exact hrest c' d' rest' hsuffix

/-- What is no capital makes no difference at the front. -/
theorem capitalsSettle_append {lead : List Char} (h : ∀ c ∈ lead, c.isUpper = false) :
    CapitalsSettle (lead ++ text) ↔ CapitalsSettle text := by
  induction lead with
  | nil => exact Iff.rfl
  | cons c lead ih =>
    obtain ⟨hc, hlead⟩ := List.forall_mem_cons.1 h
    rw [← ih hlead, List.cons_append]
    cases lead ++ text with
    | nil => exact iff_of_true capitalsSettle_singleton capitalsSettle_nil
    | cons d rest =>
      rw [capitalsSettle_cons_cons, and_iff_right_iff_imp]
      intro _ hupper
      simp [hc] at hupper

end Settle

/-! ## Tidy pieces -/

section Pieces

variable {c d : Char} {rest s : List Char} {words : List Word}

/-- The first piece begins as the text does. -/
theorem exists_pieces_cons (c : Char) (rest : List Char) :
    ∃ w more, pieces (c :: rest) = (c :: w) :: more := by
  rw [pieces]
  split
  · exact ⟨[], _, rfl⟩
  · cases pieces rest with
    | nil => exact ⟨[], [], rfl⟩
    | cons w more => exact ⟨w, more, rfl⟩

/-- **A piece goes on in what is no capital only**, if the pieces are tidy. -/
theorem tidy_pieces_cons_cons :
    Tidy (pieces (c :: d :: rest)) ↔
      (d.isUpper = true → endsWord c (d :: rest) = true) ∧ Tidy (pieces (d :: rest)) := by
  obtain ⟨w, more, hpieces⟩ := exists_pieces_cons d rest
  rw [pieces, hpieces]
  by_cases hends : endsWord c (d :: rest) = true
  · simp [hends, Tidy]
  · simp [hends, Tidy, extendFirst, and_assoc]

theorem isNameChar_of_isAlphanum {c : Char} (h : c.isAlphanum = true) : isNameChar c = true := by
  simp [isNameChar, h]

/-- Before a capital a word ends behind everything but another capital. -/
theorem endsWord_iff_of_isUpper (hc : c.isAlphanum = true)
    (hrest : ∀ e ∈ d :: rest, e.isAlphanum = true) (hd : d.isUpper = true) :
    endsWord c (d :: rest) = true ↔ (c.isUpper = true →
      ∃ e ∈ rest.head?, e.isLower = true ∧ ¬ (c = 'I' ∧ d = 'D' ∧ e = 's')) := by
  have hlower : ∀ e ∈ rest.head?, isLowercase e = e.isLower := fun e he =>
    isLowercase_of_isNameChar (isNameChar_of_isAlphanum
      (hrest e (List.mem_cons_of_mem d (List.mem_of_mem_head? he))))
  have hthird : (∃ e ∈ rest.head?, isLowercase e = true ∧ ¬ (c = 'I' ∧ d = 'D' ∧ e = 's')) ↔
      ∃ e ∈ rest.head?, e.isLower = true ∧ ¬ (c = 'I' ∧ d = 'D' ∧ e = 's') :=
    exists_congr fun e => and_congr_right fun he => by rw [hlower e he]
  have hname := isNameChar_of_isAlphanum hc
  rw [endsWord_cons_iff, hthird, isLowercase_of_isNameChar hname, isNumber_of_isNameChar hname,
    isUppercase_of_isNameChar hname,
    isUppercase_of_isNameChar (isNameChar_of_isUpper hd), hd]
  cases hupper : c.isUpper with
  | true =>
    obtain ⟨hsmall, hdigit⟩ := not_isLower_of_isUpper hupper
    simp [hsmall, hdigit]
  | false =>
    have hsmall : c.isLower = true ∨ c.isDigit = true := by
      simpa [Char.isAlphanum, isAlpha_eq, hupper] using hc
    simp [hsmall]

/-- **The pieces of a text are tidy if its capitals settle.** -/
theorem tidy_pieces_iff (h : ∀ c ∈ s, c.isAlphanum = true) :
    Tidy (pieces s) ↔ CapitalsSettle s := by
  induction s with
  | nil => exact iff_of_true (List.forall_mem_nil _) capitalsSettle_nil
  | cons c s ih =>
    obtain ⟨hc, hs⟩ := List.forall_mem_cons.1 h
    cases s with
    | nil => exact iff_of_true (by simp [pieces, endsWord, Tidy]) capitalsSettle_singleton
    | cons d rest =>
      rw [tidy_pieces_cons_cons, capitalsSettle_cons_cons, ih hs]
      refine and_congr_left' ?_
      rw [forall_comm]
      exact forall_congr' fun hd => endsWord_iff_of_isUpper hc hs hd

/-- Every piece but the first begins with a capital. -/
theorem isUppercase_of_mem_tail_pieces : ∀ w ∈ (pieces s).tail, ∀ c ∈ w.head?,
    isUppercase c = true := by
  induction s with
  | nil => exact List.forall_mem_nil _
  | cons c s ih =>
    cases s with
    | nil => simp [pieces, endsWord]
    | cons d rest =>
      obtain ⟨w, more, hpieces⟩ := exists_pieces_cons d rest
      rw [hpieces] at ih
      rw [pieces, hpieces]
      split
      · rename_i hends
        have hd : isUppercase d = true := by
          rcases endsWord_cons_iff.1 hends with ⟨-, hd⟩ | ⟨-, hd, -⟩ <;> exact hd
        refine List.forall_mem_cons.2 ⟨fun e he => ?_, ih⟩
        cases he
        exact hd
      · exact ih

/-! ## Initialisms are not tidy -/

/-- An initialism has a capital behind its first character. -/
theorem exists_isUpper_of_mem {w : Word} (h : w ∈ initialisms) : ∃ c ∈ w.tail, c.isUpper = true := by
  have hall : ∀ w ∈ initialisms, w.tail.any Char.isUpper = true := by
    decide +kernel
  exact List.any_eq_true.1 (hall w h)

/-- A word that is cut begins with an initialism. -/
theorem splitInitialisms_eq_or (w : Word) :
    splitInitialisms w = [w] ∨
      ∃ i, w.take i ∈ initialisms ∧ splitInitialisms w = [w.take i, w.drop i] := by
  rw [splitInitialisms]
  split
  · cases hcut : initialismCut? w with
    | none => exact Or.inl rfl
    | some i => exact Or.inr ⟨i, (initialismCut?_eq_some_iff.1 hcut).1.1, rfl⟩
  · exact Or.inl rfl

/-- **Tidy pieces are the words.** -/
theorem segmentWords_of_tidy (h : Tidy (pieces s)) : segmentWords s = pieces s := by
  have hone : ∀ w ∈ pieces s, splitInitialisms w = [w] := by
    intro w hw
    refine (splitInitialisms_eq_or w).resolve_right ?_
    rintro ⟨i, hmem, -⟩
    obtain ⟨c, hc, hupper⟩ := exists_isUpper_of_mem hmem
    rw [h w hw c ((List.take_sublist i w).tail.mem hc)] at hupper
    cases hupper
  rw [segmentWords, List.flatMap_congr hone, List.flatMap_singleton']

/-- The pieces of tidy words are tidy: none of them is cut. -/
theorem tidy_pieces_of_segmentWords (h : Tidy (segmentWords s)) : Tidy (pieces s) := by
  intro w hw
  have hwords : ∀ v ∈ splitInitialisms w, v ∈ segmentWords s :=
    fun v hv => List.mem_flatMap.2 ⟨w, hw, hv⟩
  rcases splitInitialisms_eq_or w with heq | ⟨i, hmem, heq⟩
  · rw [heq] at hwords
    exact h w (hwords w List.mem_cons_self)
  · rw [heq] at hwords
    obtain ⟨c, hc, hupper⟩ := exists_isUpper_of_mem hmem
    rw [h _ (hwords _ List.mem_cons_self) c hc] at hupper
    cases hupper

end Pieces

/-! ## Words that are joined -/

section Joined

variable {c : Char} {w : Word} {words : List Word}

theorem toLower_eq_self_iff (h : isNameChar c = true) : c.toLower = c ↔ c.isUpper = false :=
  of_isNameChar (P := fun c => c.toLower = c ↔ c.isUpper = false) (by decide) h

theorem toUpper_eq_self_iff (h : isNameChar c = true) : c.toUpper = c ↔ c.isLower = false :=
  of_isNameChar (P := fun c => c.toUpper = c ↔ c.isLower = false) (by decide) h

theorem length_lower (h : ∀ c ∈ w, isNameChar c = true) : (lower w).length = w.length := by
  rw [lower_of_ascii fun c hc => toNat_lt_of_isNameChar (h c hc), List.length_map]

theorem length_capitalize (h : ∀ c ∈ w, isNameChar c = true) :
    (capitalize w).length = w.length := by
  cases w with
  | nil => rfl
  | cons c w =>
    obtain ⟨hc, hw⟩ := List.forall_mem_cons.1 h
    simp [capitalize, upperChar_of_ascii (toNat_lt_of_isNameChar hc), length_lower hw]

/-- A word without capitals is in small letters. -/
theorem lower_eq_self_iff (h : ∀ c ∈ w, isNameChar c = true) :
    lower w = w ↔ ∀ c ∈ w, c.isUpper = false := by
  have hmap : w.map Char.toLower = w ↔ w.map Char.toLower = w.map id := by rw [List.map_id]
  rw [lower_of_ascii fun c hc => toNat_lt_of_isNameChar (h c hc), hmap, List.map_eq_map_iff]
  exact forall₂_congr fun c hc => toLower_eq_self_iff (h c hc)

/-- A word with a leading capital, or another character that has none, and no capital behind. -/
theorem capitalize_cons_eq_self_iff (h : ∀ d ∈ c :: w, isNameChar d = true) :
    capitalize (c :: w) = c :: w ↔ c.isLower = false ∧ ∀ d ∈ w, d.isUpper = false := by
  obtain ⟨hc, hw⟩ := List.forall_mem_cons.1 h
  rw [capitalize, upperChar_of_ascii (toNat_lt_of_isNameChar hc), List.singleton_append,
    List.cons.injEq, toUpper_eq_self_iff hc, lower_eq_self_iff hw]

/-- Words are capitalized one by one. -/
theorem flatMap_capitalize_eq_flatten_iff (h : ∀ w ∈ words, ∀ c ∈ w, isNameChar c = true) :
    words.flatMap capitalize = words.flatten ↔ ∀ w ∈ words, capitalize w = w := by
  induction words with
  | nil => simp
  | cons w words ih =>
    obtain ⟨hw, hwords⟩ := List.forall_mem_cons.1 h
    rw [List.flatMap_cons, List.flatten_cons, List.forall_mem_cons, ← ih hwords]
    exact ⟨fun heq => List.append_inj heq (length_capitalize hw), fun ⟨h₁, h₂⟩ => by rw [h₁, h₂]⟩

/-- Words are joined as they are if the first has no capital and the others do not change. -/
theorem lowerCamel_eq_flatten_iff (h : ∀ v ∈ w :: words, ∀ c ∈ v, isNameChar c = true) :
    Name.lowerCamel ⟨[], w :: words⟩ = (w :: words).flatten ↔
      (∀ c ∈ w, c.isUpper = false) ∧ ∀ v ∈ words, capitalize v = v := by
  obtain ⟨hw, hwords⟩ := List.forall_mem_cons.1 h
  rw [← lower_eq_self_iff hw, ← flatMap_capitalize_eq_flatten_iff hwords, lowerCamel_cons,
    List.flatten_cons]
  exact ⟨fun heq => List.append_inj heq (length_lower hw), fun ⟨h₁, h₂⟩ => by rw [h₁, h₂]⟩

/-- **Words that are joined as they are are tidy.** -/
theorem tidy_of_lowerCamel_eq (h : ∀ w ∈ words, ∀ c ∈ w, isNameChar c = true)
    (heq : Name.lowerCamel ⟨[], words⟩ = words.flatten) : Tidy words := by
  cases words with
  | nil => exact List.forall_mem_nil _
  | cons w words =>
    obtain ⟨hfirst, hrest⟩ := (lowerCamel_eq_flatten_iff h).1 heq
    refine List.forall_mem_cons.2 ⟨fun c hc => hfirst c (List.mem_of_mem_tail hc), fun v hv => ?_⟩
    cases v with
    | nil => exact List.forall_mem_nil _
    | cons c v =>
      exact ((capitalize_cons_eq_self_iff (h _ (List.mem_cons_of_mem w hv))).1 (hrest _ hv)).2

/-- **Tidy words are joined as they are** if the first begins with no capital and the others with no
small letter. -/
theorem lowerCamel_eq_of_tidy (h : ∀ w ∈ words, ∀ c ∈ w, isNameChar c = true) (htidy : Tidy words)
    (hfirst : ∀ w ∈ words.head?, ∀ c ∈ w.head?, c.isUpper = false)
    (hrest : ∀ w ∈ words.tail, ∀ c ∈ w.head?, c.isLower = false) :
    Name.lowerCamel ⟨[], words⟩ = words.flatten := by
  cases words with
  | nil => rfl
  | cons w words =>
    obtain ⟨hw, hwords⟩ := List.forall_mem_cons.1 htidy
    refine (lowerCamel_eq_flatten_iff h).2 ⟨?_, fun v hv => ?_⟩
    · cases w with
      | nil => exact List.forall_mem_nil _
      | cons c w => exact List.forall_mem_cons.2 ⟨hfirst _ rfl c rfl, hw⟩
    · cases v with
      | nil => rfl
      | cons c v =>
        rw [capitalize_cons_eq_self_iff (h _ (List.mem_cons_of_mem w hv))]
        exact ⟨hrest _ hv c rfl, hwords _ hv⟩

end Joined

/-! ## What a joined name looks like -/

/-- The words of an identifier are those behind its lead. -/
theorem words_dropWhile (ident : List Char) :
    (ofIdent (ident.dropWhile (!isAlphabetic ·))).words = (ofIdent ident).words := by
  rw [ofIdent, ofIdent, List.dropWhile_idempotent]

theorem isAlphanum_toLower {c : Char} (h : c.isAlphanum = true) : c.toLower.isAlphanum = true :=
  of_isNameChar (P := fun c => c.isAlphanum = true → c.toLower.isAlphanum = true) (by decide)
    (isNameChar_of_isAlphanum h) h

theorem isAlphanum_toUpper {c : Char} (h : c.isAlphanum = true) : c.toUpper.isAlphanum = true :=
  of_isNameChar (P := fun c => c.isAlphanum = true → c.toUpper.isAlphanum = true) (by decide)
    (isNameChar_of_isAlphanum h) h

/-- The words of an identifier have letters and digits only. -/
theorem isAlphanum_of_mem_words {ident : List Char} (h : ∀ c ∈ ident, isNameChar c = true) :
    ∀ w ∈ (ofIdent ident).words, ∀ c ∈ w, c.isAlphanum = true := by
  intro w hw c hc
  have hmem : c ∈ (ofIdent ident).words.flatten := List.mem_flatten.2 ⟨w, hw, hc⟩
  have hname : isNameChar c = true := isNameChar_of_mem_words h hw c hc
  rw [flatten_words] at hmem
  have hne : c ≠ '_' := by simpa using (List.mem_filter.1 hmem).2
  simpa [isNameChar, hne] using hname

/-- Words are joined to letters and digits. -/
theorem isAlphanum_of_mem_lowerCamel {words : List Word}
    (h : ∀ w ∈ words, ∀ c ∈ w, c.isAlphanum = true) :
    ∀ c ∈ Name.lowerCamel ⟨[], words⟩, c.isAlphanum = true :=
  forall_mem_lowerCamel (P := fun c => c.isAlphanum = true)
    (fun w hw c hc => isNameChar_of_isAlphanum (h w hw c hc))
    (fun w hw c hc => isAlphanum_toLower (h w hw c hc))
    fun w hw c hc => isAlphanum_toUpper (h w hw c hc)

theorem isLower_toLower {c : Char} (h : c.isAlpha = true) : c.toLower.isLower = true :=
  of_isNameChar (P := fun c => c.isAlpha = true → c.toLower.isLower = true) (by decide)
    (isNameChar_of_isAlphanum (by simp [Char.isAlphanum, h])) h

/-- The words are joined to a text that begins with a small letter: the first of them begins with
the first letter of the identifier. -/
theorem isLower_head_lowerCamel {ident : List Char} (h : ∀ c ∈ ident, isNameChar c = true) :
    ∀ c ∈ (Name.lowerCamel ⟨[], (ofIdent ident).words⟩).head?, c.isLower = true := by
  rw [← words_dropWhile]
  have hbody : ∀ c ∈ ident.dropWhile (!isAlphabetic ·), isNameChar c = true :=
    fun c hc => h c ((List.dropWhile_sublist _).mem hc)
  cases hdrop : ident.dropWhile (!isAlphabetic ·) with
  | nil => simp [ofIdent, segments, Name.lowerCamel]
  | cons d rest =>
    have hletter : isAlphabetic d = true := by
      have hnot := List.head?_dropWhile_not (!isAlphabetic ·) ident
      simpa [hdrop] using hnot
    rw [hdrop] at hbody
    have hd := toNat_lt_of_isNameChar (hbody d List.mem_cons_self)
    rw [isAlphabetic_of_ascii hd] at hletter
    obtain ⟨-, t, more, hwords⟩ := exists_words_eq_cons hbody rfl hletter
    have hfirst : ∀ c ∈ d :: t, isNameChar c = true :=
      isNameChar_of_mem_words hbody (hwords ▸ List.mem_cons_self)
    rw [hwords, lowerCamel_cons, lower_of_ascii fun c hc => toNat_lt_of_isNameChar (hfirst c hc)]
    intro c hc
    obtain rfl : d.toLower = c := by simpa using hc
    exact isLower_toLower hletter

/-- What a name is joined to: its lead, and behind it letters and digits, of which the first is a
small letter. -/
theorem exists_lowerCamel_eq {ident : List Char} (h : ∀ c ∈ ident, isNameChar c = true) :
    ∃ lead body, (ofIdent ident).lowerCamel = lead ++ body ∧
      (∀ c ∈ lead, isAlphabetic c = false) ∧ (∀ c ∈ body, c.isAlphanum = true) ∧
      ∀ c ∈ body.head?, c.isLower = true := by
  refine ⟨(ofIdent ident).lead, Name.lowerCamel ⟨[], (ofIdent ident).words⟩,
    lowerCamel_eq_append _, fun c hc => ?_,
    isAlphanum_of_mem_lowerCamel (isAlphanum_of_mem_words h), isLower_head_lowerCamel h⟩
  simpa using List.mem_takeWhile_imp hc

/-- Letters and digits are one segment, or none. -/
theorem flatMap_segmentWords_segments {s : List Char} (h : ∀ c ∈ s, c.isAlphanum = true) :
    (segments s).flatMap segmentWords = segmentWords s := by
  by_cases hs : s = []
  · subst hs
    rfl
  · rw [segments_eq_singleton hs fun hmem => ne_underscore_of_alphanum (h _ hmem) rfl,
      List.flatMap_singleton]

/-- **The words of letters and digits are joined as they are if the capitals settle.** -/
theorem lowerCamel_segmentWords_eq_iff {s : List Char} (h : ∀ c ∈ s, c.isAlphanum = true)
    (hsmall : ∀ c ∈ s.head?, c.isLower = true) :
    Name.lowerCamel ⟨[], segmentWords s⟩ = s ↔ CapitalsSettle s := by
  have hwords : ∀ w ∈ segmentWords s, ∀ c ∈ w, isNameChar c = true := by
    intro w hw c hc
    have hmem : c ∈ s := by
      rw [← flatten_segmentWords s]
      exact List.mem_flatten.2 ⟨w, hw, hc⟩
    exact isNameChar_of_isAlphanum (h c hmem)
  rw [← tidy_pieces_iff h]
  constructor
  · intro heq
    refine tidy_pieces_of_segmentWords (tidy_of_lowerCamel_eq hwords ?_)
    rw [heq, flatten_segmentWords]
  · intro htidy
    have hpieces := segmentWords_of_tidy htidy
    rw [hpieces] at hwords ⊢
    refine (lowerCamel_eq_of_tidy hwords htidy ?_ fun w hw c hc => ?_).trans (flatten_pieces s)
    · -- the first piece begins with the small letter that the text begins with
      cases s with
      | nil => simp [pieces]
      | cons d rest =>
        obtain ⟨w, more, hcons⟩ := exists_pieces_cons d rest
        have hd : d.isUpper = false := Bool.eq_false_iff.2 fun hcapital => by
          simp [not_isLower_of_isUpper hcapital] at hsmall
        simp [hcons, hd]
    · have hcapital := isUppercase_of_mem_tail_pieces w hw c hc
      rw [isUppercase_of_isNameChar
        (hwords w (List.mem_of_mem_tail hw) c (List.mem_of_mem_head? hc))] at hcapital
      exact (not_isLower_of_isUpper hcapital).1

end Name

open Name

/-- **A name stays as it is if its capitals settle**: converted once more, it is the same name exactly
if any two capitals side by side are followed by a small letter, and the three are not `IDs`. -/
theorem lowerCamel_lowerCamel_eq_iff {ident : String}
    (h : ∀ c ∈ ident.toList, isNameChar c = true) :
    lowerCamel (lowerCamel ident) = lowerCamel ident ↔
      CapitalsSettle (lowerCamel ident).toList := by
  obtain ⟨lead, body, hname, hlead, hbody, hsmall⟩ := exists_lowerCamel_eq h
  have halpha : ∀ c ∈ body.head?, isAlphabetic c = true := by
    intro c hc
    rw [isAlphabetic_of_ascii (toNat_lt_of_isNameChar (isNameChar_of_isLower (hsmall c hc))),
      isAlpha_eq, hsmall c hc, Bool.or_true]
  have hcapital : ∀ c ∈ lead, c.isUpper = false := by
    intro c hc
    refine Bool.eq_false_iff.2 fun hupper => ?_
    have hletter := hlead c hc
    rw [isAlphabetic_of_ascii (toNat_lt_of_isNameChar (isNameChar_of_isUpper hupper)),
      isAlpha_eq, hupper] at hletter
    cases hletter
  -- the second conversion finds the lead again, and what follows it is one segment
  have hagain : ofIdent (lead ++ body) = ⟨lead, segmentWords body⟩ := by
    rw [ofIdent_append hlead halpha, flatMap_segmentWords_segments hbody]
  rw [lowerCamel, lowerCamel, String.toList_ofList, String.ofList_inj, hname, hagain,
    lowerCamel_eq_append, List.append_cancel_left_eq, capitalsSettle_append hcapital]
  exact lowerCamel_segmentWords_eq_iff hbody hsmall

/-- `aBCd`, the name of `a_b_cd`, stays; `aBC` and `aIDs`, those of `a_b_c` and `a_i_ds`, do not. -/
theorem lowerCamel_lowerCamel_aBCd :
    lowerCamel (lowerCamel "a_b_cd") = lowerCamel "a_b_cd" ∧
      lowerCamel (lowerCamel "a_b_c") ≠ lowerCamel "a_b_c" ∧
      lowerCamel (lowerCamel "a_i_ds") ≠ lowerCamel "a_i_ds" := by
  refine ⟨(lowerCamel_lowerCamel_eq_iff (by simp [isNameChar])).2 ?_, fun h => ?_, fun h => ?_⟩
  · have hname : (lowerCamel "a_b_cd").toList = ['a', 'B', 'C', 'd'] := by decide +kernel
    rw [hname]
    simp [capitalsSettle_cons_cons, capitalsSettle_singleton]
  · have hname : (lowerCamel "a_b_c").toList = ['a', 'B', 'C'] := by decide +kernel
    have hsettle := (lowerCamel_lowerCamel_eq_iff (by simp [isNameChar])).1 h
    rw [hname] at hsettle
    simp [capitalsSettle_cons_cons, capitalsSettle_singleton] at hsettle
  · have hname : (lowerCamel "a_i_ds").toList = ['a', 'I', 'D', 's'] := by decide +kernel
    have hsettle := (lowerCamel_lowerCamel_eq_iff (by simp [isNameChar])).1 h
    rw [hname] at hsettle
    simp [capitalsSettle_cons_cons, capitalsSettle_singleton] at hsettle

end TypedGraphQL
