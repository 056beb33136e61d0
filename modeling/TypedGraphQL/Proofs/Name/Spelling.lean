import Mathlib.Data.List.Chain
import TypedGraphQL.Proofs.Name.Boundary

/-!
# One name in two spellings

The same words can be written in snake_case, where underscores show the words, or in MixedCaps,
where only capitals do.  In MixedCaps a word has a leading capital, or is an initialism in capitals
throughout, and no three initialisms stand in a row.  This file says which words are found in
MixedCaps; what becomes of the joined name is left to `TypedGraphQL.Proofs.Name.Agreement`.

The words are found again, with one exception: an initialism that ends in `I`, followed by a word
that begins with `Ds`, looks like the plural `IDs`, so no word ends between the two.  Then there are
fewer words than there were.

## What is here

* `Spelling` — a word and how it is written; `snakeCase`, `mixedCaps` — the spellings of some words.
* `Spelling.Swallows` — the exception; `Spelling.Joins` — where no word ends between two words.
* `endsWord_iff_not_joins`, `pieces_of_not_joins`, `pieces_of_joins` — the ends of words between two
  of them.
* `segmentWords_of_not_joins` and its likes — one step: a word, a run of two, or what is swallowed.
* `Finds`, `finds_segmentWords` — all words, by induction on them.
-/

set_option autoImplicit false

namespace TypedGraphQL.Name

open Document Text

/-! ## Words and their spellings -/

/-- A word, given in small letters, and how it is written in MixedCaps: in capitals throughout, or
with a leading capital. -/
structure Spelling where
  word : Word
  inCapitals : Bool
  deriving DecidableEq, Repr

namespace Spelling

/-- The word in MixedCaps. -/
def mixed (w : Spelling) : Word :=
  if w.inCapitals then w.word.map Char.toUpper
  else match w.word with
    | [] => []
    | c :: rest => c.toUpper :: rest

/-- The word has small letters and digits, begins with two letters, and is written in capitals only
if it is an initialism. -/
structure IsPlain (w : Spelling) : Prop where
  small : ∀ c ∈ w.word, (c.isLower || c.isDigit) = true
  begins : ∃ c d rest, w.word = c :: d :: rest ∧ c.isLower = true ∧ d.isLower = true
  listed : w.inCapitals = true → w.mixed ∈ initialisms

/-- **The exception**: behind an initialism that ends in `I`, the beginning of the next word looks
like the end of `IDs`. -/
def Swallows (a b : Spelling) : Prop :=
  a.inCapitals = true ∧ a.mixed.getLast? = some 'I' ∧ b.inCapitals = false ∧ ['D', 's'] <+: b.mixed

/-- No word ends between the two: they are a run of capitals, or the exception. -/
def Joins (a b : Spelling) : Prop :=
  a.inCapitals = true ∧ (∀ z ∈ a.mixed.getLast?, z.isUpper = true) ∧
    (b.inCapitals = true ∨ a.Swallows b)

end Spelling

/-- The words in snake_case. -/
def snakeCase (ws : List Spelling) : List Char :=
  List.intercalate ['_'] (ws.map (·.word))

/-- The words in MixedCaps. -/
def mixedCaps (ws : List Spelling) : List Char :=
  ws.flatMap (·.mixed)

/-! ## The characters of a word -/

section Characters

variable {c : Char}

theorem isUpper_toUpper (h : c.isLower = true) : c.toUpper.isUpper = true :=
  of_isNameChar (P := fun c => c.isLower = true → c.toUpper.isUpper = true) (by decide)
    (isNameChar_of_isLower h) h

theorem toLower_toUpper (h : isNameChar c = true) (hc : (c.isLower || c.isDigit) = true) :
    c.toUpper.toLower = c :=
  of_isNameChar (P := fun c => (c.isLower || c.isDigit) = true → c.toUpper.toLower = c) (by decide)
    h hc

theorem toLower_of_small (h : isNameChar c = true) (hc : (c.isLower || c.isDigit) = true) :
    c.toLower = c :=
  of_isNameChar (P := fun c => (c.isLower || c.isDigit) = true → c.toLower = c) (by decide) h hc

theorem isUpper_toLower (h : isNameChar c = true) : c.toLower.isUpper = false :=
  of_isNameChar (P := fun c => c.toLower.isUpper = false) (by decide) h

theorem isNameChar_of_small (h : (c.isLower || c.isDigit) = true) : isNameChar c = true :=
  (Bool.or_eq_true_iff.1 h).elim isNameChar_of_isLower isNameChar_of_isDigit

theorem ne_underscore_of_alphanum (h : c.isAlphanum = true) : c ≠ '_' := by
  rintro rfl
  exact absurd h (by decide)

end Characters

namespace Spelling

variable {a b : Spelling}

/-- A word with a leading capital. -/
theorem mixed_of_not_inCapitals (ha : a.IsPlain) (h : a.inCapitals = false) :
    ∃ c d rest, a.mixed = c :: d :: rest ∧ c.isUpper = true ∧ d.isLower = true ∧
      ∀ e ∈ d :: rest, (e.isLower || e.isDigit) = true := by
  obtain ⟨c, d, rest, hword, hc, hd⟩ := ha.begins
  have hmixed : a.mixed = c.toUpper :: d :: rest := by
    rw [mixed, h, hword]
    rfl
  have hsmall := ha.small
  rw [hword] at hsmall
  exact ⟨c.toUpper, d, rest, hmixed, isUpper_toUpper hc, hd, (List.forall_mem_cons.1 hsmall).2⟩

/-- A word in capitals. -/
theorem mixed_of_inCapitals (ha : a.IsPlain) (h : a.inCapitals = true) :
    ∃ c d rest, a.mixed = c :: d :: rest ∧ c.isUpper = true ∧ d.isUpper = true := by
  obtain ⟨c, d, rest, hword, hc, hd⟩ := ha.begins
  have hmixed : a.mixed = c.toUpper :: d.toUpper :: rest.map Char.toUpper := by
    rw [mixed, h, hword]
    rfl
  exact ⟨_, _, _, hmixed, isUpper_toUpper hc, isUpper_toUpper hd⟩

/-- A word in capitals up to its last character. -/
theorem exists_last (ha : a.IsPlain) (h : a.inCapitals = true) :
    ∃ u z, a.mixed = u ++ [z] ∧ (∀ c ∈ u, c.isUpper = true) ∧ isInitialismChar z = true := by
  obtain ⟨hupper, hall⟩ := capitals_of_mem (ha.listed h)
  have hne : a.mixed ≠ [] := by
    obtain ⟨c, d, rest, hmixed, -, -⟩ := mixed_of_inCapitals ha h
    rw [hmixed]
    exact List.cons_ne_nil _ _
  refine ⟨a.mixed.dropLast, a.mixed.getLast hne, (List.dropLast_append_getLast hne).symm, hupper, ?_⟩
  exact hall _ (List.getLast_mem hne)

/-- Every word begins with a capital. -/
theorem startsCapital (ha : a.IsPlain) (rest : List Char) : StartsCapital (a.mixed ++ rest) := by
  intro e he
  cases h : a.inCapitals with
  | false =>
    obtain ⟨c, d, more, hmixed, hc, -⟩ := mixed_of_not_inCapitals ha h
    rw [hmixed] at he
    cases he
    exact hc
  | true =>
    obtain ⟨c, d, more, hmixed, hc, -⟩ := mixed_of_inCapitals ha h
    rw [hmixed] at he
    cases he
    exact hc

theorem Swallows.joins (h : a.Swallows b) : a.Joins b := by
  refine ⟨h.1, fun z hz => ?_, Or.inr h⟩
  rw [h.2.1] at hz
  cases hz
  rfl

end Spelling

open Spelling

/-! ## The ends of words between two of them -/

section Pieces

variable {a b : Spelling} {rest : List Char}

theorem startsCapital_nil : StartsCapital [] :=
  nofun

/-- A word with a leading capital is found again. -/
theorem pieces_of_not_inCapitals (ha : a.IsPlain) (h : a.inCapitals = false)
    (hrest : StartsCapital rest) : pieces (a.mixed ++ rest) = a.mixed :: pieces rest := by
  obtain ⟨c, d, more, hmixed, -, -, hsmall⟩ := mixed_of_not_inCapitals ha h
  rw [hmixed]
  exact pieces_capitalized (List.cons_ne_nil d more) hsmall hrest

/-- A word in capitals is found again if a word ends with its last character. -/
theorem pieces_of_inCapitals {u : Word} {z : Char} (hmixed : a.mixed = u ++ [z])
    (hu : ∀ c ∈ u, c.isUpper = true) (hz : isInitialismChar z = true) (hrest : StartsCapital rest) :
    pieces (a.mixed ++ rest) =
      if endsWord z rest then a.mixed :: pieces rest else a.mixed.foldr extendFirst (pieces rest) := by
  rw [hmixed, List.append_assoc, List.singleton_append, pieces_capitals hu hz hrest, pieces]
  split
  · rw [foldr_extendFirst_cons]
  · rw [List.foldr_append]
    rfl

/-- Between a capital and a word with a leading capital a word ends, but for the exception. -/
theorem endsWord_before_small {z c d : Char} {more : List Char} (hz : z.isUpper = true)
    (hc : c.isUpper = true) (hd : d.isLower = true) :
    endsWord z (c :: d :: more) = true ↔ ¬ (z = 'I' ∧ c = 'D' ∧ d = 's') := by
  have hzname := isNameChar_of_isUpper hz
  obtain ⟨hlower, hdigit⟩ := not_isLower_of_isUpper hz
  rw [endsWord, isLowercase_of_isNameChar hzname, isNumber_of_isNameChar hzname, hlower, hdigit,
    isUppercase_of_isNameChar hzname, hz, isUppercase_of_isNameChar (isNameChar_of_isUpper hc), hc,
    isLowercase_of_isNameChar (isNameChar_of_isLower hd), hd]
  rw [← and_assoc, not_and_or, not_and_or]
  simp

/-- **Where a word ends behind a word in capitals**: everywhere, but where the two join. -/
theorem endsWord_iff_not_joins (hb : b.IsPlain) (hcaps : a.inCapitals = true) {u : Word} {z : Char}
    (hmixed : a.mixed = u ++ [z]) (hz : isInitialismChar z = true) :
    endsWord z (b.mixed ++ rest) = true ↔ ¬ a.Joins b := by
  have hlast : a.mixed.getLast? = some z := by rw [hmixed, List.getLast?_concat]
  have hjoins : a.Joins b ↔ z.isUpper = true ∧ (b.inCapitals = true ∨ a.Swallows b) := by
    rw [Joins, hlast, and_iff_right hcaps]
    exact and_congr_left' ⟨fun h => h z rfl, fun h _ hz => Option.some.inj hz ▸ h⟩
  rw [hjoins]
  by_cases hupper : z.isUpper = true
  · rw [and_iff_right hupper]
    cases hbcaps : b.inCapitals with
    | true =>
      -- a run of capitals goes on
      obtain ⟨c, d, more, hbmixed, hc, hd⟩ := mixed_of_inCapitals hb hbcaps
      have hgoes : endsWord z (b.mixed ++ rest) = false := by
        rw [hbmixed]
        refine endsWord_of_isUpper hupper fun e he => ?_
        cases he
        rw [isLowercase_of_isNameChar (isNameChar_of_isUpper hd), (not_isLower_of_isUpper hd).1]
      rw [hgoes]
      exact iff_of_false Bool.false_ne_true fun h => h (Or.inl rfl)
    | false =>
      obtain ⟨c, d, more, hbmixed, hc, hd, -⟩ := mixed_of_not_inCapitals hb hbcaps
      have hswallows : a.Swallows b ↔ z = 'I' ∧ c = 'D' ∧ d = 's' := by
        rw [Swallows, hlast, hbmixed, and_iff_right hcaps, and_iff_right hbcaps,
          List.cons_prefix_cons, List.cons_prefix_cons, Option.some.injEq]
        exact and_congr_right' ⟨fun h => ⟨h.1.symm, h.2.1.symm⟩,
          fun h => ⟨h.1.symm, h.2.symm, List.nil_prefix⟩⟩
      rw [or_iff_right Bool.false_ne_true, hswallows, hbmixed]
      exact endsWord_before_small hupper hc hd
  · -- a digit ends a word before every capital
    have hdigit : z.isDigit = true := (Bool.or_eq_true_iff.1 hz).resolve_left hupper
    refine iff_of_true ?_ fun h => hupper h.1
    have hstarts := startsCapital hb rest
    cases htext : b.mixed ++ rest with
    | nil => rfl
    | cons c more =>
      rw [htext] at hstarts
      have hc := hstarts c rfl
      refine endsWord_of_isUppercase ?_ ?_
      · rw [isNumber_of_isNameChar (isNameChar_of_isDigit hdigit), hdigit, Bool.or_true]
      · rw [isUppercase_of_isNameChar (isNameChar_of_isUpper hc), hc]

/-- A word that stands alone, or last, is found again. -/
theorem pieces_mixed (ha : a.IsPlain) : pieces a.mixed = [a.mixed] := by
  cases h : a.inCapitals with
  | false =>
    have hpieces := pieces_of_not_inCapitals ha h startsCapital_nil
    rwa [List.append_nil] at hpieces
  | true =>
    obtain ⟨u, z, hmixed, hu, hz⟩ := exists_last ha h
    have hpieces := pieces_of_inCapitals hmixed hu hz startsCapital_nil
    rwa [List.append_nil, endsWord, if_pos rfl] at hpieces

/-- **A word is found again unless it joins the next one.** -/
theorem pieces_of_not_joins (ha : a.IsPlain) (hb : b.IsPlain) (h : ¬ a.Joins b) :
    pieces (a.mixed ++ (b.mixed ++ rest)) = a.mixed :: pieces (b.mixed ++ rest) := by
  cases hcaps : a.inCapitals with
  | false => exact pieces_of_not_inCapitals ha hcaps (startsCapital hb rest)
  | true =>
    obtain ⟨u, z, hmixed, hu, hz⟩ := exists_last ha hcaps
    rw [pieces_of_inCapitals hmixed hu hz (startsCapital hb rest),
      if_pos ((endsWord_iff_not_joins hb hcaps hmixed hz).2 h)]

/-- **A word that joins the next one is put in front of it.** -/
theorem pieces_of_joins (ha : a.IsPlain) (hb : b.IsPlain) (h : a.Joins b) :
    pieces (a.mixed ++ (b.mixed ++ rest)) =
      a.mixed.foldr extendFirst (pieces (b.mixed ++ rest)) := by
  obtain ⟨u, z, hmixed, hu, hz⟩ := exists_last ha h.1
  rw [pieces_of_inCapitals hmixed hu hz (startsCapital hb rest),
    if_neg fun hend => (endsWord_iff_not_joins hb h.1 hmixed hz).1 hend h]

end Pieces

/-! ## The words that are found -/

section Words

variable {a b : Spelling} {ws : List Spelling} {words : List Word}

/-- **What is found of some words**: the words themselves, or fewer if one of them swallows the
beginning of the next. -/
def Finds (ws : List Spelling) (words : List Word) : Prop :=
  (ws.IsChain (fun a b => ¬ a.Swallows b) → words = ws.map (·.mixed)) ∧
    (¬ ws.IsChain (fun a b => ¬ a.Swallows b) → words.length < ws.length)

theorem Finds.length_le (h : Finds ws words) : words.length ≤ ws.length := by
  by_cases hchain : ws.IsChain (fun a b => ¬ a.Swallows b)
  · rw [h.1 hchain, List.length_map]
  · exact Nat.le_of_lt (h.2 hchain)

/-- A word that is found and swallows nothing goes in front. -/
theorem Finds.cons (h : Finds ws words) (hnot : ∀ b ∈ ws.head?, ¬ a.Swallows b) :
    Finds (a :: ws) (a.mixed :: words) := by
  rw [Finds, List.isChain_cons, and_iff_right hnot]
  refine ⟨fun hchain => ?_, fun hchain => Nat.succ_lt_succ (h.2 hchain)⟩
  rw [h.1 hchain, List.map_cons]

/-- Where a word swallows the beginning of the next one, fewer words are found. -/
theorem Finds.of_swallows (h : a.Swallows b) (hlength : words.length < (a :: b :: ws).length) :
    Finds (a :: b :: ws) words :=
  ⟨fun hchain => absurd h (List.isChain_cons_cons.1 hchain).1, fun _ => hlength⟩

/-- A word by itself is cut no further. -/
theorem splitInitialisms_mixed (ha : a.IsPlain) : splitInitialisms a.mixed = [a.mixed] := by
  cases h : a.inCapitals with
  | false =>
    obtain ⟨c, d, rest, hmixed, -, hd, -⟩ := mixed_of_not_inCapitals ha h
    refine splitInitialisms_of_isLower (c := d) ?_ hd
    rw [hmixed]
    exact List.mem_cons_of_mem _ List.mem_cons_self
  | true => exact splitInitialisms_of_mem (ha.listed h)

/-- A run of capitals that ends in a word with a leading capital is cut no further. -/
theorem splitInitialisms_append_mixed (u : Word) (hb : b.IsPlain) (h : b.inCapitals = false) :
    splitInitialisms (u ++ b.mixed) = [u ++ b.mixed] := by
  obtain ⟨c, d, rest, hmixed, -, hd, -⟩ := mixed_of_not_inCapitals hb h
  refine splitInitialisms_of_isLower (c := d) ?_ hd
  rw [hmixed]
  exact List.mem_append_right _ (List.mem_cons_of_mem _ List.mem_cons_self)

theorem segmentWords_of_pieces {s t : List Char} {piece : Word}
    (h : pieces s = piece :: pieces t) : segmentWords s = splitInitialisms piece ++ segmentWords t := by
  rw [segmentWords, h, List.flatMap_cons]
  rfl

theorem startsCapital_mixedCaps (h : ∀ w ∈ ws, w.IsPlain) : StartsCapital (mixedCaps ws) := by
  cases ws with
  | nil => exact startsCapital_nil
  | cons a ws => exact startsCapital (h a List.mem_cons_self) (mixedCaps ws)

theorem mixedCaps_cons (a : Spelling) (ws : List Spelling) :
    mixedCaps (a :: ws) = a.mixed ++ mixedCaps ws :=
  List.flatMap_cons

/-- A word that joins none ends in front of the others. -/
theorem pieces_mixedCaps_cons (ha : a.IsPlain) (hws : ∀ w ∈ ws, w.IsPlain)
    (h : ∀ b ∈ ws.head?, ¬ a.Joins b) :
    pieces (mixedCaps (a :: ws)) = a.mixed :: pieces (mixedCaps ws) := by
  cases ws with
  | nil =>
    rw [mixedCaps_cons, mixedCaps, List.flatMap_nil, List.append_nil]
    exact pieces_mixed ha
  | cons b ws => exact pieces_of_not_joins ha (hws b List.mem_cons_self) (h b rfl)

/-- A word that joins none is found. -/
theorem segmentWords_of_not_joins (ha : a.IsPlain) (hws : ∀ w ∈ ws, w.IsPlain)
    (h : ∀ b ∈ ws.head?, ¬ a.Joins b) :
    segmentWords (mixedCaps (a :: ws)) = a.mixed :: segmentWords (mixedCaps ws) := by
  rw [segmentWords_of_pieces (pieces_mixedCaps_cons ha hws h), splitInitialisms_mixed ha,
    List.singleton_append]

/-- A word that swallows the beginning of the next one makes one word with it. -/
theorem segmentWords_of_swallows (ha : a.IsPlain) (hb : b.IsPlain) (hws : ∀ w ∈ ws, w.IsPlain)
    (h : a.Swallows b) :
    segmentWords (mixedCaps (a :: b :: ws)) =
      (a.mixed ++ b.mixed) :: segmentWords (mixedCaps ws) := by
  have hpieces : pieces (mixedCaps (a :: b :: ws)) =
      (a.mixed ++ b.mixed) :: pieces (mixedCaps ws) := by
    rw [mixedCaps_cons, mixedCaps_cons, pieces_of_joins ha hb h.joins,
      pieces_of_not_inCapitals hb h.2.2.1 (startsCapital_mixedCaps hws), foldr_extendFirst_cons]
  rw [segmentWords_of_pieces hpieces, splitInitialisms_append_mixed _ hb h.2.2.1,
    List.singleton_append]

/-- Two words in capitals are found in their run. -/
theorem segmentWords_of_joins (ha : a.IsPlain) (hb : b.IsPlain) (hws : ∀ w ∈ ws, w.IsPlain)
    (h : a.Joins b) (hcaps : b.inCapitals = true) (hend : ∀ c ∈ ws.head?, ¬ b.Joins c) :
    segmentWords (mixedCaps (a :: b :: ws)) =
      a.mixed :: b.mixed :: segmentWords (mixedCaps ws) := by
  have hpieces : pieces (mixedCaps (a :: b :: ws)) =
      (a.mixed ++ b.mixed) :: pieces (mixedCaps ws) := by
    rw [mixedCaps_cons, mixedCaps_cons, pieces_of_joins ha hb h, ← mixedCaps_cons,
      pieces_mixedCaps_cons hb hws hend, foldr_extendFirst_cons]
  rw [segmentWords_of_pieces hpieces, splitInitialisms_append (ha.listed h.1) (hb.listed hcaps)]
  rfl

/-- Two words in capitals, the second of which swallows the beginning of a third, make one word. -/
theorem segmentWords_of_joins_of_swallows {c : Spelling} (ha : a.IsPlain) (hb : b.IsPlain)
    (hc : c.IsPlain) (hws : ∀ w ∈ ws, w.IsPlain) (h : a.Joins b) (hswallows : b.Swallows c) :
    segmentWords (mixedCaps (a :: b :: c :: ws)) =
      (a.mixed ++ b.mixed ++ c.mixed) :: segmentWords (mixedCaps ws) := by
  have hpieces : pieces (mixedCaps (a :: b :: c :: ws)) =
      (a.mixed ++ b.mixed ++ c.mixed) :: pieces (mixedCaps ws) := by
    rw [mixedCaps_cons, mixedCaps_cons, mixedCaps_cons, pieces_of_joins ha hb h,
      pieces_of_joins hb hc hswallows.joins,
      pieces_of_not_inCapitals hc hswallows.2.2.1 (startsCapital_mixedCaps hws),
      foldr_extendFirst_cons, foldr_extendFirst_cons, List.append_assoc]
  rw [segmentWords_of_pieces hpieces, splitInitialisms_append_mixed _ hc hswallows.2.2.1,
    List.singleton_append]

/-- No three words in a row are in capitals. -/
def NoLongRun (ws : List Spelling) : Prop :=
  ¬ [true, true, true] <:+: ws.map (·.inCapitals)

theorem NoLongRun.tail (h : NoLongRun (a :: ws)) : NoLongRun ws :=
  fun hinfix => h (List.infix_cons hinfix)

theorem NoLongRun.third {c : Spelling} (h : NoLongRun (a :: b :: c :: ws))
    (ha : a.inCapitals = true) (hb : b.inCapitals = true) : c.inCapitals = false := by
  rw [NoLongRun, List.map_cons, List.map_cons, List.map_cons, ha, hb] at h
  refine Bool.eq_false_iff.2 fun hc => h ?_
  rw [hc]
  exact List.IsPrefix.isInfix (List.prefix_append [true, true, true] _)

theorem exists_of_not_forall_head? {P : Spelling → Prop} (h : ¬ ∀ b ∈ ws.head?, ¬ P b) :
    ∃ b rest, ws = b :: rest ∧ P b := by
  cases ws with
  | nil => exact absurd (fun b hb => by cases hb) h
  | cons b rest =>
    refine ⟨b, rest, rfl, by_contra fun hP => h fun c hc => ?_⟩
    cases hc
    exact hP

/-- **What is found in MixedCaps.**  Where two words join, both are in capitals and are told apart
as initialisms, or the first swallows the beginning of the second. -/
theorem finds_segmentWords {ws : List Spelling} (h : ∀ w ∈ ws, w.IsPlain) (hrun : NoLongRun ws) :
    Finds ws (segmentWords (mixedCaps ws)) := by
  -- a run of two words, and what it swallows, is left behind at once
  induction hn : ws.length using Nat.strong_induction_on generalizing ws with
  | _ n ih =>
  subst hn
  cases ws with
  | nil => exact ⟨fun _ => rfl, fun hchain => absurd .nil hchain⟩
  | cons a ws =>
  obtain ⟨ha, hws⟩ := List.forall_mem_cons.1 h
  by_cases hjoins : ∀ b ∈ ws.head?, ¬ a.Joins b
  · -- the word is found
    rw [segmentWords_of_not_joins ha hws hjoins]
    refine (ih _ (Nat.lt_succ_self _) hws hrun.tail rfl).cons fun b hb hswallows => ?_
    exact hjoins b hb hswallows.joins
  · obtain ⟨b, rest, rfl, hab⟩ := exists_of_not_forall_head? hjoins
    obtain ⟨hb, hrest⟩ := List.forall_mem_cons.1 hws
    have hfinds : Finds rest (segmentWords (mixedCaps rest)) :=
      ih _ (by rw [List.length_cons, List.length_cons]; omega) hrest hrun.tail.tail rfl
    rcases hab.2.2 with hcaps | hswallows
    · -- a run of two words in capitals
      have hnot : ¬ a.Swallows b := fun hswallows =>
        Bool.false_ne_true (hswallows.2.2.1.symm.trans hcaps)
      by_cases hend : ∀ c ∈ rest.head?, ¬ b.Joins c
      · rw [segmentWords_of_joins ha hb hrest hab hcaps hend]
        refine (hfinds.cons fun c hc hswallows => hend c hc hswallows.joins).cons fun c hc => ?_
        cases hc
        exact hnot
      · obtain ⟨c, rest, rfl, hbc⟩ := exists_of_not_forall_head? hend
        obtain ⟨hc, hrest⟩ := List.forall_mem_cons.1 hrest
        have hsmall := hrun.third hab.1 hcaps
        have hswallows : b.Swallows c :=
          hbc.2.2.resolve_left fun h => Bool.false_ne_true (hsmall.symm.trans h)
        have hlength : (segmentWords (mixedCaps rest)).length ≤ rest.length :=
          (ih _ (by rw [List.length_cons, List.length_cons, List.length_cons]; omega) hrest
            hrun.tail.tail.tail rfl).length_le
        rw [segmentWords_of_joins_of_swallows ha hb hc hrest hab hswallows]
        refine ⟨fun hchain => ?_, fun _ => ?_⟩
        · exact absurd hswallows (List.isChain_cons_cons.1 (List.isChain_cons_cons.1 hchain).2).1
        · rw [List.length_cons, List.length_cons, List.length_cons, List.length_cons]
          omega
    · rw [segmentWords_of_swallows ha hb hrest hswallows]
      exact Finds.of_swallows hswallows (Nat.succ_lt_succ (Nat.lt_succ_of_le hfinds.length_le))

end Words

end TypedGraphQL.Name
