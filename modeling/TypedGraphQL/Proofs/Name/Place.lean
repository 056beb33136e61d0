import Mathlib.Data.List.TakeWhile
import TypedGraphQL.Proofs.Name.Boundary
import TypedGraphQL.Proofs.Name.Cut

/-!
# Where the words of an identifier end

This file says where an identifier is cut into words, without saying how: it looks at two neighbours
among the characters that are no underscores, at the underscores between them, and at the character
behind them.  A word ends between the two

* if there is an underscore between them,
* if a small letter or number is followed by a capital,
* if a capital is followed by another one and that by a small letter, unless the three are `IDs`.

What stands between two such places is one word, or two if it is a run of two initialisms.

## What is here

* `Name.Place`, `Name.Place.EndsWord` — two neighbours and what is around them, and the three rules.
* `Name.EndsAt` — one of the rules holds behind the first `k` characters; `Name.endsAt_cons`.
* `Name.isCut_bodyPieces` — a body is cut exactly there, by induction on the body.
* `Name.InitialismsMeetAt` — two initialisms meet between two such places.
* `Name.ofIdent_cuts` — the whole identifier.
-/

set_option autoImplicit false

namespace TypedGraphQL.Name

open Text

/-! ## Places -/

/-- The characters of a text that are no underscores. -/
def bare (text : List Char) : List Char :=
  text.filter (· ≠ '_')

/-- Two characters of a text, nothing but underscores between them. -/
structure Place where
  before : List Char
  left : Char
  /-- How many underscores stand between the two. -/
  gap : Nat
  right : Char
  after : List Char

namespace Place

/-- The text around a place. -/
def text (p : Place) : List Char :=
  p.before ++ p.left :: (List.replicate p.gap '_' ++ p.right :: p.after)

/-- The place is that behind the first `k` characters of a text, underscores not counted. -/
structure IsAt (p : Place) (text : List Char) (k : Nat) : Prop where
  text : p.text = text
  left : p.left ≠ '_'
  right : p.right ≠ '_'
  count : (bare p.before).length + 1 = k

/-- **The rules**: a word ends at an underscore, before a capital behind a small letter or number,
and before the last capital of a run that goes on in small letters, unless this is `IDs`. -/
def EndsWord (p : Place) : Prop :=
  0 < p.gap ∨
  ((isLowercase p.left = true ∨ isNumber p.left = true) ∧ isUppercase p.right = true) ∨
  (isUppercase p.left = true ∧ isUppercase p.right = true ∧
    ∃ e ∈ p.after.head?, isLowercase e = true ∧ ¬ (p.left = 'I' ∧ p.right = 'D' ∧ e = 's'))

end Place

/-- A word ends behind the first `k` characters of a text by one of the rules. -/
def EndsAt (text : List Char) (k : Nat) : Prop :=
  ∃ p : Place, p.IsAt text k ∧ p.EndsWord

theorem bare_cons {c : Char} (hc : c ≠ '_') (text : List Char) :
    bare (c :: text) = c :: bare text :=
  List.filter_cons_of_pos (decide_eq_true hc)

theorem ne_underscore_of_mem_bare {text : List Char} : '_' ∉ bare text := by
  simp [bare]

/-- Behind some underscores stands the first character that counts. -/
theorem exists_of_bare_ne_nil {text : List Char} (h : bare text ≠ []) :
    ∃ gap d after, d ≠ '_' ∧ text = List.replicate gap '_' ++ d :: after := by
  induction text with
  | nil => exact absurd rfl h
  | cons c text ih =>
    by_cases hc : c = '_'
    · subst hc
      obtain ⟨gap, d, after, hd, rfl⟩ := ih h
      exact ⟨gap + 1, d, after, hd, rfl⟩
    · exact ⟨0, c, text, hc, rfl⟩

theorem bare_append_cons_ne_nil {d : Char} (hd : d ≠ '_') (s after : List Char) :
    bare (s ++ d :: after) ≠ [] :=
  List.ne_nil_of_mem (List.mem_filter.2 ⟨List.mem_append_right s List.mem_cons_self,
    decide_eq_true hd⟩)

theorem not_endsAt_nil {k : Nat} : ¬ EndsAt [] k := by
  rintro ⟨p, hp, -⟩
  exact List.append_ne_nil_of_right_ne_nil p.before (List.cons_ne_nil _ _) hp.text

/-- An underscore at the front changes nothing. -/
theorem endsAt_cons_underscore {text : List Char} {k : Nat} :
    EndsAt ('_' :: text) k ↔ EndsAt text k := by
  constructor
  · rintro ⟨⟨before, left, gap, right, after⟩, ⟨htext, hleft, hright, hcount⟩, hends⟩
    cases before with
    | nil => exact absurd (List.cons.inj htext).1 hleft
    | cons b before =>
      obtain ⟨rfl, htail⟩ := List.cons.inj htext
      exact ⟨⟨before, left, gap, right, after⟩, ⟨htail, hleft, hright, hcount⟩, hends⟩
  · rintro ⟨p, ⟨htext, hleft, hright, hcount⟩, hends⟩
    exact ⟨{ p with before := '_' :: p.before }, ⟨congrArg ('_' :: ·) htext, hleft, hright, hcount⟩,
      hends⟩

/-- **A word ends behind the first character, or further on.** -/
theorem endsAt_cons {c : Char} (hc : c ≠ '_') {text : List Char} {k : Nat} :
    EndsAt (c :: text) k ↔
      (k = 1 ∧ ∃ gap d after, d ≠ '_' ∧ text = List.replicate gap '_' ++ d :: after ∧
        (Place.mk [] c gap d after).EndsWord) ∨
      ∃ m, EndsAt text m ∧ k = m + 1 := by
  constructor
  · rintro ⟨⟨before, left, gap, right, after⟩, ⟨htext, hleft, hright, hcount⟩, hends⟩
    cases before with
    | nil =>
      obtain ⟨rfl, rfl⟩ := List.cons.inj htext
      exact Or.inl ⟨hcount.symm, gap, right, after, hright, rfl, hends⟩
    | cons b before =>
      obtain ⟨rfl, htail⟩ := List.cons.inj htext
      refine Or.inr ⟨_, ⟨⟨before, left, gap, right, after⟩, ⟨htail, hleft, hright, rfl⟩, hends⟩, ?_⟩
      rw [← hcount, bare_cons hc, List.length_cons]
  · rintro (⟨rfl, gap, d, after, hd, rfl, hends⟩ | ⟨m, ⟨p, ⟨htext, hleft, hright, hcount⟩, hends⟩, rfl⟩)
    · exact ⟨⟨[], c, gap, d, after⟩, ⟨rfl, hc, hd, rfl⟩, hends⟩
    · refine ⟨{ p with before := c :: p.before }, ⟨congrArg (c :: ·) htext, hleft, hright, ?_⟩, hends⟩
      rw [bare_cons hc, List.length_cons, hcount]

/-! ## The pieces of a body -/

theorem endsWord_cons_iff {c d : Char} {rest : List Char} :
    endsWord c (d :: rest) = true ↔
      ((isLowercase c = true ∨ isNumber c = true) ∧ isUppercase d = true) ∨
      (isUppercase c = true ∧ isUppercase d = true ∧
        ∃ e ∈ rest.head?, isLowercase e = true ∧ ¬ (c = 'I' ∧ d = 'D' ∧ e = 's')) := by
  cases rest with
  | nil => simp [endsWord]
  | cons e rest => simp [endsWord, and_assoc, imp_iff_not_or, or_assoc]

/-- **What ends a word in a segment ends it in the body.**  The segment reaches to the next
underscore, which is no small letter. -/
theorem endsWord_takeWhile_iff {c d : Char} (hd : d ≠ '_') (gap : Nat) (after : List Char) :
    endsWord c ((List.replicate gap '_' ++ d :: after).takeWhile (· ≠ '_')) = true ↔
      (Place.mk [] c gap d after).EndsWord := by
  cases gap with
  | succ gap => exact iff_of_true rfl (Or.inl (Nat.succ_pos gap))
  | zero =>
    have hnext : ∀ P : Char → Prop,
        (∃ e ∈ (after.takeWhile (· ≠ '_')).head?, isLowercase e = true ∧ P e) ↔
          ∃ e ∈ after.head?, isLowercase e = true ∧ P e := by
      intro P
      cases after with
      | nil => exact Iff.rfl
      | cons e after =>
        by_cases he : e = '_'
        · subst he
          have hsmall : ¬ isLowercase '_' = true := by
            rw [isLowercase_of_ascii (by decide)]
            decide
          simp [hsmall]
        · simp [he]
    have htake : (d :: after).takeWhile (· ≠ '_') = d :: after.takeWhile (· ≠ '_') := by
      simp [hd]
    rw [List.replicate_zero, List.nil_append, htake, endsWord_cons_iff, hnext, Place.EndsWord,
      or_iff_right (Nat.lt_irrefl 0)]

/-- The pieces of all segments: an identifier behind its lead, cut by the rules. -/
def bodyPieces (body : List Char) : List Word :=
  (segments body).flatMap pieces

theorem splitOn_underscore_eq (body : List Char) :
    ∃ more, body.splitOn '_' = body.takeWhile (· ≠ '_') :: more := by
  induction body with
  | nil => exact ⟨[], rfl⟩
  | cons c body ih =>
    obtain ⟨more, hmore⟩ := ih
    rw [List.splitOn_cons_eq_if_modifyHead]
    by_cases hc : c = '_'
    · exact ⟨body.splitOn '_', by simp [hc]⟩
    · exact ⟨more, by simp [hc, hmore]⟩

theorem bodyPieces_cons_underscore (body : List Char) :
    bodyPieces ('_' :: body) = bodyPieces body := by
  have hsegments : segments ('_' :: body) = segments body := by
    rw [segments, segments, List.splitOn_cons_eq_if_modifyHead]
    simp
  rw [bodyPieces, hsegments, bodyPieces]

/-- **The first character is a piece by itself, or the beginning of the next one.** -/
theorem bodyPieces_cons {c : Char} (hc : c ≠ '_') (body : List Char) :
    bodyPieces (c :: body) =
      if endsWord c (body.takeWhile (· ≠ '_')) then [c] :: bodyPieces body
      else extendFirst c (bodyPieces body) := by
  obtain ⟨more, hmore⟩ := splitOn_underscore_eq body
  generalize body.takeWhile (· ≠ '_') = first at hmore
  have hsegments : segments (c :: body) = (c :: first) :: more.filter (· ≠ []) := by
    rw [segments, List.splitOn_cons_eq_if_modifyHead, hmore]
    simp [hc]
  have hbody : bodyPieces body = pieces first ++ (more.filter (· ≠ [])).flatMap pieces := by
    rw [bodyPieces, segments, hmore]
    cases first with
    | nil => rfl
    | cons d first => simp
  rw [hbody, bodyPieces, hsegments, List.flatMap_cons, pieces]
  split
  · rfl
  · rename_i hends
    cases first with
    | nil => exact absurd rfl hends
    | cons d first =>
      have hne : pieces (d :: first) ≠ [] := by
        intro hnil
        have hflatten := flatten_pieces (d :: first)
        rw [hnil] at hflatten
        cases hflatten
      obtain ⟨piece, others, hpieces⟩ := List.exists_cons_of_ne_nil hne
      rw [hpieces]
      rfl

theorem flatten_bodyPieces (body : List Char) : (bodyPieces body).flatten = bare body := by
  rw [bodyPieces, flatten_flatMap flatten_pieces, flatten_segments, bare]

theorem ne_nil_of_mem_bodyPieces {body : List Char} : ∀ w ∈ bodyPieces body, w ≠ [] := by
  intro w hw
  obtain ⟨segment, -, hsegment⟩ := List.mem_flatMap.1 hw
  exact ne_nil_of_mem_pieces w hsegment

theorem bodyPieces_ne_nil_iff {body : List Char} : bodyPieces body ≠ [] ↔ bare body ≠ [] := by
  refine not_congr ?_
  rw [← flatten_bodyPieces, List.flatten_eq_nil_iff]
  constructor
  · intro h
    rw [h]
    exact List.forall_mem_nil _
  · intro hall
    exact List.eq_nil_iff_forall_not_mem.2 fun w hw => ne_nil_of_mem_bodyPieces w hw (hall w hw)

/-- **A body is cut where a word ends by one of the rules.** -/
theorem isCut_bodyPieces {body : List Char} {k : Nat} :
    IsCut (bodyPieces body) k ↔ EndsAt body k := by
  induction body generalizing k with
  | nil => exact iff_of_false not_isCut_nil not_endsAt_nil
  | cons c body ih =>
    by_cases hc : c = '_'
    · subst hc
      rw [bodyPieces_cons_underscore, endsAt_cons_underscore, ih]
    · rw [bodyPieces_cons hc, endsAt_cons hc]
      simp only [← ih]
      split
      · rename_i hends
        rw [isCut_cons, bodyPieces_ne_nil_iff, List.length_singleton]
        refine or_congr ?_ ?_
        · constructor
          · rintro ⟨hne, rfl⟩
            obtain ⟨gap, d, after, hd, rfl⟩ := exists_of_bare_ne_nil hne
            exact ⟨rfl, gap, d, after, hd, rfl, (endsWord_takeWhile_iff hd gap after).1 hends⟩
          · rintro ⟨rfl, gap, d, after, hd, rfl, -⟩
            exact ⟨bare_append_cons_ne_nil hd _ after, rfl⟩
        · simp only [Nat.add_comm 1]
      · rename_i hends
        rw [isCut_extendFirst, or_iff_right]
        rintro ⟨-, gap, d, after, hd, rfl, hword⟩
        exact hends ((endsWord_takeWhile_iff hd gap after).2 hword)

/-! ## Two initialisms in one piece -/

/-- Behind the first `m` characters a word falls into two initialisms. -/
def HalvesAt (word : Word) (m : Nat) : Prop :=
  word.take m ∈ initialisms ∧ word.drop m ∈ initialisms

theorem HalvesAt.bounds {word : Word} {m : Nat} (h : HalvesAt word m) :
    2 ≤ m ∧ m + 2 ≤ word.length := by
  have htake := two_le_length_of_mem h.1
  have hdrop := two_le_length_of_mem h.2
  rw [List.length_take] at htake
  rw [List.length_drop] at hdrop
  omega

/-- **A word is cut where it first falls into two initialisms.** -/
theorem initialismCut?_eq_some_iff {word : Word} {m : Nat} :
    initialismCut? word = some m ↔ HalvesAt word m ∧ ∀ i < m, ¬ HalvesAt word i := by
  have hhalves : ∀ i, (initialisms.contains (word.take i) && initialisms.contains (word.drop i)) =
      true ↔ HalvesAt word i := by
    intro i
    rw [Bool.and_eq_true, List.contains_iff_mem, List.contains_iff_mem, HalvesAt]
  rw [initialismCut?, List.find?_range'_eq_some, List.mem_range'_1]
  simp only [Bool.not_eq_true', Bool.eq_false_iff, ne_eq, hhalves]
  constructor
  · rintro ⟨h, -, hfirst⟩
    exact ⟨h, fun i hi hi' => hfirst i hi'.bounds.1 hi hi'⟩
  · rintro ⟨h, hfirst⟩
    obtain ⟨hlow, hhigh⟩ := h.bounds
    exact ⟨h, by omega, fun i _ hi => hfirst i hi⟩

/-- Only a word of capitals and digits is cut. -/
theorem isCut_splitInitialisms {word : Word} {m : Nat} :
    IsCut (splitInitialisms word) m ↔ (∀ c ∈ word, isInitialismChar c = true) ∧
      HalvesAt word m ∧ ∀ i < m, ¬ HalvesAt word i := by
  rw [← initialismCut?_eq_some_iff, ← List.all_eq_true, splitInitialisms]
  split
  · rename_i hall
    rw [hall, eq_self, true_and]
    cases hcut : initialismCut? word with
    | none => exact iff_of_false not_isCut_singleton (Option.some_ne_none m).symm
    | some i =>
      obtain ⟨hlow, hhigh⟩ := (initialismCut?_eq_some_iff.1 hcut).1.bounds
      dsimp only
      rw [isCut_cons, List.length_take, Nat.min_eq_left (by omega), Option.some.injEq]
      simp [not_isCut_singleton, eq_comm]
  · rename_i hall
    exact iff_of_false not_isCut_singleton fun h => hall h.1

/-! ## The whole identifier -/

/-- The characters of a text from number `i` up to number `j`, underscores not counted. -/
def stretch (text : List Char) (i j : Nat) : List Char :=
  ((bare text).take j).drop i

/-- By the rules, a piece reaches from number `i` to number `j`. -/
structure IsPiece (text : List Char) (i j : Nat) : Prop where
  lt : i < j
  start : i = 0 ∨ EndsAt text i
  stop : j = (bare text).length ∨ EndsAt text j
  /-- No word ends inside. -/
  whole : ∀ k, i < k → k < j → ¬ EndsAt text k

/-- What stands between `i` and `j` falls into two initialisms at `k`. -/
def MeetAt (text : List Char) (i k j : Nat) : Prop :=
  stretch text i k ∈ initialisms ∧ stretch text k j ∈ initialisms

/-- **The last rule**: a piece of ASCII capitals and digits is cut where it first falls into two
initialisms. -/
def InitialismsMeetAt (text : List Char) (k : Nat) : Prop :=
  ∃ i j, IsPiece text i j ∧ i < k ∧ k < j ∧ (∀ c ∈ stretch text i j, isInitialismChar c = true) ∧
    MeetAt text i k j ∧ ∀ k', i < k' → k' < k → ¬ MeetAt text i k' j

section Piece

variable {body : List Char} {u v : List Word} {w : Word}

/-- The characters of a piece are found at its place. -/
theorem stretch_of_piece (h : bodyPieces body = u ++ w :: v) {m n : Nat} (hn : n ≤ w.length) :
    stretch body (u.flatten.length + m) (u.flatten.length + n) = (w.take n).drop m := by
  rw [stretch, ← flatten_bodyPieces, h, List.flatten_append, List.flatten_cons,
    List.take_length_add_append, List.drop_length_add_append, List.take_append_of_le_length hn]

theorem stretch_whole (h : bodyPieces body = u ++ w :: v) :
    stretch body u.flatten.length (u.flatten.length + w.length) = w := by
  have hwhole := stretch_of_piece (m := 0) h (Nat.le_refl _)
  rwa [Nat.add_zero, List.drop_zero, List.take_length] at hwhole

theorem meetAt_iff (h : bodyPieces body = u ++ w :: v) {m : Nat} (hm : m ≤ w.length) :
    MeetAt body u.flatten.length (u.flatten.length + m) (u.flatten.length + w.length) ↔
      HalvesAt w m := by
  have htake := stretch_of_piece (m := 0) h hm
  rw [Nat.add_zero, List.drop_zero] at htake
  rw [MeetAt, HalvesAt, htake, stretch_of_piece h (Nat.le_refl _), List.take_length]

/-- **A piece reaches from one end of a word to the next.** -/
theorem isPiece_iff {i j : Nat} :
    IsPiece body i j ↔
      ∃ u w v, bodyPieces body = u ++ w :: v ∧ i = u.flatten.length ∧ j = i + w.length := by
  rw [exists_word_iff ne_nil_of_mem_bodyPieces, flatten_bodyPieces]
  simp only [isCut_bodyPieces]
  exact ⟨fun ⟨hlt, hstart, hstop, hwhole⟩ => ⟨hlt, hstart, hstop, hwhole⟩,
    fun ⟨hlt, hstart, hstop, hwhole⟩ => ⟨hlt, hstart, hstop, hwhole⟩⟩

/-- The last rule cuts the pieces once more. -/
theorem initialismsMeetAt_iff {k : Nat} :
    InitialismsMeetAt body k ↔ ∃ u w v m, bodyPieces body = u ++ w :: v ∧
      IsCut (splitInitialisms w) m ∧ k = u.flatten.length + m := by
  simp only [isCut_splitInitialisms]
  constructor
  · rintro ⟨i, j, hpiece, hlow, hhigh, hall, hmeet, hfirst⟩
    obtain ⟨u, w, v, hbody, rfl, rfl⟩ := isPiece_iff.1 hpiece
    obtain ⟨m, rfl⟩ := Nat.exists_eq_add_of_le (Nat.le_of_lt hlow)
    have hm : m ≤ w.length := by omega
    rw [stretch_whole hbody] at hall
    refine ⟨u, w, v, m, hbody, ⟨hall, (meetAt_iff hbody hm).1 hmeet, fun i hi hhalves => ?_⟩, rfl⟩
    have hpos := hhalves.bounds.1
    exact hfirst (u.flatten.length + i) (by omega) (by omega)
      ((meetAt_iff hbody (by omega)).2 hhalves)
  · rintro ⟨u, w, v, m, hbody, ⟨hall, hhalves, hfirst⟩, rfl⟩
    obtain ⟨hlow, hhigh⟩ := hhalves.bounds
    rw [← stretch_whole hbody] at hall
    refine ⟨u.flatten.length, u.flatten.length + w.length, isPiece_iff.2 ⟨u, w, v, hbody, rfl, rfl⟩,
      by omega, by omega, hall, (meetAt_iff hbody (by omega)).2 hhalves, ?_⟩
    intro k' hlow' hhigh' hmeet
    obtain ⟨i, rfl⟩ := Nat.exists_eq_add_of_le (Nat.le_of_lt hlow')
    exact hfirst i (by omega) ((meetAt_iff hbody (by omega)).1 hmeet)

end Piece

/-- **Where an identifier is cut.**  Its lead is all that stands before its first letter.  The words
are not empty and have no underscores, and joined they are the rest of the identifier without its
underscores.  One of them ends where one of the rules says so, or where two initialisms meet between
two such places. -/
theorem ofIdent_cuts (ident : List Char) :
    ∃ body, ident = (ofIdent ident).lead ++ body ∧
      (∀ c ∈ (ofIdent ident).lead, isAlphabetic c = false) ∧
      (∀ c ∈ body.head?, isAlphabetic c = true) ∧
      (∀ w ∈ (ofIdent ident).words, w ≠ [] ∧ '_' ∉ w) ∧
      (ofIdent ident).words.flatten = bare body ∧
      ∀ k, IsCut (ofIdent ident).words k ↔ EndsAt body k ∨ InitialismsMeetAt body k := by
  refine ⟨ident.dropWhile (!isAlphabetic ·), List.takeWhile_append_dropWhile.symm, fun c hc => ?_,
    fun c hc => ?_, fun w hw => ⟨ne_nil_of_mem_words w hw, fun hmem => ?_⟩, flatten_words ident,
    fun k => ?_⟩
  · simpa using List.mem_takeWhile_imp hc
  · have hhead := List.head?_dropWhile_not (!isAlphabetic ·) ident
    rw [Option.mem_def.1 hc] at hhead
    simpa using hhead
  · have hbare : '_' ∈ (ofIdent ident).words.flatten := List.mem_flatten.2 ⟨w, hw, hmem⟩
    rw [flatten_words] at hbare
    exact ne_underscore_of_mem_bare hbare
  · have hwords : (ofIdent ident).words =
        (bodyPieces (ident.dropWhile (!isAlphabetic ·))).flatMap splitInitialisms :=
      List.flatMap_assoc.symm
    rw [hwords, isCut_flatMap flatten_splitInitialisms ne_nil_of_mem_bodyPieces, isCut_bodyPieces,
      initialismsMeetAt_iff]

end TypedGraphQL.Name
