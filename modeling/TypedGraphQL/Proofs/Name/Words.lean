import TypedGraphQL.Name

/-!
# The words of an identifier

An identifier is split into words in three steps: at underscores, at the ends of words, and between
two initialisms.  None of the steps loses a character other than an underscore or leaves an empty
word behind.

## What is here

* `Name.flatten_pieces`, `Name.flatten_splitInitialisms`, `Name.flatten_segments` — the three steps.
* `Name.ofIdent_append` — the lead and the words.
* `Name.flatten_words` — the words joined are the identifier behind its lead, without underscores.
* `Name.ne_nil_of_mem_words` — no word is empty.
-/

set_option autoImplicit false

namespace TypedGraphQL.Name

open Text

/-! ## The ends of words -/

theorem flatten_extendFirst (c : Char) (words : List Word) :
    (extendFirst c words).flatten = c :: words.flatten := by
  cases words <;> rfl

/-- Cutting a segment loses no character. -/
theorem flatten_pieces (segment : List Char) : (pieces segment).flatten = segment := by
  induction segment with
  | nil => rfl
  | cons c rest ih =>
    rw [pieces]
    split
    · rw [List.flatten_cons, ih]
      rfl
    · rw [flatten_extendFirst, ih]

theorem ne_nil_of_mem_pieces {segment : List Char} : ∀ w ∈ pieces segment, w ≠ [] := by
  induction segment with
  | nil => exact List.forall_mem_nil _
  | cons c rest ih =>
    rw [pieces]
    split
    · exact List.forall_mem_cons.2 ⟨List.cons_ne_nil c [], ih⟩
    · cases hp : pieces rest with
      | nil => exact List.forall_mem_cons.2 ⟨List.cons_ne_nil c [], List.forall_mem_nil _⟩
      | cons piece more =>
        rw [hp] at ih
        exact List.forall_mem_cons.2
          ⟨List.cons_ne_nil c piece, fun w hw => ih w (List.mem_cons_of_mem _ hw)⟩

/-! ## Initialisms -/

/-- A cut lies inside the word. -/
theorem initialismCut?_bounds {word : Word} {i : Nat} (h : initialismCut? word = some i) :
    2 ≤ i ∧ i < word.length := by
  have hmem := List.mem_of_find?_eq_some h
  obtain ⟨k, hk, rfl⟩ := List.mem_range'.1 hmem
  omega

/-- Cutting a word of capitals loses no character. -/
theorem flatten_splitInitialisms (word : Word) : (splitInitialisms word).flatten = word := by
  rw [splitInitialisms]
  split
  · split
    · simp only [List.flatten_cons, List.flatten_nil, List.append_nil, List.take_append_drop]
    · exact List.flatten_singleton
  · exact List.flatten_singleton

theorem ne_nil_of_mem_splitInitialisms {word : Word} (h : word ≠ []) :
    ∀ w ∈ splitInitialisms word, w ≠ [] := by
  have hone : ∀ w ∈ [word], w ≠ [] := List.forall_mem_singleton.2 h
  rw [splitInitialisms]
  split
  · split
    · rename_i i hcut
      obtain ⟨hlow, hhigh⟩ := initialismCut?_bounds hcut
      have htake : word.take i ≠ [] := by
        rw [ne_eq, List.take_eq_nil_iff, not_or]
        exact ⟨by omega, h⟩
      have hdrop : word.drop i ≠ [] := by
        rw [ne_eq, List.drop_eq_nil_iff]
        omega
      exact List.forall_mem_cons.2 ⟨htake, List.forall_mem_singleton.2 hdrop⟩
    · exact hone
  · exact hone

/-! ## Segments -/

/-- Pieces that lose no character can be cut once more. -/
theorem flatten_flatMap {cut : List Char → List Word} (h : ∀ s, (cut s).flatten = s)
    (pieces : List (List Char)) : (pieces.flatMap cut).flatten = pieces.flatten := by
  induction pieces with
  | nil => rfl
  | cons s rest ih => rw [List.flatMap_cons, List.flatten_append, h, ih, List.flatten_cons]

/-- The words of a segment joined are the segment. -/
theorem flatten_segmentWords (segment : List Char) : (segmentWords segment).flatten = segment := by
  rw [segmentWords, flatten_flatMap flatten_splitInitialisms, flatten_pieces]

/-- Splitting at a character loses that character only. -/
theorem flatten_splitOn (a : Char) (body : List Char) :
    (body.splitOn a).flatten = body.filter (· ≠ a) := by
  induction body with
  | nil => rfl
  | cons c rest ih =>
    rw [List.splitOn_cons_eq_if_modifyHead]
    by_cases h : c = a
    · simp [h, ih]
    · obtain ⟨first, more, hsplit⟩ := List.exists_cons_of_ne_nil (List.splitOn_ne_nil a rest)
      rw [hsplit] at ih ⊢
      simpa [h] using ih

theorem flatten_segments (body : List Char) :
    (segments body).flatten = body.filter (· ≠ '_') := by
  rw [segments, ← flatten_splitOn]
  exact List.flatten_filter_ne_nil

/-! ## The whole identifier -/

/-- What stands before the first letter is the lead, and the words are those of what follows. -/
theorem ofIdent_append {lead body : List Char} (hlead : ∀ c ∈ lead, isAlphabetic c = false)
    (hbody : ∀ c ∈ body.head?, isAlphabetic c = true) :
    ofIdent (lead ++ body) = ⟨lead, (segments body).flatMap segmentWords⟩ := by
  have hnone : ∀ c ∈ lead, (!isAlphabetic c) = true := fun c hc => by simp [hlead c hc]
  have htake : body.takeWhile (!isAlphabetic ·) = [] := by
    cases body with
    | nil => rfl
    | cons c body => simp [hbody c rfl]
  have hdrop : body.dropWhile (!isAlphabetic ·) = body := by
    cases body with
    | nil => rfl
    | cons c body => simp [hbody c rfl]
  rw [ofIdent, List.takeWhile_append_of_pos hnone, List.dropWhile_append_of_pos hnone, htake, hdrop,
    List.append_nil]

/-- **The words joined are the identifier behind its lead, without underscores.** -/
theorem flatten_words (ident : List Char) :
    (ofIdent ident).words.flatten = (ident.dropWhile (!isAlphabetic ·)).filter (· ≠ '_') := by
  rw [← flatten_segments]
  exact flatten_flatMap flatten_segmentWords _

/-- **No word is empty.** -/
theorem ne_nil_of_mem_words {ident : List Char} : ∀ w ∈ (ofIdent ident).words, w ≠ [] := by
  intro w hw
  obtain ⟨segment, -, hsegment⟩ := List.mem_flatMap.1 hw
  obtain ⟨piece, hpiece, hword⟩ := List.mem_flatMap.1 hsegment
  exact ne_nil_of_mem_splitInitialisms (ne_nil_of_mem_pieces piece hpiece) w hword

end TypedGraphQL.Name
