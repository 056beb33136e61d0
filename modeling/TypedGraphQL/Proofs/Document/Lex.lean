import TypedGraphQL.Document.Token

/-!
# The tokens of a text, piece by piece

A text is put together from pieces, and so are its tokens, with one exception: a name goes on as
long as it can, so what stands behind a name must not begin with a character of names.

## What is here

* `Apart` — the characters begin with one that no name goes on with.
* `Lexes` — the tokens of a piece, whatever stands apart behind it.
* `Lexes.punct`, `Lexes.ignored`, `Lexes.name`, `Lexes.append` — how pieces are put together.
* `Lexes.tokens?_eq` — the tokens of a whole text.
-/

set_option autoImplicit false

namespace TypedGraphQL.Document

variable {c : Char} {s rest : List Char}

/-! ## The first token -/

theorem tokens?_eq (s : List Char) :
    tokens? s =
      match front false s with
      | .empty => some []
      | .bad => none
      | .token t rest => (tokens? rest).map (t :: ·) := by
  rw [tokens?]
  cases front false s <;> rfl

/-- What means nothing is passed over. -/
theorem tokens?_ignored (h : isIgnored c = true) : tokens? (c :: s) = tokens? s := by
  have hfront : front false (c :: s) = front false s := by
    rw [front, if_neg Bool.false_ne_true, if_pos h]
  rw [tokens?_eq, hfront, ← tokens?_eq]

/-- A token is found where something begins that is neither ignored nor a comment. -/
theorem tokens?_of_tokenAt {t : Token} (hi : isIgnored c = false) (hc : c ≠ '#')
    (h : tokenAt? c s = some (t, rest)) : tokens? (c :: s) = (tokens? rest).map (t :: ·) := by
  refine tokens?_of_token ?_
  rw [front, if_neg Bool.false_ne_true, hi, if_neg Bool.false_ne_true, if_neg hc, h]

theorem mem_of_isPunct (h : isPunct c = true) :
    c ∈ ['(', ')', '[', ']', '{', '}', '!', '$', ':', '=', '@', '|', '&'] :=
  List.contains_iff_mem.1 h

/-- A single character with a meaning is a token. -/
theorem tokens?_punct (h : isPunct c = true) :
    tokens? (c :: s) = (tokens? s).map (.punct c :: ·) := by
  have hplain : ∀ d ∈ ['(', ')', '[', ']', '{', '}', '!', '$', ':', '=', '@', '|', '&'],
      isIgnored d = false ∧ d ≠ '#' := by simp [isIgnored]
  obtain ⟨hi, hc⟩ := hplain c (mem_of_isPunct h)
  exact tokens?_of_tokenAt hi hc (if_pos h)

/-! ## Names -/

theorem isPunct_of_isNameChar (h : isNameChar c = true) : isPunct c = false := by
  refine Bool.eq_false_iff.2 fun hp => ?_
  have hnone : ∀ d ∈ ['(', ')', '[', ']', '{', '}', '!', '$', ':', '=', '@', '|', '&'],
      isNameChar d = false := by simp [isNameChar]
  rw [hnone c (mem_of_isPunct hp)] at h
  exact Bool.false_ne_true h

theorem isIgnored_of_isNameChar (h : isNameChar c = true) : isIgnored c = false := by
  refine Bool.eq_false_iff.2 fun hi => ?_
  simp only [isIgnored, Bool.or_eq_true, beq_iff_eq] at hi
  rcases hi with ((((rfl | rfl) | rfl) | rfl) | rfl) | rfl <;> exact absurd h (by decide)

theorem ne_hash_of_isNameChar (h : isNameChar c = true) : c ≠ '#' := by
  rintro rfl
  exact absurd h (by decide)

/-- The characters begin with one that no name goes on with. -/
def Apart (s : List Char) : Prop :=
  ∃ c t, s = c :: t ∧ isNameChar c = false

theorem apart_cons (h : isNameChar c = false) (s : List Char) : Apart (c :: s) :=
  ⟨c, s, rfl, h⟩

theorem Apart.append (h : Apart s) (t : List Char) : Apart (s ++ t) := by
  obtain ⟨c, u, rfl, hc⟩ := h
  exact apart_cons hc (u ++ t)

/-- Nothing goes on with a name. -/
def EndsName (s : List Char) : Prop :=
  s = [] ∨ Apart s

/-- Behind its characters a name ends. -/
theorem span_name {n : List Char} (hn : ∀ d ∈ n, isNameChar d = true) (h : EndsName rest) :
    (n ++ rest).takeWhile isNameChar = n ∧ (n ++ rest).dropWhile isNameChar = rest := by
  rw [List.takeWhile_append_of_pos hn, List.dropWhile_append_of_pos hn]
  rcases h with rfl | ⟨c, t, rfl, hc⟩
  · exact ⟨List.append_nil n, rfl⟩
  · have hstop : ¬ isNameChar c = true := by rw [hc]; exact Bool.false_ne_true
    rw [List.takeWhile_cons_of_neg hstop, List.dropWhile_cons_of_neg hstop, List.append_nil]
    exact ⟨rfl, rfl⟩

/-- A name is a token. -/
theorem tokens?_name {n : List Char} (hn : isNameChars n = true) (h : EndsName rest) :
    tokens? (n ++ rest) = (tokens? rest).map (.name (String.ofList n) :: ·) := by
  cases n with
  | nil => cases hn
  | cons c n =>
    obtain ⟨hstart, hall⟩ := isNameChars_cons.1 hn
    have hc := isNameChar_of_isNameStart hstart
    obtain ⟨htake, hdrop⟩ := span_name hall h
    have htoken : tokenAt? c (n ++ rest) =
        some (.name (String.ofList (c :: (n ++ rest).takeWhile isNameChar)),
          (n ++ rest).dropWhile isNameChar) := by
      refine (if_neg ?_).trans (if_pos hstart)
      rw [isPunct_of_isNameChar hc]
      exact Bool.false_ne_true
    rw [htake, hdrop] at htoken
    exact tokens?_of_tokenAt (isIgnored_of_isNameChar hc) (ne_hash_of_isNameChar hc) htoken

/-! ## Pieces of text -/

/-- The tokens of a piece of text, whatever stands apart behind it. -/
def Lexes (s : List Char) (ts : List Token) : Prop :=
  ∀ rest, EndsName rest → tokens? (s ++ rest) = (tokens? rest).map (ts ++ ·)

namespace Lexes

variable {ts us : List Token} {t : List Char}

theorem nil : Lexes [] [] := by
  intro rest _
  rw [List.nil_append]
  cases tokens? rest <;> rfl

theorem punct (hc : isPunct c = true) (h : Lexes s ts) : Lexes (c :: s) (.punct c :: ts) := by
  intro rest hrest
  rw [List.cons_append, tokens?_punct hc, h rest hrest, Option.map_map]
  rfl

/-- A single character with a meaning is a piece of its own. -/
theorem single (hc : isPunct c = true) : Lexes [c] [.punct c] :=
  nil.punct hc

theorem ignored (hc : isIgnored c = true) (h : Lexes s ts) : Lexes (c :: s) ts := by
  intro rest hrest
  rw [List.cons_append, tokens?_ignored hc, h rest hrest]

/-- A name is spelled as a name. -/
theorem name {name : String} (h : isName name = true) : Lexes name.toList [.name name] := by
  intro rest hrest
  have htokens := tokens?_name h hrest
  rwa [String.ofList_toList] at htokens

/-- What stands apart has its own tokens. -/
theorem append (h : Lexes s ts) (ht : Apart t) (h' : Lexes t us) : Lexes (s ++ t) (ts ++ us) := by
  intro rest hrest
  rw [List.append_assoc, h (t ++ rest) (Or.inr (ht.append rest)), h' rest hrest, Option.map_map]
  refine congrArg (fun f => Option.map f (tokens? rest)) (funext fun rest => ?_)
  exact (List.append_assoc ts us rest).symm

/-- The tokens of a whole text. -/
theorem tokens?_eq (h : Lexes s ts) : tokens? s = some ts := by
  have htext := h [] (Or.inl rfl)
  rw [List.append_nil, tokens?_of_empty (s := []) rfl] at htext
  rw [htext, Option.map_some, List.append_nil]

end Lexes

end TypedGraphQL.Document
