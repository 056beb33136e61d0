import TypedGraphQL.Proofs.Name.Spelling

/-!
# Where two spellings lead to the same name

The words found in snake_case are the words themselves.  The words found in MixedCaps are the same
in other capitals, or there are fewer.  The joined name forgets the capitals of a word and has one
capital for every word behind the first, so the names agree in the first case and differ in the
second.

## What is here

* `segments_intercalate`, `ofIdent_of_isAlpha` — the segments of an identifier that is put together.
* `ofIdent_mixedCaps`, `ofIdent_snakeCase` — the words found in the two spellings.
* `capitalize_congr`, `lowerCamel_map_mixed` — the name forgets the capitals of its words.
* `countP_lowerCamel_le`, `countP_lowerCamel_map_word` — how many capitals a name has.
* `lowerCamel_mixedCaps_eq_iff` — when both spellings lead to the same name.
-/

set_option autoImplicit false

namespace TypedGraphQL

open Document Text

namespace Name

/-! ## Segments put together -/

/-- Segments that are joined by underscores are found again. -/
theorem segments_intercalate {l : List (List Char)} (hne : l ≠ [])
    (hl : ∀ s ∈ l, s ≠ [] ∧ '_' ∉ s) : segments (List.intercalate ['_'] l) = l := by
  rw [segments, List.splitOn_intercalate '_' (fun s hs => (hl s hs).2) hne, List.filter_eq_self]
  exact fun s hs => decide_eq_true (hl s hs).1

/-- A text without underscores is one segment. -/
theorem segments_eq_singleton {s : List Char} (hne : s ≠ []) (h : '_' ∉ s) : segments s = [s] := by
  have hone := segments_intercalate (l := [s]) (List.cons_ne_nil _ _)
    (List.forall_mem_singleton.2 ⟨hne, h⟩)
  rwa [List.intercalate_singleton] at hone

/-- An identifier that begins with a letter has no lead. -/
theorem ofIdent_of_isAlpha {s : List Char} {c : Char} (hc : s.head? = some c)
    (halpha : c.isAlpha = true) : ofIdent s = ⟨[], (segments s).flatMap segmentWords⟩ := by
  have hname : isNameChar c = true := by simp [isNameChar, Char.isAlphanum, halpha]
  have hletter : ∀ d ∈ s.head?, isAlphabetic d = true := by
    intro d hd
    obtain rfl : c = d := Option.some.inj (hc.symm.trans hd)
    rw [isAlphabetic_of_ascii (toNat_lt_of_isNameChar hname), halpha]
  exact ofIdent_append (List.forall_mem_nil _) hletter

/-! ## The words of the two spellings -/

section Words

variable {a : Spelling} {ws : List Spelling}

theorem isAlphanum_of_small {c : Char} (h : (c.isLower || c.isDigit) = true) :
    c.isAlphanum = true := by
  rcases Bool.or_eq_true_iff.1 h with h | h
  · simp [Char.isAlphanum, isAlpha_eq, h]
  · simp [Char.isAlphanum, h]

theorem isAlphanum_toUpper_of_small {c : Char} (h : (c.isLower || c.isDigit) = true) :
    c.toUpper.isAlphanum = true :=
  of_isNameChar (P := fun c => (c.isLower || c.isDigit) = true → c.toUpper.isAlphanum = true)
    (by decide) (isNameChar_of_small h) h

theorem isAlphanum_of_mem_mixed (ha : a.IsPlain) : ∀ c ∈ a.mixed, c.isAlphanum = true := by
  have hsmall := ha.small
  rw [Spelling.mixed]
  split
  · intro c hc
    obtain ⟨d, hd, rfl⟩ := List.mem_map.1 hc
    exact isAlphanum_toUpper_of_small (hsmall d hd)
  · split
    · exact List.forall_mem_nil _
    · rename_i c rest hword
      rw [hword, List.forall_mem_cons] at hsmall
      refine List.forall_mem_cons.2 ⟨isAlphanum_toUpper_of_small hsmall.1, fun d hd => ?_⟩
      exact isAlphanum_of_small (hsmall.2 d hd)

/-- MixedCaps has letters and digits only. -/
theorem isAlphanum_of_mem_mixedCaps (h : ∀ w ∈ ws, w.IsPlain) :
    ∀ c ∈ mixedCaps ws, c.isAlphanum = true := by
  intro c hc
  obtain ⟨w, hw, hc⟩ := List.mem_flatMap.1 hc
  exact isAlphanum_of_mem_mixed (h w hw) c hc

theorem mixed_ne_nil (ha : a.IsPlain) : a.mixed ≠ [] := by
  obtain ⟨c, d, rest, hword, -, -⟩ := ha.begins
  rw [Spelling.mixed, hword]
  cases a.inCapitals <;> exact List.cons_ne_nil _ _

/-- MixedCaps is one segment. -/
theorem ofIdent_mixedCaps (hne : ws ≠ []) (h : ∀ w ∈ ws, w.IsPlain) :
    ofIdent (mixedCaps ws) = ⟨[], segmentWords (mixedCaps ws)⟩ := by
  have hall := isAlphanum_of_mem_mixedCaps h
  have hsegments : segments (mixedCaps ws) = [mixedCaps ws] := by
    have hmixed : mixedCaps ws ≠ [] := by
      obtain ⟨a, rest, rfl⟩ := List.exists_cons_of_ne_nil hne
      rw [mixedCaps_cons]
      exact List.append_ne_nil_of_left_ne_nil (mixed_ne_nil (h a List.mem_cons_self)) _
    exact segments_eq_singleton hmixed fun hmem => ne_underscore_of_alphanum (hall _ hmem) rfl
  obtain ⟨a, rest, rfl⟩ := List.exists_cons_of_ne_nil hne
  obtain ⟨c, t, hmixed⟩ := List.exists_cons_of_ne_nil (mixed_ne_nil (h a List.mem_cons_self))
  have hhead : (mixedCaps (a :: rest)).head? = some c := by
    rw [mixedCaps_cons, hmixed]
    rfl
  have hcapital := startsCapital_mixedCaps h c hhead
  rw [ofIdent_of_isAlpha hhead (by rw [isAlpha_eq, hcapital, Bool.true_or]), hsegments,
    List.flatMap_singleton]

/-- A word in small letters is not cut. -/
theorem segmentWords_word (ha : a.IsPlain) : segmentWords a.word = [a.word] := by
  obtain ⟨c, d, rest, hword, hc, -⟩ := ha.begins
  have hsmall := ha.small
  rw [hword, List.forall_mem_cons] at hsmall
  have hpieces : pieces a.word = [a.word] := by
    rw [hword]
    have hwhole := pieces_capitalized (c := c) (List.cons_ne_nil d rest) hsmall.2 startsCapital_nil
    rwa [List.append_nil] at hwhole
  rw [segmentWords, hpieces, List.flatMap_singleton]
  refine splitInitialisms_of_isLower (c := c) ?_ hc
  rw [hword]
  exact List.mem_cons_self

/-- The segments of snake_case are the words. -/
theorem ofIdent_snakeCase (hne : ws ≠ []) (h : ∀ w ∈ ws, w.IsPlain) :
    ofIdent (snakeCase ws) = ⟨[], ws.map (·.word)⟩ := by
  have hsegments : segments (snakeCase ws) = ws.map (·.word) := by
    refine segments_intercalate (List.map_eq_nil_iff.not.2 hne)
      (List.forall_mem_map.2 fun w hw => ?_)
    obtain ⟨c, d, rest, hword, -, -⟩ := (h w hw).begins
    refine ⟨hword ▸ List.cons_ne_nil _ _, fun hmem => ?_⟩
    exact ne_underscore_of_alphanum (isAlphanum_of_small ((h w hw).small _ hmem)) rfl
  have hwords : (ws.map (·.word)).flatMap segmentWords = ws.map (·.word) := by
    rw [List.flatMap_map, List.map_eq_flatMap]
    exact List.flatMap_congr fun w hw => segmentWords_word (h w hw)
  obtain ⟨a, rest, rfl⟩ := List.exists_cons_of_ne_nil hne
  obtain ⟨c, d, t, hword, hc, -⟩ := (h a List.mem_cons_self).begins
  have hhead : (snakeCase (a :: rest)).head? = some c := by
    rw [snakeCase, List.map_cons, hword]
    cases rest <;> rfl
  rw [ofIdent_of_isAlpha hhead (by rw [isAlpha_eq, hc, Bool.or_true]), hsegments, hwords]

end Words

/-! ## The capitals of a name -/

section Capitals

variable {a : Spelling} {ws : List Spelling} {v w : Word} {words : List Word}

/-- **The capitals of a word are forgotten.** -/
theorem capitalize_congr (hv : ∀ c ∈ v, isNameChar c = true) (hw : ∀ c ∈ w, isNameChar c = true)
    (h : lower v = lower w) : capitalize v = capitalize w := by
  have hup : ∀ c, isNameChar c = true → c.toLower.toUpper = c.toUpper := fun c hc =>
    of_isNameChar (P := fun c => c.toLower.toUpper = c.toUpper) (by decide) hc
  rw [lower_of_ascii fun c hc => toNat_lt_of_isNameChar (hv c hc),
    lower_of_ascii fun c hc => toNat_lt_of_isNameChar (hw c hc)] at h
  cases v with
  | nil =>
    cases w with
    | nil => rfl
    | cons d w => cases h
  | cons c v =>
    cases w with
    | nil => cases h
    | cons d w =>
      obtain ⟨hc, hv⟩ := List.forall_mem_cons.1 hv
      obtain ⟨hd, hw⟩ := List.forall_mem_cons.1 hw
      obtain ⟨hhead, htail⟩ := List.cons.inj h
      rw [capitalize, capitalize, upperChar_of_ascii (toNat_lt_of_isNameChar hc),
        upperChar_of_ascii (toNat_lt_of_isNameChar hd), ← hup c hc, ← hup d hd, hhead,
        lower_of_ascii fun c hc => toNat_lt_of_isNameChar (hv c hc),
        lower_of_ascii fun c hc => toNat_lt_of_isNameChar (hw c hc), htail]

theorem isNameChar_of_mem_word (ha : a.IsPlain) : ∀ c ∈ a.word, isNameChar c = true :=
  fun c hc => isNameChar_of_small (ha.small c hc)

theorem isNameChar_of_mem_mixed (ha : a.IsPlain) : ∀ c ∈ a.mixed, isNameChar c = true :=
  fun c hc => Bool.or_eq_true_iff.2 (Or.inr (isAlphanum_of_mem_mixed ha c hc))

theorem lower_word (ha : a.IsPlain) : lower a.word = a.word := by
  rw [lower_of_ascii fun c hc => toNat_lt_of_isNameChar (isNameChar_of_mem_word ha c hc)]
  exact (List.map_congr_left fun c hc =>
    toLower_of_small (isNameChar_of_mem_word ha c hc) (ha.small c hc)).trans (List.map_id _)

theorem lower_mixed (ha : a.IsPlain) : lower a.mixed = a.word := by
  have hback : ∀ c ∈ a.word, c.toUpper.toLower = c := fun c hc =>
    toLower_toUpper (isNameChar_of_mem_word ha c hc) (ha.small c hc)
  have hkeep : ∀ c ∈ a.word, c.toLower = c := fun c hc =>
    toLower_of_small (isNameChar_of_mem_word ha c hc) (ha.small c hc)
  rw [lower_of_ascii fun c hc => toNat_lt_of_isNameChar (isNameChar_of_mem_mixed ha c hc),
    Spelling.mixed]
  split
  · rw [List.map_map]
    exact (List.map_congr_left hback).trans (List.map_id _)
  · obtain ⟨c, d, rest, hword, -, -⟩ := ha.begins
    rw [hword] at hback hkeep ⊢
    obtain ⟨hc, -⟩ := List.forall_mem_cons.1 hback
    obtain ⟨-, hrest⟩ := List.forall_mem_cons.1 hkeep
    dsimp only
    rw [List.map_cons, hc]
    exact congrArg (c :: ·) ((List.map_congr_left hrest).trans (List.map_id _))

/-- **The name forgets how the words were written.** -/
theorem lowerCamel_map_mixed (h : ∀ w ∈ ws, w.IsPlain) :
    Name.lowerCamel ⟨[], ws.map (·.mixed)⟩ = Name.lowerCamel ⟨[], ws.map (·.word)⟩ := by
  cases ws with
  | nil => rfl
  | cons a ws =>
    obtain ⟨ha, hws⟩ := List.forall_mem_cons.1 h
    have hcapitalize : ∀ w ∈ ws, capitalize w.mixed = capitalize w.word := fun w hw =>
      capitalize_congr (isNameChar_of_mem_mixed (hws w hw)) (isNameChar_of_mem_word (hws w hw))
        ((lower_mixed (hws w hw)).trans (lower_word (hws w hw)).symm)
    rw [Name.lowerCamel, Name.lowerCamel, List.map_cons, List.map_cons]
    dsimp only
    rw [lower_mixed ha, lower_word ha, List.flatMap_map, List.flatMap_map,
      List.flatMap_congr hcapitalize]

theorem countP_lower (hw : ∀ c ∈ w, isNameChar c = true) :
    (lower w).countP Char.isUpper = 0 := by
  rw [lower_of_ascii fun c hc => toNat_lt_of_isNameChar (hw c hc), List.countP_eq_zero]
  intro d hd
  obtain ⟨c, hc, rfl⟩ := List.mem_map.1 hd
  exact Bool.eq_false_iff.1 (isUpper_toLower (hw c hc))

/-- A word has no capital behind its first character. -/
theorem countP_capitalize {c : Char} (hw : ∀ d ∈ c :: w, isNameChar d = true) :
    (capitalize (c :: w)).countP Char.isUpper = if c.toUpper.isUpper then 1 else 0 := by
  obtain ⟨hc, hw⟩ := List.forall_mem_cons.1 hw
  rw [capitalize, upperChar_of_ascii (toNat_lt_of_isNameChar hc), List.countP_append,
    countP_lower hw, List.countP_singleton, Nat.add_zero]

/-- The capitals of a name are those of the words behind the first. -/
theorem countP_lowerCamel_cons (hw : ∀ c ∈ w, isNameChar c = true) :
    (Name.lowerCamel ⟨[], w :: words⟩).countP Char.isUpper =
      (words.flatMap capitalize).countP Char.isUpper := by
  rw [Name.lowerCamel]
  dsimp only
  rw [List.nil_append, List.countP_append, countP_lower hw, Nat.zero_add]

theorem countP_flatMap_capitalize_le (h : ∀ w ∈ words, ∀ c ∈ w, isNameChar c = true) :
    (words.flatMap capitalize).countP Char.isUpper ≤ words.length := by
  induction words with
  | nil => exact Nat.le_refl 0
  | cons w words ih =>
    obtain ⟨hw, hwords⟩ := List.forall_mem_cons.1 h
    have hone : (capitalize w).countP Char.isUpper ≤ 1 := by
      cases w with
      | nil => exact Nat.zero_le 1
      | cons c w =>
        rw [countP_capitalize hw]
        split <;> decide
    rw [List.flatMap_cons, List.countP_append, List.length_cons, Nat.add_comm]
    exact Nat.add_le_add (ih hwords) hone

theorem countP_flatMap_capitalize_word (h : ∀ w ∈ ws, w.IsPlain) :
    ((ws.map (·.word)).flatMap capitalize).countP Char.isUpper = ws.length := by
  induction ws with
  | nil => rfl
  | cons a ws ih =>
    obtain ⟨ha, hws⟩ := List.forall_mem_cons.1 h
    have hone : (capitalize a.word).countP Char.isUpper = 1 := by
      obtain ⟨c, d, rest, hword, hc, -⟩ := ha.begins
      have hall := isNameChar_of_mem_word ha
      rw [hword] at hall ⊢
      rw [countP_capitalize hall, isUpper_toUpper hc, if_pos rfl]
    rw [List.map_cons, List.flatMap_cons, List.countP_append, hone, ih hws, List.length_cons,
      Nat.add_comm]

/-- **A name has at most one capital for every word behind the first.** -/
theorem countP_lowerCamel_le (h : ∀ w ∈ words, ∀ c ∈ w, isNameChar c = true) :
    (Name.lowerCamel ⟨[], words⟩).countP Char.isUpper ≤ words.length - 1 := by
  cases words with
  | nil => exact Nat.le_refl 0
  | cons w words =>
    obtain ⟨hw, hwords⟩ := List.forall_mem_cons.1 h
    rw [countP_lowerCamel_cons hw]
    exact countP_flatMap_capitalize_le hwords

/-- The words themselves have one capital each behind the first. -/
theorem countP_lowerCamel_map_word (h : ∀ w ∈ ws, w.IsPlain) :
    (Name.lowerCamel ⟨[], ws.map (·.word)⟩).countP Char.isUpper = ws.length - 1 := by
  cases ws with
  | nil => rfl
  | cons a ws =>
    obtain ⟨ha, hws⟩ := List.forall_mem_cons.1 h
    rw [List.map_cons, countP_lowerCamel_cons (isNameChar_of_mem_word ha)]
    exact countP_flatMap_capitalize_word hws

end Capitals

end Name

/-! ## The names of the two spellings -/

open Name

/-- **The two spellings lead to the same name, but for the exception**: they do unless a word in
capitals that ends in `I` is followed by one that begins with `Ds`. -/
theorem lowerCamel_mixedCaps_eq_iff {ws : List Spelling} (hne : ws ≠ [])
    (h : ∀ w ∈ ws, w.IsPlain) (hrun : NoLongRun ws) :
    lowerCamel (String.ofList (mixedCaps ws)) = lowerCamel (String.ofList (snakeCase ws)) ↔
      ws.IsChain fun a b => ¬ a.Swallows b := by
  obtain ⟨hsame, hfewer⟩ := finds_segmentWords h hrun
  rw [lowerCamel, lowerCamel, String.toList_ofList, String.toList_ofList, String.ofList_inj,
    ofIdent_mixedCaps hne h, ofIdent_snakeCase hne h]
  refine ⟨fun heq => ?_, fun hchain => ?_⟩
  · by_contra hchain
    have hle : ws.length - 1 ≤ (segmentWords (mixedCaps ws)).length - 1 := by
      rw [← countP_lowerCamel_map_word h, ← heq]
      refine countP_lowerCamel_le fun w hw c hc => ?_
      have hmem : c ∈ mixedCaps ws := by
        rw [← flatten_segmentWords (mixedCaps ws)]
        exact List.mem_flatten.2 ⟨w, hw, hc⟩
      exact Bool.or_eq_true_iff.2 (Or.inr (isAlphanum_of_mem_mixedCaps h c hmem))
    have hlt := hfewer hchain
    -- one word alone swallows nothing
    have htwo : 2 ≤ ws.length := by
      by_contra hlen
      cases ws with
      | nil => exact hne rfl
      | cons a ws =>
        cases ws with
        | nil => exact hchain (.singleton a)
        | cons b ws =>
          rw [List.length_cons, List.length_cons] at hlen
          omega
    omega
  · rw [hsame hchain, lowerCamel_map_mixed h]

/-- `HTTPURLServer` is three words, but `UIDsl` is the plural of `UID` and `l`. -/
theorem lowerCamel_httpURLServer_and_uiDsl :
    lowerCamel "HTTPURLServer" = lowerCamel "http_url_server" ∧
      lowerCamel "UIDsl" ≠ lowerCamel "ui_dsl" := by
  have hhttp : Spelling.IsPlain ⟨['h', 't', 't', 'p'], true⟩ :=
    ⟨List.all_eq_true.1 rfl, ⟨_, _, _, rfl, rfl, rfl⟩, by decide +kernel⟩
  have hurl : Spelling.IsPlain ⟨['u', 'r', 'l'], true⟩ :=
    ⟨List.all_eq_true.1 rfl, ⟨_, _, _, rfl, rfl, rfl⟩, by decide +kernel⟩
  have hserver : Spelling.IsPlain ⟨['s', 'e', 'r', 'v', 'e', 'r'], false⟩ :=
    ⟨List.all_eq_true.1 rfl, ⟨_, _, _, rfl, rfl, rfl⟩, by decide⟩
  have hui : Spelling.IsPlain ⟨['u', 'i'], true⟩ :=
    ⟨List.all_eq_true.1 rfl, ⟨_, _, _, rfl, rfl, rfl⟩, by decide +kernel⟩
  have hdsl : Spelling.IsPlain ⟨['d', 's', 'l'], false⟩ :=
    ⟨List.all_eq_true.1 rfl, ⟨_, _, _, rfl, rfl, rfl⟩, by decide⟩
  have hagree := lowerCamel_mixedCaps_eq_iff (List.cons_ne_nil _ _)
    (List.forall_mem_cons.2 ⟨hhttp, List.forall_mem_cons.2 ⟨hurl,
      List.forall_mem_singleton.2 hserver⟩⟩) (by rw [NoLongRun]; decide)
  have hdiffer := lowerCamel_mixedCaps_eq_iff (List.cons_ne_nil _ _)
    (List.forall_mem_cons.2 ⟨hui, List.forall_mem_singleton.2 hdsl⟩) (by rw [NoLongRun]; decide)
  refine ⟨hagree.2 ?_, fun heq => ?_⟩
  · rw [List.isChain_cons_cons, List.isChain_cons_cons]
    refine ⟨fun h => absurd h.2.1 (by decide), fun h => absurd h.2.1 (by decide), .singleton _⟩
  · refine (List.isChain_cons_cons.1 (hdiffer.1 heq)).1 ⟨rfl, by decide, rfl, by decide⟩

end TypedGraphQL
