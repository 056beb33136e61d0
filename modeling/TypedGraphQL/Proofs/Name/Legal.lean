import TypedGraphQL.Document.Name
import TypedGraphQL.Proofs.Name.Words

/-!
# Names that a document accepts

An identifier of letters, digits and underscores that does not begin with a digit is a name of a
document.  This file shows that its lowerCamelCase form is one too: the case of a letter is changed
within ASCII, underscores are left out, and what comes first stays a letter or underscore.

## What is here

* `isNameChar_toLower`, `isNameChar_toUpper` — a change of case keeps the characters of names.
* `Name.forall_mem_lowerCamel` — what the characters of joined words are like.
* `Name.isNameChar_of_mem_lowerCamel`, `Name.exists_lowerCamel_eq_cons` — all characters of the
  joined name, and the first.
* `isName_lowerCamel` — the joined name is a name.
-/

set_option autoImplicit false

namespace TypedGraphQL

open Document Text

/-! ## Characters of names -/

theorem isAlpha_eq (c : Char) : c.isAlpha = (c.isUpper || c.isLower) := rfl

/-- Names are made of an underscore, letters of either case and digits. -/
theorem isNameChar_eq (c : Char) :
    isNameChar c = (c == '_' || (c.isUpper || c.isLower || c.isDigit)) := rfl

theorem toNat_lt_of_isNameChar {c : Char} (h : isNameChar c = true) : c.toNat < 128 := by
  have hbelow : ∀ greatest : Char, greatest.toNat < 128 → c.val ≤ greatest.val → c.toNat < 128 :=
    fun _ hlt hle => Nat.lt_of_le_of_lt (UInt32.le_iff_toNat_le.1 hle) hlt
  rw [isNameChar_eq, Bool.or_eq_true, Bool.or_eq_true, Bool.or_eq_true] at h
  rcases h with h | (h | h) | h
  · rw [beq_iff_eq.1 h]
    decide
  · have hrange : 'A'.val ≤ c.val ∧ c.val ≤ 'Z'.val := of_decide_eq_true h
    exact hbelow 'Z' (by decide) hrange.2
  · exact hbelow 'z' (by decide) (of_decide_eq_true (Bool.and_eq_true_iff.1 h).2)
  · exact hbelow '9' (by decide) (of_decide_eq_true (Bool.and_eq_true_iff.1 h).2)

/-- What holds of the ASCII characters holds of the characters of names. -/
theorem of_isNameChar {P : Char → Prop} (h : ∀ n < 128, P (Char.ofNat n)) {c : Char}
    (hc : isNameChar c = true) : P c := by
  have hP := h c.toNat (toNat_lt_of_isNameChar hc)
  rwa [Char.ofNat_toNat] at hP

theorem isNameChar_toLower {c : Char} (h : isNameChar c = true) : isNameChar c.toLower = true :=
  of_isNameChar (P := fun c => isNameChar c = true → isNameChar c.toLower = true)
    (by decide) h h

theorem isNameChar_toUpper {c : Char} (h : isNameChar c = true) : isNameChar c.toUpper = true :=
  of_isNameChar (P := fun c => isNameChar c = true → isNameChar c.toUpper = true)
    (by decide) h h

theorem isNameStart_toLower {c : Char} (hc : isNameChar c = true) (h : c.isAlpha = true) :
    isNameStart c.toLower = true :=
  of_isNameChar (P := fun c => c.isAlpha = true → isNameStart c.toLower = true)
    (by decide) hc h

/-- A name is its first character and others. -/
theorem isNameChars_iff {s : List Char} :
    isNameChars s = true ↔ (∃ c t, s = c :: t ∧ isNameStart c = true) ∧
      ∀ c ∈ s, isNameChar c = true := by
  cases s with
  | nil => exact ⟨nofun, fun ⟨⟨_, _, h, _⟩, _⟩ => nomatch h⟩
  | cons c t =>
    rw [isNameChars_cons, List.forall_mem_cons]
    constructor
    · rintro ⟨hc, ht⟩
      exact ⟨⟨c, t, rfl, hc⟩, isNameChar_of_isNameStart hc, ht⟩
    · rintro ⟨⟨_, _, heq, hc⟩, -, ht⟩
      cases heq
      exact ⟨hc, ht⟩

namespace Name

/-! ## Words that are joined -/

section Words

variable {P : Char → Prop} {w : Word} {words : List Word}

theorem forall_mem_lower (hw : ∀ c ∈ w, isNameChar c = true) (h : ∀ c ∈ w, P c.toLower) :
    ∀ c ∈ lower w, P c := by
  rw [lower_of_ascii fun c hc => toNat_lt_of_isNameChar (hw c hc)]
  exact List.forall_mem_map.2 h

theorem forall_mem_capitalize (hw : ∀ c ∈ w, isNameChar c = true) (hlower : ∀ c ∈ w, P c.toLower)
    (hupper : ∀ c ∈ w, P c.toUpper) : ∀ c ∈ capitalize w, P c := by
  cases w with
  | nil => exact List.forall_mem_nil _
  | cons c w =>
    obtain ⟨hc, hw⟩ := List.forall_mem_cons.1 hw
    obtain ⟨-, hlower⟩ := List.forall_mem_cons.1 hlower
    rw [capitalize, upperChar_of_ascii (toNat_lt_of_isNameChar hc)]
    exact List.forall_mem_cons.2 ⟨hupper c List.mem_cons_self, forall_mem_lower hw hlower⟩

theorem lowerCamel_cons (w : Word) (words : List Word) :
    Name.lowerCamel ⟨[], w :: words⟩ = lower w ++ words.flatMap capitalize := rfl

/-- The lead stays in front. -/
theorem lowerCamel_eq_append (n : Name) :
    n.lowerCamel = n.lead ++ Name.lowerCamel ⟨[], n.words⟩ := by
  obtain ⟨lead, words⟩ := n
  cases words with
  | nil => exact (List.append_nil lead).symm
  | cons w words => exact List.append_assoc lead (lower w) (words.flatMap capitalize)

/-- What holds of the characters of words in both cases holds of the characters they are joined
to. -/
theorem forall_mem_lowerCamel (hwords : ∀ w ∈ words, ∀ c ∈ w, isNameChar c = true)
    (hlower : ∀ w ∈ words, ∀ c ∈ w, P c.toLower) (hupper : ∀ w ∈ words, ∀ c ∈ w, P c.toUpper) :
    ∀ c ∈ Name.lowerCamel ⟨[], words⟩, P c := by
  cases words with
  | nil => exact List.forall_mem_nil _
  | cons w words =>
    rw [lowerCamel_cons]
    intro c hc
    rcases List.mem_append.1 hc with hc | hc
    · exact forall_mem_lower (hwords w List.mem_cons_self) (hlower w List.mem_cons_self) c hc
    · obtain ⟨v, hv, hc⟩ := List.mem_flatMap.1 hc
      have hmem := List.mem_cons_of_mem w hv
      exact forall_mem_capitalize (hwords v hmem) (hlower v hmem) (hupper v hmem) c hc

end Words

/-! ## The joined name -/

section Joined

variable {ident : List Char} (h : ∀ c ∈ ident, isNameChar c = true)
include h

theorem isNameChar_of_mem_words {w : Word} (hw : w ∈ (ofIdent ident).words) :
    ∀ c ∈ w, isNameChar c = true := by
  intro c hc
  have hmem : c ∈ (ofIdent ident).words.flatten := List.mem_flatten.2 ⟨w, hw, hc⟩
  rw [flatten_words] at hmem
  exact h c ((List.dropWhile_sublist _).mem (List.mem_filter.1 hmem).1)

/-- **The joined name has characters of names only.** -/
theorem isNameChar_of_mem_lowerCamel : ∀ c ∈ (ofIdent ident).lowerCamel, isNameChar c = true := by
  have hwords : ∀ w ∈ (ofIdent ident).words, ∀ c ∈ w, isNameChar c = true :=
    fun w hw => isNameChar_of_mem_words h hw
  rw [lowerCamel_eq_append]
  intro c hc
  rcases List.mem_append.1 hc with hc | hc
  · exact h c ((List.takeWhile_sublist _).mem hc)
  · exact forall_mem_lowerCamel (P := fun c => isNameChar c = true) hwords
      (fun w hw d hd => isNameChar_toLower (hwords w hw d hd))
      (fun w hw d hd => isNameChar_toUpper (hwords w hw d hd)) c hc

/-- An identifier that begins with a letter has no lead, and its first word begins with it. -/
theorem exists_words_eq_cons {c : Char} {rest : List Char} (hident : ident = c :: rest)
    (hc : c.isAlpha = true) :
    (ofIdent ident).lead = [] ∧ ∃ t more, (ofIdent ident).words = (c :: t) :: more := by
  have hascii := toNat_lt_of_isNameChar (h c (hident ▸ List.mem_cons_self))
  have halpha : ¬ (!isAlphabetic c) = true := by
    rw [isAlphabetic_of_ascii hascii, hc]
    exact Bool.false_ne_true
  have hne : c ≠ '_' := by
    rintro rfl
    exact absurd hc (by decide)
  have hflatten := flatten_words ident
  rw [hident] at hflatten ⊢
  rw [List.dropWhile_cons_of_neg (p := (!isAlphabetic ·)) halpha,
    List.filter_cons_of_pos (by simpa using hne)] at hflatten
  refine ⟨List.takeWhile_cons_of_neg (p := (!isAlphabetic ·)) halpha, ?_⟩
  cases hw : (ofIdent (c :: rest)).words with
  | nil =>
    rw [hw] at hflatten
    cases hflatten
  | cons first more =>
    have hfirst : first ≠ [] := ne_nil_of_mem_words first (hw ▸ List.mem_cons_self)
    obtain ⟨d, t, rfl⟩ := List.exists_cons_of_ne_nil hfirst
    rw [hw, List.flatten_cons, List.cons_append] at hflatten
    rw [(List.cons.inj hflatten).1]
    exact ⟨t, more, rfl⟩

/-- **The joined name begins as a name does.** -/
theorem exists_lowerCamel_eq_cons {c : Char} {rest : List Char} (hident : ident = c :: rest)
    (hc : isNameStart c = true) :
    ∃ d t, (ofIdent ident).lowerCamel = d :: t ∧ isNameStart d = true := by
  have hname := isNameChar_of_isNameStart hc
  by_cases ha : c.isAlpha = true
  · obtain ⟨hlead, t, more, hwords⟩ := exists_words_eq_cons h hident ha
    have hfirst : ∀ d ∈ c :: t, isNameChar d = true :=
      isNameChar_of_mem_words h (hwords ▸ List.mem_cons_self)
    rw [lowerCamel_eq_append, hlead, hwords, List.nil_append, lowerCamel_cons,
      lower_of_ascii fun d hd => toNat_lt_of_isNameChar (hfirst d hd)]
    exact ⟨c.toLower, _, rfl, isNameStart_toLower hname ha⟩
  · -- the character is part of the lead
    have halpha : (!isAlphabetic c) = true := by
      rw [isAlphabetic_of_ascii (toNat_lt_of_isNameChar hname), Bool.eq_false_iff.2 ha]
      rfl
    have hlead : (ofIdent (c :: rest)).lead = c :: rest.takeWhile (!isAlphabetic ·) :=
      List.takeWhile_cons_of_pos (p := (!isAlphabetic ·)) halpha
    rw [hident, lowerCamel_eq_append, hlead]
    exact ⟨c, _, rfl, hc⟩

end Joined

end Name

/-- **The lowerCamelCase form of a name is a name.** -/
theorem isName_lowerCamel {ident : String} (h : isName ident = true) :
    isName (lowerCamel ident) = true := by
  obtain ⟨⟨c, rest, heq, hc⟩, hall⟩ := isNameChars_iff.1 h
  rw [isName, lowerCamel, String.toList_ofList, isNameChars_iff]
  refine ⟨?_, Name.isNameChar_of_mem_lowerCamel hall⟩
  exact Name.exists_lowerCamel_eq_cons hall heq hc

end TypedGraphQL
