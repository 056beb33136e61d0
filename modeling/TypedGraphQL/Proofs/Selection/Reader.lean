import TypedGraphQL.Selection

/-!
# Reading the text of a selection set

The text of a set follows a small grammar: a set is `{`, entries with commas between them, and `}`;
an entry is a text and possibly a set.  A text is any run of characters other than `{`, `}` and `,`.
This file has a reader of that grammar and shows that it undoes `SelectionSet.render`.

## What is here

* `SelectionSet.read?` — the reader.  A text comes back as the name of an entry.
* `SelectionSet.entries` — all entries, those of the sets below included, and `SelectionSet.plain` —
  the tree with every entry taken as one text.
* `Entry.Readable` — the texts that a reader can tell from the marks around them.
* `read?_render` — a set of readable entries comes back from its text.
* `read?_eq_some_iff` — the reader accepts nothing but texts of sets.
-/

set_option autoImplicit false

namespace TypedGraphQL

/-- The character separates or encloses entries. -/
def isMark (c : Char) : Bool :=
  c == '{' || c == '}' || c == ','

/-- The text of the entry is not empty and holds no mark. -/
structure Entry.Readable (e : Entry) : Prop where
  name_ne : e.name ≠ ""
  name : ∀ c ∈ e.name.toList, isMark c = false
  arguments : ∀ c ∈ (e.arguments.getD "").toList, isMark c = false

theorem Entry.readable_iff {e : Entry} :
    e.Readable ↔ e.name ≠ "" ∧ (∀ c ∈ e.name.toList, isMark c = false) ∧
      ∀ c ∈ (e.arguments.getD "").toList, isMark c = false :=
  ⟨fun h => ⟨h.name_ne, h.name, h.arguments⟩, fun h => ⟨h.1, h.2.1, h.2.2⟩⟩

instance (e : Entry) : Decidable e.Readable :=
  have (s : List Char) : Decidable (∀ c ∈ s, isMark c = false) := List.decidableBAll _ s
  decidable_of_iff _ Entry.readable_iff.symm

/-- The entry with its name and arguments taken as one text. -/
def Entry.plain (e : Entry) : Entry := ⟨e.text, none⟩

namespace SelectionSet

/-- All entries of a set and of the sets below it. -/
def entries : SelectionSet → List Entry
  | nil => []
  | leaf e rest => e :: rest.entries
  | branch e children rest => e :: children.entries ++ rest.entries

theorem entries_append (s t : SelectionSet) : (s ++ t).entries = s.entries ++ t.entries := by
  induction s with
  | nil => rfl
  | leaf e rest ih => simp [entries, ih]
  | branch e children rest _ ih => simp [entries, ih]

/-- The tree with every entry taken as one text. -/
def plain : SelectionSet → SelectionSet
  | nil => nil
  | leaf e rest => leaf e.plain rest.plain
  | branch e children rest => branch e.plain children.plain rest.plain

/-! ## The reader -/

/-- Reads a set behind its opening brace, where `entries?` reads one or more entries and the closing
brace. -/
def readSet? (entries? : List Char → Option (SelectionSet × List Char)) :
    List Char → Option (SelectionSet × List Char)
  | '}' :: rest => some (nil, rest)
  | text => entries? text

/-- Reads on behind an entry, which is put in front of the entries after it. -/
def readNext? (entries? : List Char → Option (SelectionSet × List Char))
    (entry : SelectionSet → SelectionSet) : List Char → Option (SelectionSet × List Char)
  | '}' :: rest => some (entry nil, rest)
  | ',' :: rest => (entries? rest).map fun p => (entry p.1, p.2)
  | _ => none

/-- Reads one or more entries and the closing brace.  The number bounds the entries that are read
one after the other or one below the other. -/
def readEntries? : Nat → List Char → Option (SelectionSet × List Char)
  | 0, _ => none
  | n + 1, text =>
    let name := String.ofList (text.takeWhile (!isMark ·))
    if name = "" then none
    else
      match text.dropWhile (!isMark ·) with
      | '{' :: rest =>
        (readSet? (readEntries? n) rest).bind fun p =>
          readNext? (readEntries? n) (branch ⟨name, none⟩ p.1) p.2
      | rest => readNext? (readEntries? n) (leaf ⟨name, none⟩) rest

/-- Reads a set from its whole text. -/
def read? (text : String) : Option SelectionSet :=
  match text.toList with
  | '{' :: rest =>
    match readSet? (readEntries? rest.length) rest with
    | some (s, []) => some s
    | _ => none
  | _ => none

/-! ## Reading what was written -/

/-- A text that is not empty ends at the next mark. -/
theorem span_text {text : List Char} (h : ∀ c ∈ text, isMark c = false) {m : Char}
    (hm : isMark m = true) (rest : List Char) :
    (text ++ m :: rest).takeWhile (!isMark ·) = text ∧
      (text ++ m :: rest).dropWhile (!isMark ·) = m :: rest := by
  have hall : ∀ c ∈ text, (!isMark c) = true := fun c hc => by rw [h c hc]; rfl
  have hstop : ¬ (!isMark m) = true := by rw [hm]; exact Bool.false_ne_true
  rw [List.takeWhile_append_of_pos hall, List.dropWhile_append_of_pos hall,
    List.takeWhile_cons_of_neg (p := (!isMark ·)) hstop,
    List.dropWhile_cons_of_neg (p := (!isMark ·)) hstop, List.append_nil]
  exact ⟨rfl, rfl⟩

end SelectionSet

namespace Entry.Readable

variable {e : Entry}

theorem text_toList (e : Entry) : e.text.toList = e.name.toList ++ (e.arguments.getD "").toList :=
  String.toList_append

theorem text_ne (h : e.Readable) : e.text ≠ "" := by
  intro he
  have hl := congrArg String.toList he
  rw [text_toList, String.toList_empty, List.append_eq_nil_iff] at hl
  exact h.name_ne (String.toList_eq_nil_iff.1 hl.1)

theorem text_length_pos (h : e.Readable) : 0 < e.text.toList.length :=
  List.length_pos_iff.2 fun hl => h.text_ne (String.toList_eq_nil_iff.1 hl)

theorem text (h : e.Readable) : ∀ c ∈ e.text.toList, isMark c = false := by
  intro c hc
  rw [text_toList, List.mem_append] at hc
  exact hc.elim (h.name c) (h.arguments c)

end Entry.Readable

namespace SelectionSet

/-! ### One entry and the mark behind it -/

section Step

variable {e : Entry} (h : e.Readable) (n : Nat) (rest : List Char)
include h

/-- Without a set below it, an entry is followed by a comma or the closing brace. -/
theorem readEntries?_leaf {m : Char} (hm : isMark m = true) (hne : m ≠ '{') :
    readEntries? (n + 1) (e.text.toList ++ m :: rest) =
      readNext? (readEntries? n) (leaf e.plain) (m :: rest) := by
  obtain ⟨htake, hdrop⟩ := span_text h.text hm rest
  rw [readEntries?, htake, hdrop, String.ofList_toList]
  refine (if_neg h.text_ne).trans ?_
  split
  · rename_i heq
    exact absurd (List.cons.inj heq).1 hne
  · rfl

theorem readEntries?_branch :
    readEntries? (n + 1) (e.text.toList ++ '{' :: rest) =
      (readSet? (readEntries? n) rest).bind fun p =>
        readNext? (readEntries? n) (branch e.plain p.1) p.2 := by
  obtain ⟨htake, hdrop⟩ := span_text h.text (m := '{') rfl rest
  rw [readEntries?, htake, hdrop, String.ofList_toList]
  exact if_neg h.text_ne

end Step

/-! ### Whole sets -/

theorem toList_leaf (e : Entry) {rest : SelectionSet} (h : rest ≠ nil) :
    (leaf e rest).entriesText.toList = e.text.toList ++ ',' :: rest.entriesText.toList := by
  rw [entriesText_leaf e h, String.toList_append, String.toList_append, List.append_assoc]
  rfl

theorem toList_branch_nil (e : Entry) (children : SelectionSet) :
    (branch e children nil).entriesText.toList =
      e.text.toList ++ '{' :: (children.entriesText.toList ++ ['}']) := by
  rw [entriesText_branch_nil]
  simp only [String.toList_append, List.append_assoc]
  rfl

theorem toList_branch (e : Entry) (children : SelectionSet) {rest : SelectionSet}
    (h : rest ≠ nil) :
    (branch e children rest).entriesText.toList =
      e.text.toList ++ '{' :: (children.entriesText.toList ++
        '}' :: ',' :: rest.entriesText.toList) := by
  rw [entriesText_branch e children h]
  simp only [String.toList_append, List.append_assoc]
  rfl

/-- Entries begin with a character that is no mark. -/
theorem entriesText_eq_cons {s : SelectionSet} (hs : s ≠ nil) (h : ∀ e ∈ s.entries, e.Readable) :
    ∃ c text, s.entriesText.toList = c :: text ∧ isMark c = false := by
  obtain ⟨e, he, more, htext⟩ :
      ∃ e ∈ s.entries, ∃ more, s.entriesText.toList = e.text.toList ++ more := by
    cases s with
    | nil => exact absurd rfl hs
    | leaf e rest =>
      refine ⟨e, List.mem_cons_self, ?_⟩
      by_cases hr : rest = nil
      · exact ⟨[], by rw [hr, entriesText_leaf_nil, List.append_nil]⟩
      · exact ⟨_, by
          rw [entriesText_leaf e hr, String.append_assoc, String.toList_append]⟩
    | branch e children rest =>
      refine ⟨e, List.mem_cons_self, ?_⟩
      by_cases hr : rest = nil
      · exact ⟨_, by
          rw [hr, entriesText_branch_nil]; simp only [String.append_assoc]
          rw [String.toList_append]⟩
      · exact ⟨_, by
          rw [entriesText_branch e children hr]; simp only [String.append_assoc]
          rw [String.toList_append]⟩
  cases hname : e.text.toList with
  | nil => exact absurd (String.toList_eq_nil_iff.1 hname) (h e he).text_ne
  | cons c text =>
    refine ⟨c, text ++ more, by rw [htext, hname, List.cons_append], (h e he).text c ?_⟩
    rw [hname]
    exact List.mem_cons_self

/-- A set is read back if its entries are. -/
theorem readSet?_entriesText {s : SelectionSet} (h : ∀ e ∈ s.entries, e.Readable)
    {entries? : List Char → Option (SelectionSet × List Char)} {rest : List Char}
    (hread : s ≠ nil → entries? (s.entriesText.toList ++ '}' :: rest) = some (s.plain, rest)) :
    readSet? entries? (s.entriesText.toList ++ '}' :: rest) = some (s.plain, rest) := by
  by_cases hs : s = nil
  · subst hs
    rfl
  · obtain ⟨c, text, htext, hc⟩ := entriesText_eq_cons hs h
    have hne : c ≠ '}' := by
      rintro rfl
      exact absurd hc (by decide)
    rw [← hread hs, htext, List.cons_append, readSet?]
    exact fun _ heq => hne (List.cons.inj heq).1

/-- **Entries that were written are read back**, with whatever follows their set left over. -/
theorem readEntries?_entriesText {s : SelectionSet} (hs : s ≠ nil)
    (h : ∀ e ∈ s.entries, e.Readable) {n : Nat} (hn : s.entriesText.toList.length ≤ n)
    (rest : List Char) :
    readEntries? n (s.entriesText.toList ++ '}' :: rest) = some (s.plain, rest) := by
  induction s generalizing n rest with
  | nil => exact absurd rfl hs
  | leaf e more ih =>
    have he : e.Readable := h e List.mem_cons_self
    have hmore : ∀ e ∈ more.entries, e.Readable := fun e he => h e (List.mem_cons_of_mem _ he)
    have hpos := he.text_length_pos
    by_cases hm : more = nil
    · subst hm
      rw [entriesText_leaf_nil] at hn ⊢
      obtain ⟨n, rfl⟩ := Nat.exists_eq_add_of_le' (show 1 ≤ n by omega)
      rw [readEntries?_leaf he n rest rfl (by decide)]
      rfl
    · rw [toList_leaf e hm, List.length_append, List.length_cons] at hn
      obtain ⟨n, rfl⟩ := Nat.exists_eq_add_of_le' (show 1 ≤ n by omega)
      rw [toList_leaf e hm, List.append_assoc, List.cons_append,
        readEntries?_leaf he n _ rfl (by decide), readNext?, ih hm hmore (by omega)]
      rfl
  | branch e children more ihc ih =>
    have he : e.Readable := h e List.mem_cons_self
    have hchildren : ∀ e ∈ children.entries, e.Readable := fun e he =>
      h e (List.mem_cons_of_mem _ (List.mem_append_left _ he))
    have hmore : ∀ e ∈ more.entries, e.Readable := fun e he =>
      h e (List.mem_cons_of_mem _ (List.mem_append_right _ he))
    have hpos := he.text_length_pos
    by_cases hm : more = nil
    · subst hm
      rw [toList_branch_nil, List.length_append, List.length_cons, List.length_append] at hn
      obtain ⟨n, rfl⟩ := Nat.exists_eq_add_of_le' (show 1 ≤ n by omega)
      rw [toList_branch_nil, List.append_assoc, List.cons_append, List.append_assoc,
        readEntries?_branch he, List.singleton_append,
        readSet?_entriesText hchildren fun hc => ihc hc hchildren (by omega) _]
      rfl
    · rw [toList_branch e children hm] at hn
      simp only [List.length_append, List.length_cons] at hn
      obtain ⟨n, rfl⟩ := Nat.exists_eq_add_of_le' (show 1 ≤ n by omega)
      rw [toList_branch e children hm, List.append_assoc, List.cons_append, List.append_assoc,
        List.cons_append, List.cons_append, readEntries?_branch he,
        readSet?_entriesText hchildren fun hc => ihc hc hchildren (by omega) _, Option.bind_some,
        readNext?, ih hm hmore (by omega)]
      rfl

theorem toList_render (s : SelectionSet) :
    s.render.toList = '{' :: (s.entriesText.toList ++ ['}']) := by
  rw [render, String.toList_append, String.toList_append]
  rfl

/-- **A set of readable entries comes back from its text**, with every entry as one text. -/
theorem read?_render {s : SelectionSet} (h : ∀ e ∈ s.entries, e.Readable) :
    read? s.render = some s.plain := by
  have hread := readSet?_entriesText h fun hs => readEntries?_entriesText hs h
    (n := (s.entriesText.toList ++ ['}']).length)
    (by rw [List.length_append]; exact Nat.le_add_right _ _) []
  rw [read?, toList_render]
  simp only [hread]

example : read? "{name,posts(first:1){title}}" =
    some (leaf ⟨"name", none⟩
      (branch ⟨"posts(first:1)", none⟩ (leaf ⟨"title", none⟩ nil) nil)) := by
  decide

/-! ## What the reader accepts -/

/-- The set is one that a reader can return: every entry is a text of its own. -/
def IsPlain (s : SelectionSet) : Prop :=
  ∀ e ∈ s.entries, e.Readable ∧ e.arguments = none

theorem isPlain_nil : IsPlain nil := fun _ he => absurd he List.not_mem_nil

theorem isPlain_leaf_iff {e : Entry} {rest : SelectionSet} :
    IsPlain (leaf e rest) ↔ (e.Readable ∧ e.arguments = none) ∧ rest.IsPlain :=
  List.forall_mem_cons

theorem isPlain_branch_iff {e : Entry} {children rest : SelectionSet} :
    IsPlain (branch e children rest) ↔
      (e.Readable ∧ e.arguments = none) ∧ children.IsPlain ∧ rest.IsPlain := by
  rw [IsPlain, entries, List.cons_append, List.forall_mem_cons, List.forall_mem_append]
  exact Iff.rfl

theorem IsPlain.plain_eq {s : SelectionSet} (h : s.IsPlain) : s.plain = s := by
  have hplain : ∀ {e : Entry}, e.arguments = none → e.plain = e := by
    rintro ⟨name, arguments⟩ rfl
    exact congrArg (Entry.mk · none) String.append_empty
  induction s with
  | nil => rfl
  | leaf e rest ih =>
    obtain ⟨he, hrest⟩ := isPlain_leaf_iff.1 h
    rw [plain, hplain he.2, ih hrest]
  | branch e children rest ihc ih =>
    obtain ⟨he, hc, hrest⟩ := isPlain_branch_iff.1 h
    rw [plain, hplain he.2, ihc hc, ih hrest]

theorem eq_of_readNext? {entries? : List Char → Option (SelectionSet × List Char)}
    {entry : SelectionSet → SelectionSet} {text rest : List Char} {s : SelectionSet}
    (h : readNext? entries? entry text = some (s, rest)) :
    (text = '}' :: rest ∧ s = entry nil) ∨
      ∃ tail more, text = ',' :: tail ∧ entries? tail = some (more, rest) ∧ s = entry more := by
  unfold readNext? at h
  split at h
  · cases h
    exact Or.inl ⟨rfl, rfl⟩
  · rename_i tail
    obtain ⟨⟨more, rest'⟩, hmore, heq⟩ := Option.map_eq_some_iff.1 h
    cases heq
    exact Or.inr ⟨tail, more, rfl, hmore, rfl⟩
  · cases h

/-- What was read as a set, if this holds for what was read as entries. -/
theorem toList_of_readSet? {entries? : List Char → Option (SelectionSet × List Char)}
    (hentries : ∀ {text rest : List Char} {s : SelectionSet}, entries? text = some (s, rest) →
      s ≠ nil ∧ s.IsPlain ∧ text = s.entriesText.toList ++ '}' :: rest)
    {text rest : List Char} {s : SelectionSet} (h : readSet? entries? text = some (s, rest)) :
    s.IsPlain ∧ text = s.entriesText.toList ++ '}' :: rest := by
  unfold readSet? at h
  split at h
  · cases h
    exact ⟨isPlain_nil, rfl⟩
  · exact (hentries h).2

/-- **What was read as entries is the text of these entries.** -/
theorem toList_of_readEntries? {n : Nat} {text rest : List Char} {s : SelectionSet}
    (h : readEntries? n text = some (s, rest)) :
    s ≠ nil ∧ s.IsPlain ∧ text = s.entriesText.toList ++ '}' :: rest := by
  induction n generalizing text rest s with
  | zero => cases h
  | succ n ih =>
    have hspan := List.takeWhile_append_dropWhile (p := (!isMark ·)) (l := text)
    have hall : ∀ c ∈ text.takeWhile (!isMark ·), isMark c = false := fun c hc => by
      have hc' := List.all_eq_true.1 List.all_takeWhile c hc
      rwa [Bool.not_eq_true'] at hc'
    rw [readEntries?] at h
    generalize text.takeWhile (!isMark ·) = name at h hspan hall
    generalize text.dropWhile (!isMark ·) = behind at h hspan
    split at h
    · cases h
    rename_i hname
    have he : (Entry.mk (String.ofList name) none).Readable :=
      ⟨hname, fun c hc => hall c (by rwa [String.toList_ofList] at hc), nofun⟩
    have htext : (Entry.mk (String.ofList name) none).text.toList = name := by
      rw [Entry.Readable.text_toList, String.toList_ofList]
      exact List.append_nil name
    rw [← hspan]
    split at h
    · -- a set stands below the entry
      rename_i tail
      obtain ⟨⟨children, behind⟩, hc, hnext⟩ := Option.bind_eq_some_iff.1 h
      obtain ⟨hplain, rfl⟩ := toList_of_readSet? ih hc
      rcases eq_of_readNext? hnext with ⟨rfl, rfl⟩ | ⟨tail, more, rfl, hmore, rfl⟩
      · refine ⟨nofun, isPlain_branch_iff.2 ⟨⟨he, rfl⟩, hplain, isPlain_nil⟩, ?_⟩
        rw [toList_branch_nil, htext]
        simp only [List.append_assoc, List.cons_append, List.nil_append]
      · obtain ⟨hne, hplain', rfl⟩ := ih hmore
        refine ⟨nofun, isPlain_branch_iff.2 ⟨⟨he, rfl⟩, hplain, hplain'⟩, ?_⟩
        rw [toList_branch _ _ hne, htext]
        simp only [List.append_assoc, List.cons_append]
    · rcases eq_of_readNext? h with ⟨rfl, rfl⟩ | ⟨tail, more, rfl, hmore, rfl⟩
      · refine ⟨nofun, isPlain_leaf_iff.2 ⟨⟨he, rfl⟩, isPlain_nil⟩, ?_⟩
        rw [entriesText_leaf_nil, htext]
      · obtain ⟨hne, hplain, rfl⟩ := ih hmore
        refine ⟨nofun, isPlain_leaf_iff.2 ⟨⟨he, rfl⟩, hplain⟩, ?_⟩
        rw [toList_leaf _ hne, htext]
        simp only [List.append_assoc, List.cons_append]

/-- **The reader accepts exactly the texts of sets**, each as the one set it is the text of. -/
theorem read?_eq_some_iff {text : String} {s : SelectionSet} :
    read? text = some s ↔ s.IsPlain ∧ s.render = text := by
  constructor
  · intro h
    unfold read? at h
    split at h
    · rename_i rest htext
      split at h
      · rename_i hread
        cases h
        obtain ⟨hplain, hrest⟩ := toList_of_readSet? toList_of_readEntries? hread
        refine ⟨hplain, String.toList_inj.1 ?_⟩
        rw [toList_render, htext, hrest]
      · cases h
    · cases h
  · rintro ⟨hplain, rfl⟩
    rw [read?_render fun e he => (hplain e he).1, hplain.plain_eq]

end SelectionSet

end TypedGraphQL
