import TypedGraphQL.Proofs.Operation.Arranged

/-!
# The parts of an operation, read from its text

An operation is put together from a keyword, a name, a header and a body, and nothing but a few
characters tells where one part ends.  This file reads the parts back.  Its reader knows nothing of
types or selections: it looks for the end of a word, for the brackets around the header, and in the
header for every `$` and the first `:` behind it.

`TypedGraphQL.Document.parse` reads the same text by the grammar of documents and refuses much of
what can be compiled, such as a header with a doubled `!`.  The reader here does not.

## What is here

* `declaredIn?` — the variables that are declared in a header, with their signatures.
* `OperationParts` — the parts of an operation; `OperationParts.read?` reads them.
* `read?_construct` — the parts come back from the text.
* `readHeader?_declarations` — the declarations come back from the header.
-/

set_option autoImplicit false

namespace TypedGraphQL

open Document

/-! ## The reader -/

/-- The parts of an operation as they stand in its text. -/
structure OperationParts where
  /-- What the keyword says, if there is one. -/
  kind : Option OperationKind
  /-- The name, which may be empty. -/
  name : String
  /-- What stands between the brackets of the header, if there is one. -/
  header : Option String
  body : String
  deriving DecidableEq, Repr

/-- A variable and its signature, from what follows the `$`. -/
def readDeclaration? (piece : List Char) : Option (String × String) :=
  match piece.dropWhile (· != ':') with
  | _ :: signature => some (.ofList (piece.takeWhile (· != ':')), .ofList signature)
  | [] => none

/-- The variables of a header and their signatures.  Nothing may stand before the first `$`. -/
def readHeader? (header : String) : Option (List (String × String)) :=
  match header.toList.splitOn '$' with
  | [] :: pieces => pieces.mapM readDeclaration?
  | _ => none

/-- The variables that an operation declares, in the order of its header.  Without a header there
are none. -/
def declaredIn? : Option String → Option (List (String × String))
  | none => some []
  | some header => readHeader? header

namespace OperationParts

/-- What is left behind a blank, if there is one. -/
def skipBlank : List Char → List Char
  | ' ' :: s => s
  | s => s

/-- The parts behind the name: a header in brackets, or else the body. -/
def readEnd? (kind : OperationKind) (name : String) : List Char → Option OperationParts
  | '(' :: s =>
    match s.dropWhile (· != ')') with
    | _ :: body => some ⟨some kind, name, some (.ofList (s.takeWhile (· != ')'))), .ofList body⟩
    | [] => none
  | body => some ⟨some kind, name, none, .ofList body⟩

/-- The parts behind the keyword. -/
def readTail? (kind : OperationKind) (s : List Char) : Option OperationParts :=
  readEnd? kind (.ofList (s.takeWhile isNameChar)) (s.dropWhile isNameChar)

/-- Reads the parts of an operation.  A text that begins with a brace is a body alone. -/
def read? (text : String) : Option OperationParts :=
  match text.toList with
  | '{' :: _ => some ⟨none, "", none, text⟩
  | s => do
    let kind ← OperationKind.ofKeyword? (.ofList (s.takeWhile isNameChar))
    readTail? kind (skipBlank (s.dropWhile isNameChar))

end OperationParts

/-! ## The end of a part -/

section Parts

variable {options : CompileOptions} {kind : OperationKind} {name body : String}
  {header : Option String} {isMutation required : Bool} {text : String}

/-- A part goes on to the first character that it does not contain. -/
theorem span_of_not_mem {c : Char} {s : List Char} (h : c ∉ s) (rest : List Char) :
    (s ++ c :: rest).takeWhile (· != c) = s ∧ (s ++ c :: rest).dropWhile (· != c) = c :: rest := by
  have hs : ∀ d ∈ s, (d != c) = true := fun d hd => bne_iff_ne.2 fun heq => h (heq ▸ hd)
  have hc : (c != c) = false := bne_self_eq_false c
  rw [List.takeWhile_append_of_pos hs, List.dropWhile_append_of_pos hs, List.takeWhile_cons,
    List.dropWhile_cons, hc, if_neg Bool.false_ne_true, if_neg Bool.false_ne_true, List.append_nil]
  exact ⟨rfl, rfl⟩

/-- What contains no separator belongs to the first piece. -/
theorem splitOn_append {c : Char} {s : List Char} (h : c ∉ s) {rest : List Char}
    {first : List Char} {pieces : List (List Char)} (hrest : rest.splitOn c = first :: pieces) :
    (s ++ rest).splitOn c = (s ++ first) :: pieces := by
  induction s with
  | nil => exact hrest
  | cons d s ih =>
    obtain ⟨hd, hs⟩ := not_or.1 (mt List.mem_cons.2 h)
    have hne : ¬ (d == c) = true := fun heq => hd (beq_iff_eq.1 heq).symm
    have htail : List.splitOnP (· == c) (s ++ rest) = (s ++ first) :: pieces := ih hs
    rw [List.splitOn, List.cons_append, List.splitOnP_cons_eq_if_modifyHead, if_neg hne, htail]
    rfl

/-- All characters of a name may stand in a name. -/
theorem isNameChar_of_mem_name (hname : name = "" ∨ isName name = true) :
    ∀ c ∈ name.toList, isNameChar c = true := by
  rcases hname with rfl | hname
  · exact List.forall_mem_nil _
  · intro c hc
    rw [isName] at hname
    generalize name.toList = s at hname hc
    cases s with
    | nil => cases hname
    | cons d s =>
      obtain ⟨hstart, hall⟩ := isNameChars_cons.1 hname
      rcases List.mem_cons.1 hc with rfl | hc
      · exact isNameChar_of_isNameStart hstart
      · exact hall c hc

/-! ## Keyword, name, header and body -/

namespace OperationParts

/-- Behind the keyword the name ends where the header begins, or else the body. -/
theorem readTail?_eq (kind : OperationKind) (hname : name = "" ∨ isName name = true)
    {t : List Char} (ht : Apart t) : readTail? kind (name.toList ++ t) = readEnd? kind name t := by
  obtain ⟨htake, hdrop⟩ := span_name (isNameChar_of_mem_name hname) (Or.inr ht)
  rw [readTail?, htake, hdrop, String.ofList_toList]

theorem readEnd?_header (kind : OperationKind) (name : String) {header : String}
    (hheader : ')' ∉ header.toList) (body : String) :
    readEnd? kind name ('(' :: (header.toList ++ ')' :: body.toList)) =
      some ⟨some kind, name, some header, body⟩ := by
  obtain ⟨htake, hdrop⟩ := span_of_not_mem hheader body.toList
  rw [readEnd?, htake, hdrop]
  dsimp only
  rw [String.ofList_toList, String.ofList_toList]

theorem readEnd?_body (kind : OperationKind) (name : String) {s : List Char}
    (hbody : body.toList = '{' :: s) :
    readEnd? kind name body.toList = some ⟨some kind, name, none, body⟩ := by
  have hread : readEnd? kind name ('{' :: s) =
      some ⟨some kind, name, none, .ofList ('{' :: s)⟩ := rfl
  rw [hbody, hread, ← hbody, String.ofList_toList]

/-- A text that begins with a keyword is read behind it. -/
theorem read?_of_keyword {kind : OperationKind} {t : List Char}
    (htext : text.toList = kind.keyword.toList ++ t) (ht : Apart t) :
    read? text = readTail? kind (skipBlank t) := by
  have hchars := isNameChar_of_mem_name (Or.inr (isName_keyword kind))
  obtain ⟨htake, hdrop⟩ := span_name hchars (Or.inr ht)
  have hbrace : ∀ s, kind.keyword.toList ++ t ≠ '{' :: s := by
    intro s
    cases kind <;> exact fun h => absurd (List.cons.inj h).1 (by decide)
  rw [read?, htext]
  split
  · rename_i s h
    exact absurd h (hbrace s)
  · rw [htake, hdrop, String.ofList_toList, OperationKind.ofKeyword?_keyword]
    rfl

/-- **The parts of an operation come back from its text**: the keyword unless the body stands alone,
the name, the header if there is one, and the body. -/
theorem read?_construct (options : CompileOptions) (kind : OperationKind)
    (hname : name = "" ∨ isName name = true) (hheader : ∀ h ∈ header, ')' ∉ h.toList)
    {s : List Char} (hbody : body.toList = '{' :: s) :
    read? (construct options kind name header body) =
      some ⟨if header = none ∧ name = "" ∧ kind.isBareWhenAnonymous options = true then none
        else some kind, name, header, body⟩ := by
  have hapart : Apart body.toList := by
    rw [hbody]
    exact apart_cons (by decide) s
  have hblank : ∀ t, Apart (' ' :: t) := apart_cons (by decide)
  cases header with
  | some header =>
    have htext : (kind.keyword ++ " " ++ name ++ "(" ++ header ++ ")" ++ body).toList =
        kind.keyword.toList ++
          ' ' :: (name.toList ++ '(' :: (header.toList ++ ')' :: body.toList)) := by
      simp only [String.toList_append, List.append_assoc]
      rfl
    rw [construct.eq_1, read?_of_keyword htext (hblank _),
      if_neg fun h => Option.some_ne_none _ h.1]
    refine (readTail?_eq kind hname (apart_cons (by decide) _)).trans ?_
    exact readEnd?_header kind name (hheader header rfl) body
  | none =>
    rw [construct.eq_2]
    by_cases hempty : name = ""
    · subst hempty
      rw [if_neg (not_not_intro rfl)]
      by_cases hbare : kind.isBareWhenAnonymous options = true
      · rw [if_pos hbare, if_pos ⟨rfl, rfl, hbare⟩, read?, hbody]
        rfl
      · -- the keyword ends at the brace, and there is neither a blank nor a name
        have hskip : skipBlank body.toList = body.toList := by
          rw [hbody]
          rfl
        rw [if_neg hbare, if_neg fun h => hbare h.2.2,
          read?_of_keyword (String.toList_append) hapart, hskip]
        exact (readTail?_eq kind (Or.inl rfl) hapart).trans (readEnd?_body kind "" hbody)
    · have htext : (kind.keyword ++ " " ++ name ++ body).toList =
          kind.keyword.toList ++ ' ' :: (name.toList ++ body.toList) := by
        simp only [String.toList_append, List.append_assoc]
        rfl
      rw [if_pos hempty, if_neg fun h => hempty h.2.1, read?_of_keyword htext (hblank _)]
      exact (readTail?_eq kind hname hapart).trans (readEnd?_body kind name hbody)

end OperationParts

/-! ## The declarations in a header -/

/-- The character may stand in a signature. -/
def isSignatureChar (c : Char) : Bool :=
  isNameChar c || c == '[' || c == ']' || c == '!'

theorem isSignatureChar_of_isNameChar {c : Char} (h : isNameChar c = true) :
    isSignatureChar c = true := by
  simp only [isSignatureChar, h, Bool.true_or]

theorem isSignatureChar_of_mem_mark (required : Bool) :
    ∀ c ∈ (requiredMark required).toList, isSignatureChar c = true := by
  cases required with
  | false => exact List.forall_mem_nil _
  | true =>
    have hmark : (requiredMark true).toList = ['!'] := rfl
    rw [hmark]
    exact List.forall_mem_singleton.2 (by decide)

/-- **A signature is made of characters of names, brackets and marks**, whatever its type. -/
theorem isSignatureChar_of_encodeType {t : VariableType}
    (h : encodeType options isMutation t required = .ok text) :
    ∀ c ∈ text.toList, isSignatureChar c = true := by
  induction t generalizing required text with
  | scalar kind =>
    rw [encodeType_scalar] at h
    cases h
    have hbase := isNameChar_of_mem_name (Or.inr (isName_baseName kind))
    rw [String.toList_append, String.toList_append]
    refine List.forall_mem_append.2 ⟨List.forall_mem_append.2 ⟨?_, ?_⟩, ?_⟩
    · exact fun c hc => isSignatureChar_of_isNameChar (hbase c hc)
    · exact isSignatureChar_of_mem_mark _
    · exact isSignatureChar_of_mem_mark required
  | named name =>
    obtain ⟨hname, rfl⟩ := encodeType_named_eq_ok_iff.1 h
    have hchars := isNameChar_of_mem_name (Or.inr hname)
    rw [String.toList_append]
    refine List.forall_mem_append.2 ⟨?_, isSignatureChar_of_mem_mark required⟩
    exact fun c hc => isSignatureChar_of_isNameChar (hchars c hc)
  | list t ih =>
    obtain ⟨item, hitem, rfl⟩ := encodeType_list_eq_ok_iff.1 h
    have hchars : ("[" ++ item ++ "]" ++ requiredMark required).toList =
        '[' :: (item.toList ++ ']' :: (requiredMark required).toList) := by
      simp only [String.toList_append, List.append_assoc]
      rfl
    rw [hchars]
    refine List.forall_mem_cons.2 ⟨by decide, List.forall_mem_append.2 ⟨ih hitem, ?_⟩⟩
    exact List.forall_mem_cons.2 ⟨by decide, isSignatureChar_of_mem_mark required⟩
  | optional t ih => exact ih h

/-- A character that marks the end of something is in no signature. -/
theorem not_mem_encodeType {t : VariableType}
    (h : encodeType options isMutation t required = .ok text) {c : Char}
    (hc : isSignatureChar c = false) : c ∉ text.toList := by
  intro hmem
  rw [isSignatureChar_of_encodeType h c hmem] at hc
  cases hc

/-- A variable and its signature come back from its declaration. -/
theorem readDeclaration?_eq {name : String} (hname : ':' ∉ name.toList) (signature : String) :
    readDeclaration? (name.toList ++ ':' :: signature.toList) = some (name, signature) := by
  obtain ⟨htake, hdrop⟩ := span_of_not_mem hname signature.toList
  rw [readDeclaration?, htake, hdrop]
  dsimp only
  rw [String.ofList_toList, String.ofList_toList]

/-- The first declaration of a header is read, and then the others. -/
theorem readHeader?_cons {name signature more : String} (hname : '$' ∉ name.toList)
    (hcolon : ':' ∉ name.toList) (hsignature : '$' ∉ signature.toList)
    {declared : List (String × String)} (hmore : readHeader? more = some declared) :
    readHeader? ("$" ++ name ++ ":" ++ signature ++ more) =
      some ((name, signature) :: declared) := by
  rw [readHeader?] at hmore
  split at hmore
  · rename_i pieces hpieces
    -- the first declaration has no further mark, so it reaches up to that of the next one
    have hpiece : '$' ∉ name.toList ++ ':' :: signature.toList := by
      rw [List.mem_append, List.mem_cons]
      rintro (h | h | h)
      · exact hname h
      · exact absurd h (by decide)
      · exact hsignature h
    have hsplit := splitOn_append hpiece hpieces
    rw [List.append_nil, List.append_assoc, List.cons_append] at hsplit
    have hall : ('$' :: (name.toList ++ ':' :: (signature.toList ++ more.toList))).splitOn '$' =
        [] :: (name.toList ++ ':' :: signature.toList) :: pieces := by
      refine (List.splitOn_append_cons_self (a := '$') [] _).trans ?_
      rw [hsplit]
      rfl
    rw [readHeader?, toList_declaration, hall]
    refine List.mapM_cons.trans ?_
    rw [readDeclaration?_eq hcolon signature, hmore]
    rfl
  · cases hmore

/-- **The variables of a header come back, each with the signature of its type**, if their names
have no `$` and no `:` in them. -/
theorem readHeader?_declarations {entries : List (String × Variable)}
    (hnames : ∀ e ∈ entries, '$' ∉ e.1.toList ∧ ':' ∉ e.1.toList)
    (h : Variables.declarations options isMutation entries = .ok text) :
    ∃ declared, readHeader? text = some declared ∧
      entries.map (fun e => (e.1, encodeType options isMutation e.2.type true)) =
        declared.map fun d => (d.1, .ok d.2) := by
  induction entries generalizing text with
  | nil =>
    cases h
    exact ⟨[], rfl, rfl⟩
  | cons e rest ih =>
    obtain ⟨hname, hrest⟩ := List.forall_mem_cons.1 hnames
    obtain ⟨signature, more, hsignature, hmore, rfl⟩ := declarations_cons_eq_ok_iff.1 h
    obtain ⟨declared, hread, hmap⟩ := ih hrest hmore
    refine ⟨(e.1, signature) :: declared, ?_, ?_⟩
    · exact readHeader?_cons hname.1 hname.2 (not_mem_encodeType hsignature (by decide)) hread
    · rw [List.map_cons, List.map_cons, hmap, hsignature]

/-- Names and signatures do not close the header. -/
theorem not_mem_declarations {entries : List (String × Variable)}
    (hnames : ∀ e ∈ entries, ')' ∉ e.1.toList)
    (h : Variables.declarations options isMutation entries = .ok text) : ')' ∉ text.toList := by
  induction entries generalizing text with
  | nil =>
    cases h
    exact List.not_mem_nil
  | cons e rest ih =>
    obtain ⟨hname, hrest⟩ := List.forall_mem_cons.1 hnames
    obtain ⟨signature, more, hsignature, hmore, rfl⟩ := declarations_cons_eq_ok_iff.1 h
    rw [toList_declaration, List.mem_cons, List.mem_append, List.mem_cons, List.mem_append]
    rintro (h | h | h | h | h)
    · exact absurd h (by decide)
    · exact hname h
    · exact absurd h (by decide)
    · exact not_mem_encodeType hsignature (by decide) h
    · exact ih hrest hmore h

end Parts

end TypedGraphQL
