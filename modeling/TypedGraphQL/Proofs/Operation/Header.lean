import TypedGraphQL.Document.Parse
import TypedGraphQL.Proofs.Document.Lex
import TypedGraphQL.Variables

/-!
# A header as part of a document

The header of an operation declares its variables.  This file follows its text through the three
stages of reading a document, as `TypedGraphQL.Proofs.Operation.Body` does for selection sets.  The
only thing that can go wrong in the arrangement of the tokens is a second `!`, which is written at a
required position behind an entry of the type table that has one already.

## What is here

* `VariableType.hasMarkedRequired` — such an entry stands at a required position.
* `VariableType.tokens`, `VariableType.typeRef` — the tokens of a signature and what they are read
  as; `TypeRef.text` — the text of what was read.
* `VariableType.listDepth` — how many lists are nested in a type.
* `encodeType_scalar` and its likes — the signature of each type.
* `lexes_encodeType`, `withinRoom_type`, `typeRef?_tokens`, `typeRef?_of_doubled` — one signature.
* `lexes_declarations`, `withinRoom_declarations`, `variableList?_tokens`,
  `variableList?_of_doubled_type` — all declarations, by induction on the variables.
-/

set_option autoImplicit false

namespace TypedGraphQL

open Document

/-- The type as it is written. -/
def Document.TypeRef.text : TypeRef → String
  | .named name nonNull => name ++ requiredMark nonNull
  | .list item nonNull => "[" ++ item.text ++ "]" ++ requiredMark nonNull

/-- The token of a required position. -/
def markTokens (required : Bool) : List Token :=
  if required then [.punct '!'] else []

namespace VariableType

variable (options : CompileOptions) (isMutation : Bool)

/-- Whether a type directly below an optional wrapper is required. -/
def optionalRequired : Bool :=
  isMutation && options.mutationOptionalAsRequired

/-- A scalar whose entry of the type table ends in a `!` stands at a required position. -/
def hasMarkedRequired : VariableType → (required : Bool) → Bool
  | scalar kind, required => required && kind.isMarked
  | named _, _ => false
  | list t, _ => t.hasMarkedRequired true
  | optional t, _ => t.hasMarkedRequired (optionalRequired options isMutation)

/-- The tokens of a signature. -/
def tokens : VariableType → (required : Bool) → List Token
  | scalar kind, required =>
    .name kind.baseName ::
      (markTokens (options.doubleRequiredMarker && kind.isMarked) ++ markTokens required)
  | named name, required => .name name :: markTokens required
  | list t, required => .punct '[' :: (t.tokens true ++ .punct ']' :: markTokens required)
  | optional t, _ => t.tokens (optionalRequired options isMutation)

/-- What a signature is read as, if no mark is doubled. -/
def typeRef : VariableType → (required : Bool) → TypeRef
  | scalar kind, required =>
    .named kind.baseName ((options.doubleRequiredMarker && kind.isMarked) || required)
  | named name, required => .named name required
  | list t, required => .list (t.typeRef true) required
  | optional t, _ => t.typeRef (optionalRequired options isMutation)

/-- How many lists are nested in the type. -/
def listDepth : VariableType → Nat
  | scalar _ => 0
  | named _ => 0
  | list t => t.listDepth + 1
  | optional t => t.listDepth

end VariableType

/-! ## One signature -/

section Signature

variable {options : CompileOptions} {isMutation required : Bool} {text : String}

theorem isName_baseName (kind : ScalarKind) : isName kind.baseName = true := by
  cases kind <;> decide

/-- A mark behind a piece of text is a token of its own. -/
theorem lexes_mark {s : String} {ts : List Token} (h : Lexes s.toList ts) (required : Bool) :
    Lexes (s ++ requiredMark required).toList (ts ++ markTokens required) := by
  rw [String.toList_append]
  cases required with
  | false =>
    rw [requiredMark, markTokens]
    simpa using h
  | true => exact h.append (apart_cons (by decide) []) (Lexes.single (by decide))

/-- How a scalar is spelled, with or without a mark of its own. -/
theorem spelling_scalar (kind : ScalarKind) :
    (Leaf.scalar kind).spelling options =
      .ok (kind.baseName ++ requiredMark (options.doubleRequiredMarker && kind.isMarked)) := by
  cases hd : options.doubleRequiredMarker <;> cases kind <;> simp [Leaf.spelling, hd] <;> decide

/-! ### The signature of each type -/

theorem encodeType_scalar (kind : ScalarKind) :
    encodeType options isMutation (.scalar kind) required =
      .ok (kind.baseName ++ requiredMark (options.doubleRequiredMarker && kind.isMarked) ++
        requiredMark required) := by
  rw [encodeType, spelling_scalar]
  rfl

theorem encodeType_named_eq_ok_iff {name : String} :
    encodeType options isMutation (.named name) required = .ok text ↔
      isName name = true ∧ text = name ++ requiredMark required := by
  rw [encodeType, Leaf.spelling]
  by_cases hname : isName name = true
  · rw [if_pos hname]
    constructor
    · intro h
      cases h
      exact ⟨hname, rfl⟩
    · rintro ⟨-, rfl⟩
      rfl
  · rw [if_neg hname]
    exact ⟨nofun, fun h => absurd h.1 hname⟩

theorem encodeType_list_eq_ok_iff {t : VariableType} :
    encodeType options isMutation (.list t) required = .ok text ↔
      ∃ item, encodeType options isMutation t true = .ok item ∧
        text = "[" ++ item ++ "]" ++ requiredMark required := by
  rw [encodeType]
  cases encodeType options isMutation t true with
  | error cause => exact ⟨nofun, fun ⟨_, h, _⟩ => nomatch h⟩
  | ok item =>
    constructor
    · intro h
      cases h
      exact ⟨item, rfl, rfl⟩
    · rintro ⟨_, h, rfl⟩
      cases h
      rfl

/-- Where no mark is doubled, a scalar with a mark of its own is not at a required position. -/
theorem required_eq_false {kind : ScalarKind}
    (hsingle : ¬ (options.doubleRequiredMarker = true ∧
      (VariableType.scalar kind).hasMarkedRequired options isMutation required = true))
    (hmark : (options.doubleRequiredMarker && kind.isMarked) = true) : required = false := by
  rw [Bool.and_eq_true] at hmark
  rw [VariableType.hasMarkedRequired, Bool.and_eq_true] at hsingle
  exact Bool.eq_false_iff.2 fun hr => hsingle ⟨hmark.1, hr, hmark.2⟩

/-! ### The three stages -/

/-- **A signature has the tokens of its type.** -/
theorem lexes_encodeType {t : VariableType}
    (h : encodeType options isMutation t required = .ok text) :
    Lexes text.toList (t.tokens options isMutation required) := by
  induction t generalizing required text with
  | scalar kind =>
    rw [encodeType_scalar] at h
    cases h
    have hbase := Lexes.name (isName_baseName kind)
    exact lexes_mark (lexes_mark hbase (options.doubleRequiredMarker && kind.isMarked)) required
  | named name =>
    obtain ⟨hname, rfl⟩ := encodeType_named_eq_ok_iff.1 h
    exact lexes_mark (Lexes.name hname) required
  | list t ih =>
    obtain ⟨item, hitem, rfl⟩ := encodeType_list_eq_ok_iff.1 h
    have hclose : Lexes [']'] [.punct ']'] := Lexes.single (by decide)
    have hbrackets : Lexes ("[" ++ item ++ "]").toList
        (.punct '[' :: (t.tokens options isMutation true ++ [.punct ']'])) := by
      rw [String.toList_append, String.toList_append]
      exact ((ih hitem).append (apart_cons (by decide) []) hclose).punct (by decide)
    have hmark := lexes_mark hbrackets required
    rwa [List.cons_append, List.append_assoc] at hmark
  | optional t ih => exact ih h

/-- **The brackets of a signature count by its lists.** -/
theorem withinRoom_type (t : VariableType) (required : Bool) (room : Nat) (rest : List Token) :
    withinRoom room (t.tokens options isMutation required ++ rest) =
      (decide (t.listDepth ≤ room) && withinRoom room rest) := by
  have hmark : ∀ (required : Bool) (room : Nat) (rest : List Token),
      withinRoom room (markTokens required ++ rest) = withinRoom room rest := by
    intro required room rest
    cases required <;> rfl
  induction t generalizing required room rest with
  | scalar kind =>
    rw [VariableType.tokens, List.cons_append, List.append_assoc]
    refine (hmark _ room _).trans ?_
    rw [hmark, VariableType.listDepth, decide_eq_true (Nat.zero_le room), Bool.true_and]
  | named name =>
    rw [VariableType.tokens, List.cons_append]
    refine (hmark required room rest).trans ?_
    rw [VariableType.listDepth, decide_eq_true (Nat.zero_le room), Bool.true_and]
  | list t ih =>
    rw [VariableType.tokens, List.cons_append, List.append_assoc, List.cons_append]
    cases room with
    | zero => rfl
    | succ room =>
      refine (ih true room _).trans ?_
      have hclose : withinRoom room (.punct ']' :: (markTokens required ++ rest)) =
          withinRoom (room + 1) (markTokens required ++ rest) := rfl
      rw [hclose, hmark, VariableType.listDepth]
      simp only [Nat.add_le_add_iff_right]
  | optional t ih => exact ih _ room rest

/-- Behind a type that is not followed by a mark nothing more belongs to it. -/
theorem nonNull_of_ne (type : Bool → TypeRef) {rest : List Token}
    (h : ∀ more, rest ≠ .punct '!' :: more) : nonNull type rest = (type false, rest) := by
  rw [nonNull]
  exact h

/-- A mark behind a type belongs to it. -/
theorem nonNull_markTokens (type : Bool → TypeRef) (required : Bool) {rest : List Token}
    (h : ∀ more, rest ≠ .punct '!' :: more) :
    nonNull type (markTokens required ++ rest) = (type required, rest) := by
  cases required with
  | false => exact nonNull_of_ne type h
  | true => rfl

/-- **A signature without doubled marks is read as its type.** -/
theorem typeRef?_tokens (t : VariableType) {required : Bool}
    (hsingle : ¬ (options.doubleRequiredMarker = true ∧
      t.hasMarkedRequired options isMutation required = true))
    {n : Nat} (hn : (t.tokens options isMutation required).length ≤ n) {rest : List Token}
    (hrest : ∀ more, rest ≠ .punct '!' :: more) :
    typeRef? n (t.tokens options isMutation required ++ rest) =
      some (t.typeRef options isMutation required, rest) := by
  induction t generalizing required n rest with
  | scalar kind =>
    rw [VariableType.tokens, List.length_cons] at hn
    obtain ⟨n, rfl⟩ := Nat.exists_eq_add_of_le' (show 1 ≤ n by omega)
    rw [VariableType.tokens, List.cons_append, List.append_assoc, typeRef?, VariableType.typeRef]
    refine congrArg some ?_
    cases hm : options.doubleRequiredMarker && kind.isMarked with
    | false =>
      rw [Bool.false_or]
      exact nonNull_markTokens _ required hrest
    | true =>
      rw [required_eq_false hsingle hm]
      rfl
  | named name =>
    rw [VariableType.tokens, List.length_cons] at hn
    obtain ⟨n, rfl⟩ := Nat.exists_eq_add_of_le' (show 1 ≤ n by omega)
    rw [VariableType.tokens, List.cons_append, typeRef?, VariableType.typeRef]
    exact congrArg some (nonNull_markTokens _ required hrest)
  | list t ih =>
    rw [VariableType.tokens, List.length_cons, List.length_append] at hn
    obtain ⟨n, rfl⟩ := Nat.exists_eq_add_of_le' (show 1 ≤ n by omega)
    have hclose : ∀ more, Token.punct ']' :: (markTokens required ++ rest) ≠ .punct '!' :: more :=
      fun more h => absurd (List.cons.inj h).1 (by decide)
    rw [VariableType.tokens, List.cons_append, List.append_assoc, List.cons_append, typeRef?,
      ih hsingle (by omega) hclose]
    exact congrArg some (nonNull_markTokens _ required hrest)
  | optional t ih => exact ih hsingle hn hrest

/-- **Of a doubled mark the second is left over**, and inside a list that is no type. -/
theorem typeRef?_of_doubled (t : VariableType) {required : Bool}
    (hdouble : options.doubleRequiredMarker = true)
    (hmarked : t.hasMarkedRequired options isMutation required = true) (n : Nat)
    (rest : List Token) :
    typeRef? n (t.tokens options isMutation required ++ rest) = none ∨
      ∃ type, typeRef? n (t.tokens options isMutation required ++ rest) =
        some (type, .punct '!' :: rest) := by
  induction t generalizing required n rest with
  | scalar kind =>
    rw [VariableType.hasMarkedRequired, Bool.and_eq_true] at hmarked
    cases n with
    | zero => exact Or.inl rfl
    | succ n =>
      refine Or.inr ⟨.named kind.baseName true, ?_⟩
      rw [VariableType.tokens, hdouble, hmarked.1, hmarked.2]
      rfl
  | named name => cases hmarked
  | list t ih =>
    refine Or.inl ?_
    cases n with
    | zero => rfl
    | succ n =>
      rw [VariableType.tokens, List.cons_append, List.append_assoc, List.cons_append, typeRef?]
      rcases ih hmarked n (.punct ']' :: (markTokens required ++ rest)) with h | ⟨type, h⟩
      · rw [h]
        rfl
      · rw [h]
        rfl
  | optional t ih => exact ih hmarked n rest

/-- **What was read has the text of the signature.** -/
theorem encodeType_eq_typeRef {t : VariableType}
    (hsingle : ¬ (options.doubleRequiredMarker = true ∧
      t.hasMarkedRequired options isMutation required = true))
    (h : encodeType options isMutation t required = .ok text) :
    (t.typeRef options isMutation required).text = text := by
  induction t generalizing required text with
  | scalar kind =>
    rw [encodeType_scalar] at h
    cases h
    rw [VariableType.typeRef, TypeRef.text]
    cases hm : options.doubleRequiredMarker && kind.isMarked with
    | false =>
      rw [Bool.false_or]
      simp only [requiredMark, Bool.false_eq_true, if_false, String.append_empty]
    | true =>
      rw [required_eq_false hsingle hm, Bool.true_or]
      exact String.append_empty.symm
  | named name =>
    obtain ⟨-, rfl⟩ := encodeType_named_eq_ok_iff.1 h
    rfl
  | list t ih =>
    obtain ⟨item, hitem, rfl⟩ := encodeType_list_eq_ok_iff.1 h
    rw [VariableType.typeRef, TypeRef.text, ih hsingle hitem]
  | optional t ih => exact ih hsingle h

end Signature

/-! ## All declarations -/

section Declarations

variable {options : CompileOptions} {isMutation : Bool} {text : String}

/-- The tokens of the declarations of some variables. -/
def headerTokens (options : CompileOptions) (isMutation : Bool) :
    List (String × Variable) → List Token
  | [] => []
  | e :: rest =>
    .punct '$' :: .name e.1 :: .punct ':' ::
      (e.2.type.tokens options isMutation true ++ headerTokens options isMutation rest)

/-- What the declaration of a variable is read as. -/
def variableDefinition (options : CompileOptions) (isMutation : Bool) (e : String × Variable) :
    VariableDefinition :=
  ⟨e.1, e.2.type.typeRef options isMutation true, none⟩

/-- A mark is doubled in the declaration of a variable. -/
def isDoubled (options : CompileOptions) (isMutation : Bool) (e : String × Variable) : Bool :=
  options.doubleRequiredMarker && e.2.type.hasMarkedRequired options isMutation true

theorem isDoubled_iff {e : String × Variable} :
    isDoubled options isMutation e = true ↔ options.doubleRequiredMarker = true ∧
      e.2.type.hasMarkedRequired options isMutation true = true :=
  Bool.and_eq_true_iff

/-- The declarations are those of the first variable and those of the others. -/
theorem declarations_cons_eq_ok_iff {e : String × Variable} {rest : List (String × Variable)} :
    Variables.declarations options isMutation (e :: rest) = .ok text ↔
      ∃ signature more, encodeType options isMutation e.2.type true = .ok signature ∧
        Variables.declarations options isMutation rest = .ok more ∧
        text = "$" ++ e.1 ++ ":" ++ signature ++ more := by
  rw [Variables.declarations, Variables.declaration]
  cases encodeType options isMutation e.2.type true with
  | error cause => exact ⟨nofun, fun ⟨_, _, h, _⟩ => nomatch h⟩
  | ok signature =>
    cases Variables.declarations options isMutation rest with
    | error cause => exact ⟨nofun, fun ⟨_, _, _, h, _⟩ => nomatch h⟩
    | ok more =>
      constructor
      · intro h
        cases h
        exact ⟨signature, more, rfl, rfl, rfl⟩
      · rintro ⟨_, _, hs, hm, rfl⟩
        cases hs
        cases hm
        rfl

/-- The characters of a declaration and those behind it. -/
theorem toList_declaration (name signature more : String) :
    ("$" ++ name ++ ":" ++ signature ++ more).toList =
      '$' :: (name.toList ++ ':' :: (signature.toList ++ more.toList)) := by
  simp only [String.toList_append, List.append_assoc]
  rfl

/-- Declarations and the end of the header stand apart from what is before them. -/
theorem apart_declarations {entries : List (String × Variable)}
    (h : Variables.declarations options isMutation entries = .ok text) :
    Apart (text.toList ++ [')']) := by
  cases entries with
  | nil =>
    cases h
    exact apart_cons (by decide) []
  | cons e rest =>
    obtain ⟨signature, more, -, -, rfl⟩ := declarations_cons_eq_ok_iff.1 h
    rw [toList_declaration]
    exact apart_cons (by decide) _

/-- **The text of a header has the tokens of its declarations.** -/
theorem lexes_declarations {entries : List (String × Variable)}
    (hnames : ∀ e ∈ entries, isName e.1 = true)
    (h : Variables.declarations options isMutation entries = .ok text) :
    Lexes (text.toList ++ [')']) (headerTokens options isMutation entries ++ [.punct ')']) := by
  induction entries generalizing text with
  | nil =>
    cases h
    exact Lexes.single (by decide)
  | cons e rest ih =>
    obtain ⟨hname, hrest⟩ := List.forall_mem_cons.1 hnames
    obtain ⟨signature, more, hsignature, hmore, rfl⟩ := declarations_cons_eq_ok_iff.1 h
    have htype := (lexes_encodeType hsignature).append (apart_declarations hmore) (ih hrest hmore)
    have hcolon := htype.punct (c := ':') (by decide)
    have hdeclared := (Lexes.name hname).append (apart_cons (by decide) _) hcolon
    have hall := hdeclared.punct (c := '$') (by decide)
    rw [toList_declaration, headerTokens]
    simp only [List.cons_append, List.append_assoc] at hall ⊢
    exact hall

/-- **The brackets of a header count by the lists in it.** -/
theorem withinRoom_declarations (entries : List (String × Variable)) (room : Nat)
    (rest : List Token) :
    withinRoom room (headerTokens options isMutation entries ++ rest) =
      (decide (∀ e ∈ entries, e.2.type.listDepth ≤ room) && withinRoom room rest) := by
  induction entries with
  | nil => rw [decide_eq_true (List.forall_mem_nil _), Bool.true_and]; rfl
  | cons e more ih =>
    have hstep : withinRoom room (headerTokens options isMutation (e :: more) ++ rest) =
        withinRoom room (e.2.type.tokens options isMutation true ++
          (headerTokens options isMutation more ++ rest)) := by
      rw [headerTokens, List.cons_append, List.cons_append, List.cons_append, List.append_assoc]
      rfl
    rw [hstep, withinRoom_type, ih, ← Bool.and_assoc, ← Bool.decide_and]
    simp only [List.forall_mem_cons]

/-! ### The arrangement of the tokens -/

/-- What stands behind the type of a declaration: the end of the header, or another declaration. -/
theorem headerTokens_append_eq (entries : List (String × Variable)) (rest : List Token) :
    ∃ t more, headerTokens options isMutation entries ++ .punct ')' :: rest = t :: more ∧
      (t = .punct ')' ∨ t = .punct '$') := by
  cases entries with
  | nil => exact ⟨_, _, rfl, Or.inl rfl⟩
  | cons e more => exact ⟨_, _, rfl, Or.inr rfl⟩

/-- After one declaration come the others, or the end of the header. -/
theorem variableList?_of_type {n : Nat} {name : String} {ts rest : List Token} {type : TypeRef}
    {entries : List (String × Variable)}
    (h : typeRef? n ts =
      some (type, headerTokens options isMutation entries ++ .punct ')' :: rest)) :
    variableList? (n + 1) (.punct '$' :: .name name :: .punct ':' :: ts) =
      if entries = [] then some ([⟨name, type, none⟩], rest)
      else (variableList? n (headerTokens options isMutation entries ++ .punct ')' :: rest)).map
        fun p => (⟨name, type, none⟩ :: p.1, p.2) := by
  rw [variableList?, h]
  cases entries with
  | nil => rfl
  | cons e more =>
    rw [if_neg (List.cons_ne_nil e more)]
    refine Eq.trans ?_ Option.map_eq_bind.symm
    rfl

/-- A mark that is left over belongs to no declaration. -/
theorem variableList?_of_doubled_type {n : Nat} {name : String} {ts rest : List Token}
    (h : typeRef? n ts = none ∨ ∃ type, typeRef? n ts = some (type, .punct '!' :: rest)) :
    variableList? (n + 1) (.punct '$' :: .name name :: .punct ':' :: ts) = none := by
  rw [variableList?]
  rcases h with h | ⟨type, h⟩
  · rw [h]
    rfl
  · rw [h]
    cases n <;> rfl

/-- **Declarations are read as those of the variables if no mark is doubled**, and otherwise not at
all. -/
theorem variableList?_tokens {entries : List (String × Variable)} (hne : entries ≠ []) {n : Nat}
    (hn : (headerTokens options isMutation entries).length ≤ n) (rest : List Token) :
    variableList? n (headerTokens options isMutation entries ++ .punct ')' :: rest) =
      if entries.any (isDoubled options isMutation) then none
      else some (entries.map (variableDefinition options isMutation), rest) := by
  induction entries generalizing n with
  | nil => exact absurd rfl hne
  | cons e more ih =>
    rw [headerTokens, List.length_cons, List.length_cons, List.length_cons,
      List.length_append] at hn
    obtain ⟨n, rfl⟩ := Nat.exists_eq_add_of_le' (show 1 ≤ n by omega)
    rw [headerTokens, List.cons_append, List.cons_append, List.cons_append, List.append_assoc,
      List.any_cons]
    cases hdouble : isDoubled options isMutation e with
    | true =>
      obtain ⟨hmarker, hmarked⟩ := isDoubled_iff.1 hdouble
      rw [variableList?_of_doubled_type (typeRef?_of_doubled e.2.type hmarker hmarked n _)]
      rfl
    | false =>
      have hsingle := mt isDoubled_iff.2 (Bool.eq_false_iff.1 hdouble)
      have hbehind : ∀ more', headerTokens options isMutation more ++ .punct ')' :: rest ≠
          .punct '!' :: more' := by
        obtain ⟨t, _, heq, ht⟩ := headerTokens_append_eq more rest
        rw [heq]
        intro more' h
        rcases ht with rfl | rfl <;> exact absurd (List.cons.inj h).1 (by decide)
      rw [variableList?_of_type (typeRef?_tokens e.2.type hsingle (by omega) hbehind)]
      by_cases hm : more = []
      · subst hm
        rfl
      · rw [if_neg hm, ih hm (by omega), Bool.false_or]
        split <;> rfl

end Declarations

end TypedGraphQL
