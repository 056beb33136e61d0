import TypedGraphQL.Operation
import TypedGraphQL.Proofs.Operation.Body
import TypedGraphQL.Proofs.Operation.Header

/-!
# An operation as a document

The text of an operation is a keyword, a name, a header and a selection set, some of which may be
missing.  This file puts the stages of reading the parts together and says what the whole text is
read as.

## What is here

* `operationTokens` — the tokens of an operation; `lexes_construct`.
* `withinRoom_operation` — how many brackets are open at once.
* `operationDefinition` — what the tokens are read as; `definition?_tokens`.
* `parse_construct` — what the text is read as, and why it is no document otherwise.
-/

set_option autoImplicit false

namespace TypedGraphQL

open Document

variable {options : CompileOptions} {kind : OperationKind} {name : String}
  {entries : List (String × Variable)} {s : SelectionSet}

/-! ## Tokens -/

/-- The tokens of a name that may be empty. -/
def nameTokens (name : String) : List Token :=
  if name = "" then [] else [.name name]

/-- The tokens of a header with its brackets; without variables there is none. -/
def headerPart (options : CompileOptions) (isMutation : Bool) :
    List (String × Variable) → List Token
  | [] => []
  | e :: rest => .punct '(' :: (headerTokens options isMutation (e :: rest) ++ [.punct ')'])

/-- The tokens of a selection set with its braces. -/
def bodyTokens (s : SelectionSet) : List Token :=
  .punct '{' :: (s.tokens ++ [.punct '}'])

/-- The operation is its selection set alone. -/
def isBare (options : CompileOptions) (kind : OperationKind) (name : String)
    (entries : List (String × Variable)) : Bool :=
  entries.isEmpty && name == "" && kind.isBareWhenAnonymous options

/-- The tokens of an operation. -/
def operationTokens (options : CompileOptions) (kind : OperationKind) (name : String)
    (entries : List (String × Variable)) (s : SelectionSet) : List Token :=
  if isBare options kind name entries then bodyTokens s
  else .name kind.keyword ::
    (nameTokens name ++ (headerPart options (kind == .mutation) entries ++ bodyTokens s))

theorem isName_keyword (kind : OperationKind) : isName kind.keyword = true := by
  cases kind <;> decide

theorem lexes_render (hs : ∀ e ∈ s.entries, e.IsName) : Lexes s.render.toList (bodyTokens s) := by
  have hclose : Lexes ['}'] [.punct '}'] := Lexes.single (by decide)
  have hbody := (SelectionSet.lexes_entriesText hs).append (apart_cons (by decide) []) hclose
  rw [SelectionSet.render, String.toList_append, String.toList_append]
  exact hbody.punct (by decide)

theorem apart_render (s : SelectionSet) : Apart s.render.toList := by
  rw [SelectionSet.render, String.toList_append, String.toList_append]
  exact apart_cons (by decide) _

/-- A blank, a name and what stands apart behind it. -/
theorem lexes_name {t : List Char} {ts : List Token} (hname : name = "" ∨ isName name = true)
    (hapart : Apart t) (h : Lexes t ts) :
    Lexes (' ' :: (name.toList ++ t)) (nameTokens name ++ ts) := by
  refine Lexes.ignored (by decide) ?_
  rcases hname with rfl | hname
  · exact h
  · have hne : name ≠ "" := by
      rintro rfl
      cases hname
    rw [nameTokens, if_neg hne]
    exact (Lexes.name hname).append hapart h

/-- A header is written if there are variables. -/
theorem compileHeader_eq_ok_iff {vs : Variables} {header : Option String} :
    compileHeader options kind vs = .ok header ↔
      (vs.entries = [] ∧ header = none) ∨
      (vs.entries ≠ [] ∧ ∃ text,
        Variables.declarations options (kind == .mutation) vs.entries = .ok text ∧
          header = some text) := by
  rw [compileHeader, Variables.isEmpty, Variables.header]
  cases vs.entries with
  | nil => simp [eq_comm]
  | cons e rest =>
    rw [List.isEmpty_cons, if_neg Bool.false_ne_true]
    cases Variables.declarations options (kind == .mutation) (e :: rest) <;> simp [eq_comm]

/-- **The text of an operation has the tokens of the operation.** -/
theorem lexes_construct {vs : Variables} {header : Option String}
    (hheader : compileHeader options kind vs = .ok header)
    (hname : name = "" ∨ isName name = true) (hvars : ∀ e ∈ vs.entries, isName e.1 = true)
    (hs : ∀ e ∈ s.entries, e.IsName) :
    Lexes (construct options kind name header s.render).toList
      (operationTokens options kind name vs.entries s) := by
  have hbody := lexes_render hs
  have hkeyword := Lexes.name (isName_keyword kind)
  rcases compileHeader_eq_ok_iff.1 hheader with ⟨hnil, rfl⟩ | ⟨hne, text, htext, rfl⟩
  · rw [hnil, construct]
    by_cases hempty : name = ""
    · subst hempty
      cases hbare : kind.isBareWhenAnonymous options with
      | true =>
        rw [operationTokens, isBare, hbare]
        exact hbody
      | false =>
        rw [operationTokens, isBare, hbare]
        have hall := hkeyword.append (apart_render s) hbody
        rw [← String.toList_append] at hall
        exact hall
    · have hbare : isBare options kind name [] = false := by
        rw [isBare, beq_false_of_ne hempty]
        rfl
      have hall := hkeyword.append (apart_cons (by decide) _)
        (lexes_name hname (apart_render s) hbody)
      rw [operationTokens, hbare, if_neg Bool.false_ne_true, if_pos hempty]
      simp only [String.toList_append, List.append_assoc]
      exact hall
  · obtain ⟨e, rest, hentries⟩ := List.exists_cons_of_ne_nil hne
    have hbare : isBare options kind name vs.entries = false := by
      rw [isBare, hentries]
      rfl
    have hclosed := (lexes_declarations hvars htext).append (apart_render s) hbody
    have hbrackets := hclosed.punct (c := '(') (by decide)
    have hall := hkeyword.append (apart_cons (by decide) _)
      (lexes_name hname (apart_cons (by decide) _) hbrackets)
    rw [operationTokens, hbare, if_neg Bool.false_ne_true, construct]
    simp only [String.toList_append, List.append_assoc]
    rw [hentries] at hall ⊢
    simp only [headerPart, List.append_assoc, List.cons_append] at hall ⊢
    exact hall

/-! ## Open brackets -/

/-- No more than `room` brackets are open at once in an operation. -/
def FitsIn (room : Nat) (entries : List (String × Variable)) (s : SelectionSet) : Prop :=
  s.depth + 1 ≤ room ∧ ∀ e ∈ entries, e.2.type.listDepth + 1 ≤ room

instance (room : Nat) (entries : List (String × Variable)) (s : SelectionSet) :
    Decidable (FitsIn room entries s) :=
  inferInstanceAs (Decidable (_ ∧ _))

theorem withinRoom_bodyTokens (s : SelectionSet) (room : Nat) :
    withinRoom room (bodyTokens s) = decide (s.depth + 1 ≤ room) := by
  cases room with
  | zero => rfl
  | succ room =>
    have hopen : withinRoom (room + 1) (bodyTokens s) =
        withinRoom room (s.tokens ++ [.punct '}']) := rfl
    have hclose : withinRoom room [.punct '}'] = true := rfl
    rw [hopen, SelectionSet.withinRoom_tokens, hclose, Bool.and_true]
    simp only [Nat.add_le_add_iff_right]

theorem withinRoom_headerPart (isMutation : Bool) (entries : List (String × Variable)) (room : Nat)
    (rest : List Token) :
    withinRoom room (headerPart options isMutation entries ++ rest) =
      (decide (∀ e ∈ entries, e.2.type.listDepth + 1 ≤ room) && withinRoom room rest) := by
  cases entries with
  | nil => rw [decide_eq_true (List.forall_mem_nil _), Bool.true_and]; rfl
  | cons e more =>
    cases room with
    | zero =>
      have hfull : ¬ ∀ d ∈ e :: more, d.2.type.listDepth + 1 ≤ 0 :=
        fun h => absurd (h e List.mem_cons_self) (Nat.not_succ_le_zero _)
      rw [decide_eq_false hfull]
      rfl
    | succ room =>
      have hopen : withinRoom (room + 1) (headerPart options isMutation (e :: more) ++ rest) =
          withinRoom room (headerTokens options isMutation (e :: more) ++ .punct ')' :: rest) := by
        rw [headerPart, List.cons_append, List.append_assoc]
        rfl
      have hclose : withinRoom room (.punct ')' :: rest) = withinRoom (room + 1) rest := rfl
      rw [hopen, withinRoom_declarations, hclose]
      simp only [Nat.add_le_add_iff_right]

theorem withinRoom_nameTokens (name : String) (room : Nat) (rest : List Token) :
    withinRoom room (nameTokens name ++ rest) = withinRoom room rest := by
  rw [nameTokens]
  split <;> rfl

theorem eq_nil_of_isBare (h : isBare options kind name entries = true) : entries = [] := by
  rw [isBare, Bool.and_eq_true, Bool.and_eq_true] at h
  exact List.isEmpty_iff.1 h.1.1

/-- **How many brackets are open at once in an operation.** -/
theorem withinRoom_operation (room : Nat) :
    withinRoom room (operationTokens options kind name entries s) =
      decide (FitsIn room entries s) := by
  rw [operationTokens]
  cases hbare : isBare options kind name entries with
  | true =>
    obtain rfl := eq_nil_of_isBare hbare
    have hfits : FitsIn room [] s ↔ s.depth + 1 ≤ room := and_iff_left (List.forall_mem_nil _)
    rw [if_pos rfl, withinRoom_bodyTokens]
    simp only [hfits]
  | false =>
    rw [if_neg Bool.false_ne_true]
    refine (withinRoom_nameTokens name room _).trans ?_
    rw [withinRoom_headerPart, withinRoom_bodyTokens, Bool.and_comm, ← Bool.decide_and]
    rfl

/-! ## The arrangement of the tokens -/

/-- What an operation is read as.  Its selection set alone is a query. -/
def operationDefinition (options : CompileOptions) (kind : OperationKind) (name : String)
    (entries : List (String × Variable)) (s : SelectionSet) : Definition :=
  if isBare options kind name entries then .bare s.selections
  else .operation kind (if name = "" then none else some name)
    (entries.map (variableDefinition options (kind == .mutation))) [] s.selections

/-- No set of the selection is empty, and no mark in the header is doubled. -/
def IsArranged (options : CompileOptions) (kind : OperationKind)
    (entries : List (String × Variable)) (s : SelectionSet) : Prop :=
  (∀ t ∈ s.sets, t ≠ .nil) ∧ entries.any (isDoubled options (kind == .mutation)) = false

instance : Decidable (IsArranged options kind entries s) :=
  inferInstanceAs (Decidable (_ ∧ _))

theorem selectionSet?_bodyTokens {n : Nat} (hn : 4 * s.tokens.length ≤ n) :
    selectionSet? n (bodyTokens s) =
      if ∀ t ∈ s.sets, t ≠ .nil then some (s.selections, []) else none :=
  s.selectionList?_tokens hn []

theorem header?_headerPart (isMutation : Bool) {n : Nat}
    (hn : (headerTokens options isMutation entries).length ≤ n) :
    header? n (headerPart options isMutation entries ++ bodyTokens s) =
      if entries.any (isDoubled options isMutation) then none
      else some (entries.map (variableDefinition options isMutation), bodyTokens s) := by
  cases entries with
  | nil => rfl
  | cons e rest =>
    rw [headerPart, List.cons_append, List.append_assoc]
    exact variableList?_tokens (List.cons_ne_nil e rest) hn (bodyTokens s)

theorem optionalName_nameTokens (isMutation : Bool) :
    optionalName (nameTokens name ++ (headerPart options isMutation entries ++ bodyTokens s)) =
      (if name = "" then none else some name,
        headerPart options isMutation entries ++ bodyTokens s) := by
  rw [nameTokens]
  split
  · cases entries <;> rfl
  · rfl

theorem directives?_bodyTokens (s : SelectionSet) {n : Nat} (hn : 0 < n) :
    directives? n (bodyTokens s) = some ([], bodyTokens s) := by
  cases n with
  | zero => exact absurd hn (Nat.lt_irrefl 0)
  | succ n => rfl

theorem definition?_keyword (n : Nat) (kind : OperationKind) (ts : List Token) :
    definition? n (.name kind.keyword :: ts) = operation? n kind ts := by
  rw [definition?, OperationKind.ofKeyword?_keyword]

/-- **An operation is read as what it is if it is arranged**, and otherwise not at all. -/
theorem definition?_operationTokens {n : Nat} (hs : 4 * s.tokens.length ≤ n)
    (hh : (headerTokens options (kind == .mutation) entries).length ≤ n) (hpos : 0 < n) :
    definition? n (operationTokens options kind name entries s) =
      if IsArranged options kind entries s then
        some (operationDefinition options kind name entries s, [])
      else none := by
  rw [operationTokens, operationDefinition]
  cases hbare : isBare options kind name entries with
  | true =>
    obtain rfl := eq_nil_of_isBare hbare
    have harranged : IsArranged options kind [] s ↔ ∀ t ∈ s.sets, t ≠ .nil := and_iff_left rfl
    have hdef : definition? n (bodyTokens s) =
        (selectionSet? n (bodyTokens s)).bind fun p => some (.bare p.1, p.2) := rfl
    rw [if_pos rfl, if_pos rfl, hdef, selectionSet?_bodyTokens hs]
    simp only [harranged]
    split <;> rfl
  | false =>
    rw [if_neg Bool.false_ne_true, if_neg Bool.false_ne_true, definition?_keyword, operation?,
      optionalName_nameTokens]
    dsimp only
    rw [header?_headerPart _ hh]
    cases hdouble : entries.any (isDoubled options (kind == .mutation)) with
    | true =>
      have hnot : ¬ IsArranged options kind entries s := by
        rintro ⟨-, h⟩
        rw [hdouble] at h
        cases h
      rw [if_neg hnot, if_pos rfl]
      rfl
    | false =>
      have harranged : IsArranged options kind entries s ↔ ∀ t ∈ s.sets, t ≠ .nil :=
        and_iff_left hdouble
      rw [if_neg Bool.false_ne_true]
      simp only [harranged, Option.bind_eq_bind, Option.bind_some, directives?_bodyTokens s hpos,
        selectionSet?_bodyTokens hs]
      split <;> rfl

/-! ## The whole text -/

/-- The definition is the whole document if it is all there is. -/
theorem definitions?_of_definition {n : Nat} {ts : List Token} {o : Option Definition}
    (h : definition? n ts = o.map fun d => (d, [])) : definitions? (n + 1) ts = o.map ([·]) := by
  rw [definitions?, h]
  cases o <;> rfl

theorem length_tokens_le :
    s.tokens.length ≤ (operationTokens options kind name entries s).length := by
  rw [operationTokens]
  split
  · rw [bodyTokens, List.length_cons, List.length_append]
    omega
  · rw [bodyTokens, List.length_cons, List.length_append, List.length_append, List.length_cons,
      List.length_append]
    omega

theorem length_headerTokens_le :
    (headerTokens options (kind == .mutation) entries).length ≤
      (operationTokens options kind name entries s).length := by
  cases entries with
  | nil => exact Nat.zero_le _
  | cons e rest =>
    have hbare : isBare options kind name (e :: rest) = false := rfl
    rw [operationTokens, hbare, if_neg Bool.false_ne_true, headerPart]
    simp only [List.length_cons, List.length_append]
    omega

/-- **What the text of an operation is read as.**  It is no document if too many brackets are open
at once, if a set in it is empty, or if a mark in its header is doubled. -/
theorem parse_construct {vs : Variables} {header : Option String}
    (hheader : compileHeader options kind vs = .ok header)
    (hname : name = "" ∨ isName name = true) (hvars : ∀ e ∈ vs.entries, isName e.1 = true)
    (hs : ∀ e ∈ s.entries, e.IsName) :
    Document.parse (construct options kind name header s.render) =
      if FitsIn maxOpen vs.entries s then
        if IsArranged options kind vs.entries s then
          .ok ⟨[operationDefinition options kind name vs.entries s]⟩
        else .error .badArrangement
      else .error .tooDeep := by
  have htokens := (lexes_construct hheader hname hvars hs).tokens?_eq
  have hbody := @length_tokens_le options kind name vs.entries s
  have hdeclared := @length_headerTokens_le options kind name vs.entries s
  rw [Document.parse, htokens]
  dsimp only
  rw [ofTokens, withinRoom_operation]
  by_cases hfits : FitsIn maxOpen vs.entries s
  · rw [decide_eq_true hfits, if_pos rfl, if_pos hfits]
    by_cases harranged : IsArranged options kind vs.entries s
    · rw [definitions?_of_definition
          (o := some (operationDefinition options kind name vs.entries s)),
        if_pos harranged]
      · rfl
      · rw [definition?_operationTokens (by omega) (by omega) (by omega), if_pos harranged]
        rfl
    · rw [definitions?_of_definition (o := none), if_neg harranged]
      · rfl
      · rw [definition?_operationTokens (by omega) (by omega) (by omega), if_neg harranged]
        rfl
  · rw [decide_eq_false hfits, if_neg Bool.false_ne_true, if_neg hfits]

end TypedGraphQL
