import TypedGraphQL.Proofs.Operation.Parts

/-!
# What a signature says

A signature is a name in brackets with marks behind the name and behind each bracket.  This file
gives the grammar of such texts, in which any number of marks may stand, and shows that a text is
read by it in one way only.  It then says what is read from the signature of a type: which levels of
the type are required, and where an entry of the type table adds a mark of its own.

The type does not say this level by level.  Requiredness is handed down while the signature is
written, and an optional wrapper replaces what was handed to it.  So `VariableType.isRequiredAt`
looks at each level by itself, and `reads_encodeType` shows that the signature agrees with it.

## What is here

* `Signature` — what a signature says; `Signature.Reads` — the grammar.
* `Signature.Reads.unique`, `Signature.Reads.text_unique` — a text is read in one way, and what is
  read has one text.
* `VariableType.isWrappedAt`, `VariableType.isRequiredAt` — the levels of a type.
* `VariableType.signature` — what the signature of a type says.
* `reads_encodeType`, by induction on the type; `encodeType_reads_back`.
-/

set_option autoImplicit false

namespace TypedGraphQL

open Document

/-! ## The grammar -/

/-- What a signature says: the number of marks of each list, outermost first, and at the bottom a
name with its number of marks. -/
structure Signature where
  lists : List Nat
  name : String
  marks : Nat
  deriving DecidableEq, Repr

namespace Signature

/-- Some marks. -/
def marksText (n : Nat) : List Char :=
  List.replicate n '!'

/-- **The grammar of signatures**: a name or a signature in brackets, and any number of marks. -/
inductive Reads : List Char → Signature → Prop
  | named {name : String} (h : isName name = true) (marks : Nat) :
    Reads (name.toList ++ marksText marks) ⟨[], name, marks⟩
  | list {s : List Char} {item : Signature} (h : Reads s item) (marks : Nat) :
    Reads ('[' :: (s ++ [']']) ++ marksText marks) ⟨marks :: item.lists, item.name, item.marks⟩

/-- Marks end where something else stands. -/
theorem append_marksText_inj {s t : List Char} (hs : s.getLast? ≠ some '!')
    (ht : t.getLast? ≠ some '!') {m n : Nat} (h : s ++ marksText m = t ++ marksText n) :
    s = t ∧ m = n := by
  have hlast : ∀ (s : List Char) (n : Nat), (s ++ marksText (n + 1)).getLast? = some '!' := by
    intro s n
    rw [marksText, List.replicate_succ', ← List.append_assoc, List.getLast?_concat]
  induction m generalizing n with
  | zero =>
    rw [marksText, List.replicate_zero, List.append_nil] at h
    cases n with
    | zero => exact ⟨h.trans (List.append_nil t), rfl⟩
    | succ n => exact absurd ((congrArg List.getLast? h).trans (hlast t n)) hs
  | succ m ih =>
    cases n with
    | zero =>
      have h' : s ++ marksText (m + 1) = t := h.trans (List.append_nil t)
      exact absurd ((congrArg List.getLast? h').symm.trans (hlast s m)) ht
    | succ n =>
      rw [marksText, marksText, List.replicate_succ', List.replicate_succ', ← List.append_assoc,
        ← List.append_assoc] at h
      obtain ⟨hst, hmn⟩ := ih (List.append_cancel_right h)
      exact ⟨hst, congrArg Nat.succ hmn⟩

/-- A name does not end in a mark. -/
theorem getLast?_name_ne {name : String} (h : isName name = true) :
    name.toList.getLast? ≠ some '!' := by
  intro hlast
  have hmark := isNameChar_of_mem_name (Or.inr h) '!' (List.mem_of_getLast? hlast)
  exact absurd hmark (by decide)

/-- Neither does a bracket. -/
theorem getLast?_list_ne (s : List Char) : ('[' :: (s ++ [']'])).getLast? ≠ some '!' := by
  rw [← List.cons_append, List.getLast?_concat]
  decide

/-- A name is no list. -/
theorem name_ne_list {name : String} (h : isName name = true) (s : List Char) :
    name.toList ≠ '[' :: (s ++ [']']) := by
  intro heq
  have hbracket := isNameChar_of_mem_name (Or.inr h) '[' (heq ▸ List.mem_cons_self)
  exact absurd hbracket (by decide)

/-- **A text is read in one way only.** -/
theorem Reads.unique {s : List Char} {a b : Signature} (ha : Reads s a) (hb : Reads s b) :
    a = b := by
  induction ha generalizing b with
  | @named name hname m =>
    generalize hs : name.toList ++ marksText m = s at hb
    cases hb with
    | named hname' n =>
      obtain ⟨hchars, rfl⟩ :=
        append_marksText_inj (getLast?_name_ne hname) (getLast?_name_ne hname') hs
      rw [String.toList_inj.1 hchars]
    | list _ n =>
      have hchars := append_marksText_inj (getLast?_name_ne hname) (getLast?_list_ne _) hs
      exact absurd hchars.1 (name_ne_list hname _)
  | @list s item _ m ih =>
    generalize hs : '[' :: (s ++ [']']) ++ marksText m = t at hb
    cases hb with
    | named hname n =>
      have hchars := append_marksText_inj (getLast?_list_ne _) (getLast?_name_ne hname) hs
      exact absurd hchars.1.symm (name_ne_list hname _)
    | list hitem n =>
      obtain ⟨hchars, rfl⟩ := append_marksText_inj (getLast?_list_ne _) (getLast?_list_ne _) hs
      rw [List.append_cancel_right (List.cons.inj hchars).2] at ih
      rw [ih hitem]

/-- **What is read has one text.** -/
theorem Reads.text_unique {s t : List Char} {a : Signature} (hs : Reads s a) (ht : Reads t a) :
    s = t := by
  induction hs generalizing t with
  | named _ _ =>
    cases ht
    rfl
  | @list s item _ m ih =>
    generalize hb : Signature.mk (m :: item.lists) item.name item.marks = b at ht
    cases ht with
    | named => cases hb
    | @list t other hother n =>
      obtain ⟨lists, name, marks⟩ := item
      obtain ⟨lists', name', marks'⟩ := other
      cases hb
      rw [ih hother]

end Signature

/-! ## The levels of a type -/

/-- The name at the bottom of a type, without a mark of its own. -/
def Leaf.name : Leaf → String
  | scalar kind => kind.baseName
  | named name => name

/-- The entry of the type table ends in a mark of its own. -/
def Leaf.isMarked : Leaf → Bool
  | scalar kind => kind.isMarked
  | named _ => false

/-- The name at the bottom of a type is one. -/
def Leaf.IsNamed : Leaf → Prop
  | scalar _ => True
  | named name => isName name = true

namespace VariableType

/-- Whether a level of a type stands directly below an optional wrapper.  The levels are the lists,
outermost first, and the leaf. -/
def isWrappedAt : VariableType → (level : Nat) → Bool
  | optional _, 0 => true
  | optional t, level + 1 => t.isWrappedAt (level + 1)
  | list t, level + 1 => t.isWrappedAt level
  | _, _ => false

variable (options : CompileOptions) (isMutation required : Bool)

/-- **Whether a level of a type is required.**  Directly below an optional wrapper this is up to the
kind of the operation.  Elsewhere the items of lists are required, and the outermost level if the
caller says so. -/
def isRequiredAt (t : VariableType) (level : Nat) : Bool :=
  if t.isWrappedAt level then isMutation && options.mutationOptionalAsRequired
  else 0 < level || required

/-- **What the signature of a type says**: a level that is required has a mark, and the leaf has one
more if its entry in the type table has one and the options keep it. -/
def signature (t : VariableType) : Signature where
  lists := (List.range t.listDepth).map fun level =>
    (t.isRequiredAt options isMutation required level).toNat
  name := t.leaf.name
  marks := (t.isRequiredAt options isMutation required t.listDepth).toNat +
    (options.doubleRequiredMarker && t.leaf.isMarked).toNat

variable {options isMutation required} {t : VariableType}

theorem isRequiredAt_scalar (kind : ScalarKind) :
    (scalar kind).isRequiredAt options isMutation required 0 = required := by
  cases required <;> rfl

theorem isRequiredAt_named (name : String) :
    (named name).isRequiredAt options isMutation required 0 = required := by
  cases required <;> rfl

theorem isRequiredAt_list_zero :
    (list t).isRequiredAt options isMutation required 0 = required := by
  cases required <;> rfl

/-- Inside a list, all is as for an item that is required. -/
theorem isRequiredAt_list_succ (level : Nat) :
    (list t).isRequiredAt options isMutation required (level + 1) =
      t.isRequiredAt options isMutation true level := by
  have hlevel : decide (0 < level + 1) = true := decide_eq_true (Nat.succ_pos level)
  rw [isRequiredAt, isRequiredAt, isWrappedAt, hlevel, Bool.true_or, Bool.or_true]

/-- Below an optional wrapper, what was required above is of no importance. -/
theorem isRequiredAt_optional (level : Nat) :
    (optional t).isRequiredAt options isMutation required level =
      t.isRequiredAt options isMutation (optionalRequired options isMutation) level := by
  cases level with
  | zero =>
    rw [isRequiredAt, isRequiredAt, isWrappedAt, if_pos rfl, optionalRequired]
    split <;> rfl
  | succ level =>
    have hlevel : decide (0 < level + 1) = true := decide_eq_true (Nat.succ_pos level)
    rw [isRequiredAt, isRequiredAt, isWrappedAt, hlevel, Bool.true_or, Bool.true_or]

theorem signature_list :
    (list t).signature options isMutation required =
      ⟨required.toNat :: (t.signature options isMutation true).lists,
        (t.signature options isMutation true).name,
        (t.signature options isMutation true).marks⟩ := by
  have hlists : ((list t).signature options isMutation required).lists =
      required.toNat :: (t.signature options isMutation true).lists := by
    rw [signature, listDepth, List.range_succ_eq_map, List.map_cons, isRequiredAt_list_zero,
      List.map_map]
    refine congrArg _ (List.map_congr_left fun level _ => ?_)
    exact congrArg Bool.toNat (isRequiredAt_list_succ level)
  have hmarks : ((list t).signature options isMutation required).marks =
      (t.signature options isMutation true).marks :=
    congrArg (Bool.toNat · + _) (isRequiredAt_list_succ t.listDepth)
  rw [← hlists, ← hmarks]
  rfl

theorem signature_optional :
    (optional t).signature options isMutation required =
      t.signature options isMutation (optionalRequired options isMutation) := by
  have hlevel : (optional t).isRequiredAt options isMutation required =
      t.isRequiredAt options isMutation (optionalRequired options isMutation) :=
    funext fun level => isRequiredAt_optional level
  rw [signature, signature, hlevel]
  rfl

end VariableType

/-! ## What is read from the signature of a type -/

section Signature

open Signature

variable {options : CompileOptions} {isMutation required : Bool} {t : VariableType} {text : String}

theorem toList_requiredMark (required : Bool) :
    (requiredMark required).toList = marksText required.toNat := by
  cases required <;> rfl

/-- The signature of a list. -/
theorem reads_list {item : String} {s : Signature} (h : Reads item.toList s) (required : Bool) :
    Reads ("[" ++ item ++ "]" ++ requiredMark required).toList
      ⟨required.toNat :: s.lists, s.name, s.marks⟩ := by
  have htext : ("[" ++ item ++ "]" ++ requiredMark required).toList =
      '[' :: (item.toList ++ [']']) ++ marksText required.toNat := by
    rw [String.toList_append, String.toList_append, String.toList_append, toList_requiredMark]
    rfl
  rw [htext]
  exact .list h required.toNat

/-- **The signature of a type says what its levels say.** -/
theorem reads_encodeType (h : encodeType options isMutation t required = .ok text) :
    Reads text.toList (t.signature options isMutation required) := by
  induction t generalizing required text with
  | scalar kind =>
    have hsignature : (VariableType.scalar kind).signature options isMutation required =
        ⟨[], kind.baseName,
          required.toNat + (options.doubleRequiredMarker && kind.isMarked).toNat⟩ := by
      rw [VariableType.signature, VariableType.listDepth, VariableType.isRequiredAt_scalar]
      rfl
    rw [encodeType_scalar] at h
    cases h
    rw [String.toList_append, String.toList_append, toList_requiredMark, toList_requiredMark,
      List.append_assoc, marksText, marksText, List.replicate_append_replicate, hsignature,
      Nat.add_comm]
    exact .named (isName_baseName kind) _
  | named name =>
    have hsignature : (VariableType.named name).signature options isMutation required =
        ⟨[], name, required.toNat⟩ := by
      rw [VariableType.signature, VariableType.listDepth, VariableType.isRequiredAt_named]
      dsimp only [VariableType.leaf, Leaf.isMarked]
      rw [Bool.and_false]
      rfl
    obtain ⟨hname, rfl⟩ := encodeType_named_eq_ok_iff.1 h
    rw [String.toList_append, toList_requiredMark, hsignature]
    exact .named hname _
  | list t ih =>
    obtain ⟨item, hitem, rfl⟩ := encodeType_list_eq_ok_iff.1 h
    rw [VariableType.signature_list]
    exact reads_list (ih hitem) required
  | optional t ih =>
    rw [VariableType.signature_optional]
    exact ih h

/-- What comes of a type is decided by its leaf. -/
theorem encodeType_eq_error_iff {cause : UnsupportedType} :
    encodeType options isMutation t required = .error cause ↔
      ∃ name, t.leaf = .named name ∧ isName name = false ∧ cause = ⟨name⟩ := by
  induction t generalizing required with
  | scalar kind =>
    rw [encodeType_scalar]
    refine iff_of_false ?_ ?_
    · rintro ⟨⟩
    · rintro ⟨_, ⟨⟩, -⟩
  | named name =>
    rw [encodeType, Leaf.spelling]
    by_cases hname : isName name = true
    · rw [if_pos hname]
      refine iff_of_false ?_ ?_
      · rintro ⟨⟩
      · rintro ⟨_, ⟨⟩, hnot, -⟩
        exact absurd hname (Bool.eq_false_iff.1 hnot)
    · rw [if_neg hname]
      constructor
      · intro h
        cases h
        exact ⟨name, rfl, Bool.eq_false_iff.2 hname, rfl⟩
      · rintro ⟨_, ⟨⟩, -, rfl⟩
        rfl
  | list t ih =>
    have hitem : encodeType options isMutation t true = .error cause ↔
        ∃ name, t.leaf = .named name ∧ isName name = false ∧ cause = ⟨name⟩ := ih
    rw [encodeType, VariableType.leaf, ← hitem]
    cases encodeType options isMutation t true with
    | ok item =>
      refine iff_of_false ?_ ?_
      · rintro ⟨⟩
      · rintro ⟨⟩
    | error cause' => exact Iff.rfl
  | optional t ih => exact ih

theorem exists_encodeType_iff :
    (∃ text, encodeType options isMutation t required = .ok text) ↔ t.leaf.IsNamed := by
  have herror : ∀ cause, encodeType options isMutation t required = .error cause ↔
      ∃ name, t.leaf = .named name ∧ isName name = false ∧ cause = ⟨name⟩ :=
    fun _ => encodeType_eq_error_iff
  cases hencode : encodeType options isMutation t required with
  | ok text =>
    refine iff_of_true ⟨text, rfl⟩ ?_
    cases hleaf : t.leaf with
    | scalar kind => exact trivial
    | named name =>
      by_cases hname : isName name = true
      · exact hname
      · have hfail := (herror ⟨name⟩).2 ⟨name, hleaf, Bool.eq_false_iff.2 hname, rfl⟩
        rw [hencode] at hfail
        cases hfail
  | error cause =>
    obtain ⟨name, hleaf, hname, -⟩ := (herror cause).1 hencode
    refine iff_of_false nofun fun h => ?_
    rw [hleaf] at h
    exact absurd h (Bool.eq_false_iff.1 hname)

/-- **What a signature says.**  A type has a signature exactly if its leaf is a scalar or has a name
that is one; otherwise that name is reported.  The grammar reads the signature in one way: as many
lists as the type has, the name of its leaf, and at each level a mark if the level is required, with
one more at the leaf if its entry in the type table has one and the options keep it.  So two types
have the same signature exactly if the same is read from them. -/
theorem encodeType_reads_back (options : CompileOptions) (isMutation required : Bool)
    (t : VariableType) :
    ((∃ text, encodeType options isMutation t required = .ok text) ↔ t.leaf.IsNamed) ∧
    (∀ cause, encodeType options isMutation t required = .error cause ↔
      ∃ name, t.leaf = .named name ∧ isName name = false ∧ cause = ⟨name⟩) ∧
    ∀ text, encodeType options isMutation t required = .ok text →
      (∀ s, Reads text.toList s ↔ s = t.signature options isMutation required) ∧
      ∀ t' text', encodeType options isMutation t' required = .ok text' →
        (text = text' ↔
          t.signature options isMutation required = t'.signature options isMutation required) := by
  refine ⟨exists_encodeType_iff, fun _ => encodeType_eq_error_iff, fun text h => ⟨fun s => ?_, ?_⟩⟩
  · have hreads := reads_encodeType h
    exact ⟨fun hs => hs.unique hreads, fun hs => hs ▸ hreads⟩
  · intro t' text' h'
    have hreads := reads_encodeType h
    have hreads' := reads_encodeType h'
    constructor
    · rintro rfl
      exact hreads.unique hreads'
    · intro hsame
      rw [← hsame] at hreads'
      exact String.toList_inj.1 (hreads.text_unique hreads')

/-- Lists of lists of integers, either of which may be missing.  Nothing below the outer wrapper is
required but the integers, whose entry in the type table has a mark of its own. -/
theorem encodeType_reads_back_grid :
    encodeType {} false (.optional (.list (.optional (.list (.scalar .int64))))) true =
        .ok "[[Int!!]]" ∧
      ∀ s, Reads "[[Int!!]]".toList s ↔ s = ⟨[0, 0], "Int", 2⟩ := by
  have hencode : encodeType {} false
      (.optional (.list (.optional (.list (.scalar .int64))))) true = .ok "[[Int!!]]" := rfl
  have hreads := ((encodeType_reads_back {} false true _).2.2 _ hencode).1
  exact ⟨hencode, hreads⟩

end Signature

end TypedGraphQL
