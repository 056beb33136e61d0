import TypedGraphQL.Proofs.Operation.Signature
import TypedGraphQL.Proofs.Operation.Validated
import TypedGraphQL.Proofs.Variables.History

/-!
# When an operation is compiled, and what is wrong otherwise

Two things can go wrong: the type has no selection, or a variable has a type that has no signature.
The selection is made first, so its problem comes before those of the variables.  The variables are
declared in the order of their names, so among many faults the first in that order is reported,
however the variables came about and however deep in its type the fault is hidden.

Which types have a selection is the matter of `TypedGraphQL.Proofs.Selection.Violation`.

## What is here

* `Leaf.not_isNamed_iff` — the leaves that have no spelling.
* `Variables.HasFault`, `Variables.HasFirstFault` — the variables whose types have no signature, and
  the first of them.
* `declarations_eq_error_iff`, `header_eq_error_iff` — which fault a header is refused for.
* `compileHeader_eq_error_iff`, `compile_outcome` — the header, and the whole operation.
-/

set_option autoImplicit false

namespace TypedGraphQL

open Document Json

/-- The leaves that are not named are names that are none. -/
theorem Leaf.not_isNamed_iff {leaf : Leaf} :
    ¬ leaf.IsNamed ↔ ∃ name, leaf = .named name ∧ isName name = false := by
  cases leaf with
  | scalar kind => exact iff_of_false (not_not_intro trivial) nofun
  | named name =>
    constructor
    · exact fun h => ⟨name, rfl, Bool.eq_false_iff.2 h⟩
    · rintro ⟨_, ⟨⟩, h⟩
      exact Bool.eq_false_iff.1 h

namespace Variables

/-! ## Faults -/

/-- The type of the variable `name` has the leaf `leaf`, which should be a name but is none. -/
def HasFault (vs : Variables) (name leaf : String) : Prop :=
  ∃ v, vs.get? name = some v ∧ v.type.leaf = .named leaf ∧ isName leaf = false

/-- The fault of the least name, in the order of bytes. -/
def HasFirstFault (vs : Variables) (name leaf : String) : Prop :=
  vs.HasFault name leaf ∧
    ∀ name' leaf', vs.HasFault name' leaf' → name' = name ∨ bytesOf name < bytesOf name'

variable {options : CompileOptions} {isMutation : Bool} {entries : List (String × Variable)}
  {vs : Variables} {cause : UnsupportedType}

/-- The declarations are refused for the first variable, or else for one of the others. -/
theorem declarations_cons_eq_error_iff {e : String × Variable} :
    declarations options isMutation (e :: entries) = .error cause ↔
      encodeType options isMutation e.2.type true = .error cause ∨
        e.2.type.leaf.IsNamed ∧ declarations options isMutation entries = .error cause := by
  have hnamed : e.2.type.leaf.IsNamed ↔
      ∃ text, encodeType options isMutation e.2.type true = .ok text := exists_encodeType_iff.symm
  rw [hnamed, declarations, declaration]
  cases encodeType options isMutation e.2.type true with
  | error cause' => simp [bind, Except.bind]
  | ok signature =>
    cases declarations options isMutation entries <;> simp [bind, Except.bind, pure, Except.pure]

/-- **The declarations are refused for the first type that has no signature.** -/
theorem declarations_eq_error_iff :
    declarations options isMutation entries = .error cause ↔
      ∃ before e after, entries = before ++ e :: after ∧ (∀ d ∈ before, d.2.type.leaf.IsNamed) ∧
        ∃ leaf, e.2.type.leaf = .named leaf ∧ isName leaf = false ∧ cause = ⟨leaf⟩ := by
  induction entries with
  | nil =>
    refine iff_of_false nofun ?_
    rintro ⟨before, e, after, hnil, -⟩
    exact List.append_ne_nil_of_right_ne_nil before (List.cons_ne_nil e after) hnil.symm
  | cons e rest ih =>
    rw [declarations_cons_eq_error_iff, ih, encodeType_eq_error_iff]
    constructor
    · rintro (hfault | ⟨hnamed, before, d, after, rfl, hbefore, hfault⟩)
      · exact ⟨[], e, rest, rfl, List.forall_mem_nil _, hfault⟩
      · exact ⟨e :: before, d, after, rfl, List.forall_mem_cons.2 ⟨hnamed, hbefore⟩, hfault⟩
    · rintro ⟨before, d, after, heq, hbefore, hfault⟩
      cases before with
      | nil =>
        cases heq
        exact Or.inl hfault
      | cons d' before =>
        cases heq
        obtain ⟨hnamed, hbefore⟩ := List.forall_mem_cons.1 hbefore
        exact Or.inr ⟨hnamed, before, d, after, rfl, hbefore, hfault⟩

/-- A header has a text exactly if every type has a signature. -/
theorem exists_declarations_iff :
    (∃ text, declarations options isMutation entries = .ok text) ↔
      ∀ e ∈ entries, e.2.type.leaf.IsNamed := by
  induction entries with
  | nil => exact iff_of_true ⟨"", rfl⟩ (List.forall_mem_nil _)
  | cons e rest ih =>
    rw [List.forall_mem_cons, ← ih, ← exists_encodeType_iff]
    constructor
    · rintro ⟨text, h⟩
      obtain ⟨signature, more, hsignature, hmore, -⟩ := declarations_cons_eq_ok_iff.1 h
      exact ⟨⟨signature, hsignature⟩, more, hmore⟩
    · rintro ⟨⟨signature, hsignature⟩, more, hmore⟩
      exact ⟨_, declarations_cons_eq_ok_iff.2 ⟨signature, more, hsignature, hmore, rfl⟩⟩

/-- Before an entry stand smaller names, and behind it greater ones. -/
theorem lt_of_entries_eq {before after : List (String × Variable)} {e : String × Variable}
    (h : vs.entries = before ++ e :: after) :
    (∀ d ∈ before, d.1 < e.1) ∧ ∀ d ∈ after, e.1 < d.1 := by
  have hordered := vs.ordered
  rw [h] at hordered
  obtain ⟨-, hrest, hbefore⟩ := List.pairwise_append.1 hordered
  exact ⟨fun d hd => hbefore d hd e List.mem_cons_self, (ordered_cons_iff.1 hrest).1⟩

/-- **A header is refused for the first fault**, in the order of the names. -/
theorem header_eq_error_iff :
    vs.header options isMutation = .error cause ↔
      ∃ name leaf, vs.HasFirstFault name leaf ∧ cause = ⟨leaf⟩ := by
  rw [header, declarations_eq_error_iff]
  constructor
  · rintro ⟨before, ⟨name, v⟩, after, hentries, hbefore, leaf, hleaf, hname, rfl⟩
    have hmem : (name, v) ∈ vs.entries := hentries ▸ List.mem_append_right _ List.mem_cons_self
    refine ⟨name, leaf, ⟨⟨v, mem_entries_iff.1 hmem, hleaf, hname⟩, ?_⟩, rfl⟩
    rintro name' leaf' ⟨v', hget, hleaf', hname'⟩
    have hmem' := mem_entries_iff.2 hget
    rw [hentries] at hmem'
    rcases List.mem_append.1 hmem' with hmem' | hmem'
    · have hnamed := hbefore _ hmem'
      exact absurd hnamed (Leaf.not_isNamed_iff.2 ⟨leaf', hleaf', hname'⟩)
    · rcases List.mem_cons.1 hmem' with heq | hmem'
      · exact Or.inl (congrArg Prod.fst heq)
      · exact Or.inr (bytesOf_lt ((lt_of_entries_eq hentries).2 _ hmem'))
  · rintro ⟨name, leaf, ⟨⟨v, hget, hleaf, hname⟩, hfirst⟩, rfl⟩
    obtain ⟨before, after, hentries⟩ := List.append_of_mem (mem_entries_iff.2 hget)
    refine ⟨before, (name, v), after, hentries, fun d hd => ?_, leaf, hleaf, hname, rfl⟩
    have hlt : d.1 < name := (lt_of_entries_eq hentries).1 d hd
    by_contra hnot
    obtain ⟨leaf', hleaf', hname'⟩ := Leaf.not_isNamed_iff.1 hnot
    have hmem : (d.1, d.2) ∈ vs.entries := hentries ▸ List.mem_append_left _ hd
    rcases hfirst d.1 leaf' ⟨d.2, mem_entries_iff.1 hmem, hleaf', hname'⟩ with heq | hgt
    · exact String.lt_irrefl _ (heq ▸ hlt)
    · exact List.lt_asymm hgt (bytesOf_lt hlt)

end Variables

/-! ## The operation -/

section Operation

variable {R : Type} {catalog : Catalog R} {options : CompileOptions} {root : TypeShape R}
  {vs : Variables} {kind : OperationKind} {name : String}

/-- There is a header, or none is needed, if every type has a signature. -/
theorem exists_compileHeader_iff :
    (∃ header, compileHeader options kind vs = .ok header) ↔
      ∀ k v, vs.get? k = some v → v.type.leaf.IsNamed := by
  have hentries : (∀ k v, vs.get? k = some v → v.type.leaf.IsNamed) ↔
      ∃ text, Variables.declarations options (kind == .mutation) vs.entries = .ok text := by
    simp only [Variables.exists_declarations_iff, ← Variables.mem_entries_iff, Prod.forall]
  rw [hentries]
  simp only [compileHeader_eq_ok_iff]
  constructor
  · rintro ⟨header, ⟨hnil, -⟩ | ⟨-, text, htext, -⟩⟩
    · exact ⟨"", by rw [hnil]; rfl⟩
    · exact ⟨text, htext⟩
  · rintro ⟨text, htext⟩
    by_cases hnil : vs.entries = []
    · exact ⟨none, Or.inl ⟨hnil, rfl⟩⟩
    · exact ⟨some text, Or.inr ⟨hnil, text, htext, rfl⟩⟩

/-- The header is refused for the first fault. -/
theorem compileHeader_eq_error_iff {e : Error} :
    compileHeader options kind vs = .error e ↔
      ∃ name leaf, vs.HasFirstFault name leaf ∧ e = .unsupportedVariableType ⟨leaf⟩ := by
  have hheader : compileHeader options kind vs = .error e ↔
      ∃ cause, vs.header options (kind == .mutation) = .error cause ∧
        e = .unsupportedVariableType cause := by
    rw [compileHeader, Variables.isEmpty, Variables.header]
    cases vs.entries with
    | nil =>
      constructor
      · rintro ⟨⟩
      · rintro ⟨_, ⟨⟩, _⟩
    | cons d rest =>
      rw [List.isEmpty_cons, if_neg Bool.false_ne_true]
      cases Variables.declarations options (kind == .mutation) (d :: rest) <;> simp [eq_comm]
  simp only [hheader, Variables.header_eq_error_iff]
  constructor
  · rintro ⟨_, ⟨name, leaf, hfault, rfl⟩, rfl⟩
    exact ⟨name, leaf, hfault, rfl⟩
  · rintro ⟨name, leaf, hfault, rfl⟩
    exact ⟨_, ⟨name, leaf, hfault, rfl⟩, rfl⟩

/-- The selection is made before the header. -/
theorem compile_eq_error_iff {e : Error} :
    compile catalog options root vs kind name = .error e ↔
      compileSelection catalog options root = .error e ∨
        (∃ body, compileSelection catalog options root = .ok body) ∧
          compileHeader options kind vs = .error e := by
  rw [compile]
  cases compileSelection catalog options root with
  | error cause => simp [bind, Except.bind]
  | ok body => cases compileHeader options kind vs <;> simp [bind, Except.bind, pure, Except.pure]

/-- A text is put together from those of the selection and of the header. -/
theorem compile_eq_ok_iff_construct {text : String} :
    compile catalog options root vs kind name = .ok text ↔
      ∃ body header, compileSelection catalog options root = .ok body ∧
        compileHeader options kind vs = .ok header ∧
        text = construct options kind name header body := by
  simp only [compile_eq_ok_iff, compileSelection_eq_ok_iff]
  constructor
  · rintro ⟨s, header, hs, hheader, rfl⟩
    exact ⟨s.render, header, ⟨s, hs, rfl⟩, hheader, rfl⟩
  · rintro ⟨_, header, ⟨s, hs, rfl⟩, hheader, rfl⟩
    exact ⟨s, header, hs, hheader, rfl⟩

/-- **When an operation has a text, and which error there is otherwise.**  It has a text exactly if
the type has a selection and the type of every variable has a scalar or a name for a leaf.  The text
is put together with a header unless there are no variables, and the header is that of a mutation
exactly for mutations.  If the type has no selection, that is the error, whatever the variables are;
otherwise it is the leaf of the first variable, in the order of names, whose leaf is no name.  It
makes no difference in what order the variables were set, or how often. -/
theorem compile_outcome {R : Type} (catalog : Catalog R) (options : CompileOptions)
    (root : TypeShape R) (vs : Variables) (kind : OperationKind) (name : String) :
    ((∃ text, compile catalog options root vs kind name = .ok text) ↔
      (∃ body, compileSelection catalog options root = .ok body) ∧
        ∀ k v, vs.get? k = some v → v.type.leaf.IsNamed) ∧
    (∀ text, compile catalog options root vs kind name = .ok text ↔
      ∃ body header, compileSelection catalog options root = .ok body ∧
        (vs.length = 0 ∧ header = none ∨
          vs.length ≠ 0 ∧ ∃ h, vs.header options (kind == .mutation) = .ok h ∧
            header = some h) ∧
        text = construct options kind name header body) ∧
    (∀ e, compile catalog options root vs kind name = .error e ↔
      (∃ cause, compileSelection catalog options root = .error (.invalidShape cause) ∧
        e = .invalidShape cause) ∨
      (∃ body, compileSelection catalog options root = .ok body) ∧
        ∃ k leaf, vs.HasFirstFault k leaf ∧ e = .unsupportedVariableType ⟨leaf⟩) ∧
    ∀ changes, (∀ k, Variables.last? changes k = vs.get? k) →
      compile catalog options root (Variables.run changes) kind name =
        compile catalog options root vs kind name := by
  refine ⟨?_, fun text => ?_, fun e => ?_, fun changes h => ?_⟩
  · have hheader : (∃ header, compileHeader options kind vs = .ok header) ↔
        ∀ k v, vs.get? k = some v → v.type.leaf.IsNamed := exists_compileHeader_iff
    rw [← hheader]
    simp only [compile_eq_ok_iff_construct]
    constructor
    · rintro ⟨text, body, header, hbody, hheader, -⟩
      exact ⟨⟨body, hbody⟩, header, hheader⟩
    · rintro ⟨⟨body, hbody⟩, header, hheader⟩
      exact ⟨_, body, header, hbody, hheader, rfl⟩
  · rw [compile_eq_ok_iff_construct]
    simp only [compileHeader_eq_ok_iff, Variables.length, List.length_eq_zero_iff, ne_eq]
    rfl
  · rw [compile_eq_error_iff, compileHeader_eq_error_iff]
    refine or_congr_left ?_
    simp only [compileSelection_eq_error_iff]
    constructor
    · rintro ⟨cause, hcause, rfl⟩
      exact ⟨cause, ⟨cause, hcause, rfl⟩, rfl⟩
    · rintro ⟨_, ⟨cause, hcause, heq⟩, rfl⟩
      exact ⟨cause, hcause, heq⟩
  · have heq : Variables.run changes = vs := Variables.ext fun k => by
      rw [Variables.get?_run, h]
    rw [heq]

/-- Two variables whose types have no signature.  The one that was set last comes first. -/
def twoFaults : Variables :=
  ((Variables.empty.set "since" ⟨.named "2026", .null⟩).set "login" ⟨.scalar .string, .str "x"⟩).set
    "from" ⟨.list (.optional (.list (.named "Point!"))), .arr []⟩

/-- The same variables, set in another order, one of them twice. -/
def twoFaultsAgain : List Variables.Change :=
  [.set "from" ⟨.named "x y", .null⟩, .set "login" ⟨.scalar .string, .str "x"⟩,
    .set "from" ⟨.list (.optional (.list (.named "Point!"))), .arr []⟩,
    .set "since" ⟨.named "2026", .null⟩]

theorem compile_outcome_twoFaults :
    compile shelf {} (.record 0) twoFaults .query "Shelf" =
        .error (.unsupportedVariableType ⟨"Point!"⟩) ∧
      (∃ k, twoFaults.HasFirstFault k "Point!") ∧
      compile shelf {} (.record 0) (Variables.run twoFaultsAgain) .query "Shelf" =
        .error (.unsupportedVariableType ⟨"Point!"⟩) := by
  have h : compile shelf {} (.record 0) twoFaults .query "Shelf" =
      .error (.unsupportedVariableType ⟨"Point!"⟩) := rfl
  have hsame : ∀ k, Variables.last? twoFaultsAgain k = twoFaults.get? k :=
    fun k => (Variables.get?_run twoFaultsAgain k).symm
  obtain ⟨-, -, houtcome, hchanges⟩ :=
    compile_outcome shelf {} (.record 0) twoFaults .query "Shelf"
  refine ⟨h, ?_, (hchanges twoFaultsAgain hsame).trans h⟩
  rcases (houtcome _).1 h with ⟨cause, -, hcause⟩ | ⟨-, k, leaf, hfault, hleaf⟩
  · cases hcause
  · cases hleaf
    exact ⟨k, hfault⟩

end Operation

end TypedGraphQL
