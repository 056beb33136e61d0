import TypedGraphQL.Proofs.Selection.Kept
import TypedGraphQL.Proofs.Selection.Reader
import TypedGraphQL.Proofs.Selection.Text

/-!
# What the text of a selection says

The text is written in one pass, with a flag for the commas, over shapes that may run in circles.
This file puts together that it nevertheless says what it should: it is the text of the kept tree of
the record, and whoever reads it gets this tree back.
-/

set_option autoImplicit false

namespace TypedGraphQL

/-- **The text of a selection is that of the kept tree**, of which there is only one.  If the texts
of the entries can be told from the marks around them, reading the text gives the tree back, every
entry with its name and arguments as one text, and there is no other tree of such entries whose text
it is. -/
theorem compileSelection_reads_back {R : Type} {catalog : Catalog R} {options : CompileOptions}
    {root : TypeShape R} {text : String} (h : compileSelection catalog options root = .ok text) :
    ∃ r s, root.element = .record r ∧ KeptTree catalog none (catalog r).fields s ∧
      (∀ s', KeptTree catalog none (catalog r).fields s' → s' = s) ∧ text = s.render ∧
      ((∀ e ∈ s.entries, e.Readable) → SelectionSet.read? text = some s.plain ∧
        ∀ s' : SelectionSet, s'.IsPlain ∧ s'.render = text ↔ s' = s.plain) := by
  obtain ⟨s, hs, rfl⟩ := compileSelection_eq_ok_iff.1 h
  obtain ⟨r, hr, htree⟩ := keptTree_of_select hs
  refine ⟨r, s, hr, htree, fun s' h' => h'.unique htree, rfl, fun hreadable => ?_⟩
  have hread : SelectionSet.read? s.render = some s.plain := SelectionSet.read?_render hreadable
  refine ⟨hread, fun s' => ?_⟩
  rw [← SelectionSet.read?_eq_some_iff, hread, Option.some_inj]
  exact eq_comm

/-- Authors and their posts, which point back to the author and carry the fields of a stamp. -/
def blog : Catalog (Fin 3)
  | 0 => ⟨"Author", [{ ident := "name", type := .scalar },
      { ident := "posts", arguments := some "(first:2)", inverse := some "author",
        type := .list (.record 1) }]⟩
  | 1 => ⟨"Post", [{ ident := "draft", tag := some "-", type := .scalar },
      { ident := "stamp", embedded := true, type := .record 2 },
      { ident := "author", inverse := some "posts", type := .record 0 }]⟩
  | 2 => ⟨"Stamp", [{ ident := "CreatedAt", type := .scalar }, { ident := "by", type := .scalar }]⟩

theorem compileSelection_reads_back_blog :
    compileSelection blog {} (.optional (.record 0)) =
        .ok "\x7bname,posts(first:2)\x7bcreatedAt,by\x7d\x7d" ∧
      ∃ s, KeptTree blog none (blog 0).fields s ∧
        SelectionSet.read? "\x7bname,posts(first:2)\x7bcreatedAt,by\x7d\x7d" = some s.plain := by
  have h : compileSelection blog {} (.optional (.record 0)) =
      .ok "\x7bname,posts(first:2)\x7bcreatedAt,by\x7d\x7d" := rfl
  obtain ⟨r, s, hr, htree, hunique, -, hread⟩ := compileSelection_reads_back h
  obtain rfl : 0 = r := TypeShape.record.inj hr
  have hselect : select blog 64 (.record 0) = .ok (.leaf ⟨"name", none⟩
      (.branch ⟨"posts", some "(first:2)"⟩
        (.leaf ⟨"createdAt", none⟩ (.leaf ⟨"by", none⟩ .nil)) .nil)) := rfl
  obtain ⟨r, hr', hkept⟩ := keptTree_of_select hselect
  obtain rfl : 0 = r := TypeShape.record.inj hr'
  obtain rfl := hunique _ hkept
  exact ⟨h, _, htree, (hread (by decide)).1⟩

end TypedGraphQL
