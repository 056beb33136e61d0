import Mathlib.Combinatorics.SimpleGraph.Star
import TypedGraphQL.Proofs.Selection.Expansion
import TypedGraphQL.Proofs.Selection.Nesting

/-!
# Relations that form a forest

Records that point at each other are circular as types, and the walk remembers only the field by
which it entered a record, not the records it has been to.  This is enough if the relations between
the records form a forest.  A walk that never turns back is a path there, and so it comes to every
record that can be reached, once, and then it ends.

## What is here

* `Beyond` — what can be reached from a vertex without the one before it; `beyond_iff` takes the
  first step.
* `Catalog.relations`, `Catalog.IsForest` — the graph of the relations, and what a forest is.
* `Guards` — the inverse that a record was entered with leaves out just the way back.
* `Covers` — some records are expanded, each once, and each with its scalar fields.
* `exists_gather`, `exists_kept` — the fields of a record, and the records below it by induction on
  the levels.  There are enough levels for the records that are still to come.
* `selection_of_forest` — the selection of a record in a forest.
-/

set_option autoImplicit false

namespace TypedGraphQL

/-! ## Paths that do not turn back -/

section Graph

variable {V : Type} {G : SimpleGraph V} {origin : Option V} {r c c' v : V}

/-- A path leads from `r` to `v` that does not visit the origin. -/
def Beyond (G : SimpleGraph V) (origin : Option V) (r v : V) : Prop :=
  ∃ p : G.Walk r v, p.IsPath ∧ ∀ u ∈ origin, u ∉ p.support

theorem beyond_none_iff : Beyond G none r v ↔ G.Reachable r v := by
  constructor
  · rintro ⟨p, -, -⟩
    exact p.reachable
  · intro h
    obtain ⟨p, hp⟩ := h.exists_isPath
    exact ⟨p, hp, nofun⟩

theorem not_beyond_origin : ¬ Beyond G (some r) c r := by
  rintro ⟨p, -, hp⟩
  exact hp r rfl p.end_mem_support

theorem beyond_self (h : ∀ u ∈ origin, G.Adj u r) : Beyond G origin r r := by
  refine ⟨.nil, .nil, fun u hu hmem => ?_⟩
  rw [SimpleGraph.Walk.support_nil, List.mem_singleton] at hmem
  exact (h u hu).ne hmem

/-- A step away from the origin, if there is no cycle. -/
theorem beyond_of_adj (hG : G.IsAcyclic) (h : ∀ u ∈ origin, G.Adj u r) (hadj : G.Adj r c)
    (hc : c ∉ origin) (hv : Beyond G (some r) c v) : Beyond G origin r v := by
  obtain ⟨p, hp, hr⟩ := hv
  have hpath : (SimpleGraph.Walk.cons hadj p).IsPath := hp.cons (hr r rfl)
  refine ⟨.cons hadj p, hpath, fun u hu hmem => hc ?_⟩
  -- the origin is a neighbour of `r`, so a path through it begins with it
  have hsnd := hG.eq_snd_of_adj_start hpath (h u hu).symm hmem
  rw [SimpleGraph.Walk.snd_cons] at hsnd
  exact hsnd ▸ hu

/-- **The first step of a path that does not turn back.** -/
theorem beyond_iff (hG : G.IsAcyclic) (h : ∀ u ∈ origin, G.Adj u r) :
    Beyond G origin r v ↔ v = r ∨ ∃ c, G.Adj r c ∧ c ∉ origin ∧ Beyond G (some r) c v := by
  constructor
  · rintro ⟨p, hp, horigin⟩
    cases p with
    | nil => exact Or.inl rfl
    | @cons _ c _ hadj p =>
      obtain ⟨hp, hr⟩ := (SimpleGraph.Walk.cons_isPath_iff hadj p).1 hp
      refine Or.inr ⟨c, hadj, fun hc => ?_, p, hp, ?_⟩
      · exact horigin c hc (List.mem_cons_of_mem _ p.start_mem_support)
      · rintro u ⟨⟩
        exact hr
  · rintro (rfl | ⟨c, hadj, hc, hv⟩)
    · exact beyond_self h
    · exact beyond_of_adj hG h hadj hc hv

/-- **Different steps lead to different vertices.** -/
theorem eq_of_beyond (hG : G.IsAcyclic) (hadj : G.Adj r c) (hadj' : G.Adj r c')
    (hv : Beyond G (some r) c v) (hv' : Beyond G (some r) c' v) : c = c' := by
  obtain ⟨p, hp, hr⟩ := hv
  obtain ⟨q, hq, hr'⟩ := hv'
  let P : G.Path r v := ⟨.cons hadj p, hp.cons (hr r rfl)⟩
  let Q : G.Path r v := ⟨.cons hadj' q, hq.cons (hr' r rfl)⟩
  have hsame : P = Q := (hG.subsingleton_path r v).elim P Q
  have hsnd : P.1.snd = Q.1.snd := congrArg (fun path => path.1.snd) hsame
  simpa only [P, Q, SimpleGraph.Walk.snd_cons] using hsnd

end Graph

/-! ## Relations -/

section Forest

variable {R : Type} {catalog : Catalog R} {records : Finset R} {r child : R}

/-- Some records, and an edge where a field of one of them leads to another. -/
def Catalog.relations (catalog : Catalog R) (records : Finset R) : SimpleGraph R :=
  SimpleGraph.fromRel fun a b =>
    a ∈ records ∧ ∃ f ∈ (catalog a).fields, f.type.element = .record b

/-- **The relations between some records form a forest.**  Each is declared on both sides, by two
fields that are the inverse of each other. -/
structure Catalog.IsForest (catalog : Catalog R) (records : Finset R) : Prop where
  /-- The fields of these records lead to these records only. -/
  closed : catalog.IsClosed records
  /-- A record has every name only once. -/
  names : ∀ r ∈ records, ((catalog r).fields.map FieldShape.resolvedName?).Nodup
  /-- No field is embedded or left out by its tag. -/
  plain : ∀ r ∈ records, ∀ f ∈ (catalog r).fields,
    f.embedded = false ∧ f.tag ≠ some FieldShape.omitTag
  /-- A field that leads to a record and a field that leads back name each other. -/
  paired : ∀ r ∈ records, ∀ f ∈ (catalog r).fields, ∀ child, f.type.element = .record child →
    ∃ g ∈ (catalog child).fields, g.type.element = .record r ∧
      f.inverse = g.resolvedName? ∧ g.inverse = f.resolvedName?
  /-- No record is related to itself. -/
  loopless : ∀ r ∈ records, ∀ f ∈ (catalog r).fields, f.type.element ≠ .record r
  /-- Two records are related at most once. -/
  single : ∀ r ∈ records, ∀ f ∈ (catalog r).fields, ∀ g ∈ (catalog r).fields, ∀ child,
    f.type.element = .record child → g.type.element = .record child → f = g
  /-- There is no cycle. -/
  acyclic : (catalog.relations records).IsAcyclic

/-- The fields of a record show all its relations. -/
theorem Catalog.IsForest.adj_iff (hforest : catalog.IsForest records) (hr : r ∈ records) :
    (catalog.relations records).Adj r child ↔
      ∃ f ∈ (catalog r).fields, f.type.element = .record child := by
  rw [Catalog.relations, SimpleGraph.fromRel_adj]
  constructor
  · rintro ⟨-, ⟨-, h⟩ | ⟨hchild, f, hf, hback⟩⟩
    · exact h
    · obtain ⟨g, hg, hto, -, -⟩ := hforest.paired child hchild f hf r hback
      exact ⟨g, hg, hto⟩
  · rintro ⟨f, hf, hto⟩
    refine ⟨?_, Or.inl ⟨hr, f, hf, hto⟩⟩
    rintro rfl
    exact hforest.loopless r hr f hf hto

/-! ## The guard -/

/-- **The inverse leaves out the way back**: it is the name of those fields that lead to the
origin. -/
def Guards (catalog : Catalog R) (r : R) (origin : Option R) (inverse : Option String) : Prop :=
  ∀ f ∈ (catalog r).fields, ∀ name, f.resolvedName? = some name →
    (inverse = some name ↔ ∃ u ∈ origin, f.type.element = .record u)

theorem guards_none : Guards catalog r none none :=
  fun _ _ _ _ => ⟨nofun, nofun⟩

/-- **The inverse of a field leaves out the way back.**  It is the name of the one field that leads
to the record of this field. -/
theorem Catalog.IsForest.guards (hforest : catalog.IsForest records) (hr : r ∈ records)
    {f : FieldShape R} (hf : f ∈ (catalog r).fields) (hto : f.type.element = .record child) :
    Guards catalog child (some r) f.inverse := by
  have hchild : child ∈ records := hforest.closed r hr f hf child hto
  obtain ⟨back, hback, hbackTo, hinverse, -⟩ := hforest.paired r hr f hf child hto
  intro g hg name hname
  constructor
  · intro h
    have hsame : g.resolvedName? = back.resolvedName? := hname.trans (h.symm.trans hinverse)
    have heq : g = back := List.inj_on_of_nodup_map (hforest.names child hchild) hg hback hsame
    exact ⟨r, rfl, heq ▸ hbackTo⟩
  · rintro ⟨_, ⟨⟩, hgTo⟩
    have heq : g = back := hforest.single child hchild g hg back hback r hgTo hbackTo
    rw [hinverse, ← heq, hname]

section Role

variable {origin : Option R} {inverse : Option String} {f : FieldShape R} {name : String}

theorem Catalog.IsForest.exists_name (hforest : catalog.IsForest records) (hr : r ∈ records)
    (hf : f ∈ (catalog r).fields) : ∃ name, f.resolvedName? = some name := by
  obtain ⟨-, htag⟩ := hforest.plain r hr f hf
  exact Option.ne_none_iff_exists'.1 (mt FieldShape.resolvedName?_eq_none_iff.1 htag)

theorem Catalog.IsForest.not_isInlined (hforest : catalog.IsForest records) (hr : r ∈ records)
    (hf : f ∈ (catalog r).fields) : f.isInlined = false := by
  obtain ⟨hembedded, -⟩ := hforest.plain r hr f hf
  rw [FieldShape.isInlined, hembedded, Bool.false_and]

/-- A scalar field is never taken for the way back. -/
theorem Catalog.IsForest.role_of_scalar (hforest : catalog.IsForest records) (hr : r ∈ records)
    (hguards : Guards catalog r origin inverse) (hf : f ∈ (catalog r).fields)
    (hname : f.resolvedName? = some name) (hscalar : f.type.record? = none) (typeName : String) :
    f.role typeName inverse = .leaf ⟨name, f.arguments⟩ := by
  have hne : inverse ≠ some name := by
    intro h
    obtain ⟨u, -, hu⟩ := (hguards f hf name hname).1 h
    rw [TypeShape.element_eq_scalar_iff.2 hscalar] at hu
    cases hu
  exact FieldShape.role_eq_leaf_iff.2 ⟨⟨hname, hne⟩, hforest.not_isInlined hr hf, hscalar, rfl⟩

/-- The way back is passed over. -/
theorem Guards.role_of_back (hguards : Guards catalog r origin inverse)
    (hf : f ∈ (catalog r).fields) (hto : f.type.element = .record child) (hback : child ∈ origin)
    (typeName : String) : f.role typeName inverse = .skipped :=
  FieldShape.role_of_not_keptAs fun name hk =>
    hk.2 ((hguards f hf name hk.1).2 ⟨child, hback, hto⟩)

/-- Every other way is taken. -/
theorem Catalog.IsForest.role_of_onward (hforest : catalog.IsForest records) (hr : r ∈ records)
    (hguards : Guards catalog r origin inverse) (hf : f ∈ (catalog r).fields)
    (hname : f.resolvedName? = some name) (hto : f.type.element = .record child)
    (honward : child ∉ origin) (typeName : String) :
    f.role typeName inverse = .branch ⟨name, f.arguments⟩ child := by
  have hne : inverse ≠ some name := by
    intro h
    obtain ⟨u, hu, huTo⟩ := (hguards f hf name hname).1 h
    cases hto.symm.trans huTo
    exact honward hu
  exact FieldShape.role_eq_branch_iff.2
    ⟨⟨hname, hne⟩, hforest.not_isInlined hr hf, TypeShape.record?_eq_some_iff.2 hto, rfl⟩

end Role

/-! ## What is expanded -/

/-- **Some records are expanded, each once**: what is found are these records with the given sets,
and every set has the scalar fields of its record. -/
structure Covers (catalog : Catalog R) (found : List (R × SelectionSet)) (sets : List SelectionSet)
    (reached : R → Prop) : Prop where
  /-- No record is expanded twice. -/
  nodup : (found.map Prod.fst).Nodup
  /-- The records that are expanded. -/
  mem_iff : ∀ v, v ∈ found.map Prod.fst ↔ reached v
  /-- No set belongs to anything else. -/
  sets_eq : found.map Prod.snd = sets
  /-- The entries without a set below are those of the scalar fields. -/
  leaves_eq : ∀ e ∈ found, e.2.leaves = (catalog e.1).scalarEntries

namespace Covers

variable {found found' : List (R × SelectionSet)} {sets sets' : List SelectionSet}
  {reached reached' : R → Prop}

theorem congr (h : Covers catalog found sets reached) (heq : ∀ v, reached v ↔ reached' v) :
    Covers catalog found sets reached' :=
  ⟨h.nodup, fun v => (h.mem_iff v).trans (heq v), h.sets_eq, h.leaves_eq⟩

theorem nil : Covers catalog [] [] fun _ => False :=
  ⟨List.nodup_nil, fun _ => List.mem_nil_iff _, rfl, List.forall_mem_nil _⟩

/-- Two groups of records that have none in common. -/
theorem append (h : Covers catalog found sets reached) (h' : Covers catalog found' sets' reached')
    (hdisjoint : ∀ v, reached v → ¬ reached' v) :
    Covers catalog (found ++ found') (sets ++ sets') fun v => reached v ∨ reached' v where
  nodup := by
    rw [List.map_append]
    exact h.nodup.append h'.nodup fun v hv hv' =>
      hdisjoint v ((h.mem_iff v).1 hv) ((h'.mem_iff v).1 hv')
  mem_iff v := by
    rw [List.map_append, List.mem_append, h.mem_iff, h'.mem_iff]
  sets_eq := by
    rw [List.map_append, h.sets_eq, h'.sets_eq]
  leaves_eq := List.forall_mem_append.2 ⟨h.leaves_eq, h'.leaves_eq⟩

/-- A record and others below it. -/
theorem cons {s : SelectionSet} (h : Covers catalog found sets reached) (hr : ¬ reached r)
    (hleaves : s.leaves = (catalog r).scalarEntries) :
    Covers catalog ((r, s) :: found) (s :: sets) fun v => v = r ∨ reached v where
  nodup := List.nodup_cons.2 ⟨mt (h.mem_iff r).1 hr, h.nodup⟩
  mem_iff v := by
    rw [List.map_cons, List.mem_cons, h.mem_iff]
  sets_eq := by
    rw [List.map_cons, h.sets_eq]
  leaves_eq := List.forall_mem_cons.2 ⟨hleaves, h.leaves_eq⟩

end Covers

/-! ## The walk -/

section Walk

variable {origin : Option R} {inverse : Option String} {f : FieldShape R}
  {fields : List (FieldShape R)} {v : R}

/-- The records that are still to come below the given fields of `r`. -/
def Ahead (catalog : Catalog R) (records : Finset R) (origin : Option R) (r : R)
    (fields : List (FieldShape R)) (v : R) : Prop :=
  ∃ f ∈ fields, ∃ c, f.type.element = .record c ∧ c ∉ origin ∧
    Beyond (catalog.relations records) (some r) c v

/-- A scalar field and the way back add no record. -/
theorem ahead_cons_iff_of_back (h : ∀ c, f.type.element = .record c → c ∈ origin) :
    Ahead catalog records origin r (f :: fields) v ↔ Ahead catalog records origin r fields v := by
  refine (List.exists_mem_cons_iff _ _ _).trans (or_iff_right ?_)
  rintro ⟨c, hto, hc, -⟩
  exact hc (h c hto)

/-- A field that leads onward adds the records beyond it. -/
theorem ahead_cons_iff_of_onward (hto : f.type.element = .record child) (hc : child ∉ origin) :
    Ahead catalog records origin r (f :: fields) v ↔
      Beyond (catalog.relations records) (some r) child v ∨
        Ahead catalog records origin r fields v := by
  refine (List.exists_mem_cons_iff _ _ _).trans (or_congr ⟨?_, fun hv => ?_⟩ Iff.rfl)
  · rintro ⟨c, hto', -, hv⟩
    cases hto.symm.trans hto'
    exact hv
  · exact ⟨child, hto, hc, hv⟩

/-- All fields together lead to everything beyond the record but itself. -/
theorem Catalog.IsForest.beyond_iff (hforest : catalog.IsForest records) (hr : r ∈ records)
    (horigin : ∀ u ∈ origin, (catalog.relations records).Adj u r) :
    Beyond (catalog.relations records) origin r v ↔
      v = r ∨ Ahead catalog records origin r (catalog r).fields v := by
  rw [TypedGraphQL.beyond_iff hforest.acyclic horigin]
  refine or_congr Iff.rfl ⟨?_, ?_⟩
  · rintro ⟨c, hadj, hc, hv⟩
    obtain ⟨f, hf, hto⟩ := (hforest.adj_iff hr).1 hadj
    exact ⟨f, hf, c, hto, hc, hv⟩
  · rintro ⟨f, hf, c, hto, hc, hv⟩
    exact ⟨c, (hforest.adj_iff hr).2 ⟨f, hf, hto⟩, hc, hv⟩

/-- What lies beyond one field is not ahead of the others. -/
theorem Catalog.IsForest.not_ahead (hforest : catalog.IsForest records) (hr : r ∈ records)
    (hfields : ∀ g ∈ f :: fields, g ∈ (catalog r).fields) (hnew : f ∉ fields)
    (hto : f.type.element = .record child)
    (hv : Beyond (catalog.relations records) (some r) child v) :
    ¬ Ahead catalog records origin r fields v := by
  rintro ⟨g, hg, c, hgTo, -, hv'⟩
  obtain ⟨hf, hrest⟩ := List.forall_mem_cons.1 hfields
  have hadj := (hforest.adj_iff hr).2 ⟨f, hf, hto⟩
  have hadj' := (hforest.adj_iff hr).2 ⟨g, hrest g hg, hgTo⟩
  obtain rfl := eq_of_beyond hforest.acyclic hadj hadj' hv hv'
  exact hnew (hforest.single r hr f hf g (hrest g hg) child hto hgTo ▸ hg)

/-- **The fields of a record**, given what becomes of the records below.  The induction is on some
of the fields. -/
theorem exists_gather (hforest : catalog.IsForest records) (hr : r ∈ records)
    (hguards : Guards catalog r origin inverse)
    (enter : Option String → R → Except ShapeError SelectionSet) (typeName : String)
    (henter : ∀ f ∈ (catalog r).fields, ∀ c, f.type.element = .record c → c ∉ origin →
      ∃ s, enter f.inverse c = .ok s ∧
        Covers catalog (s.expansions catalog c) s.sets
          (Beyond (catalog.relations records) (some r) c))
    (hfields : ∀ f ∈ fields, f ∈ (catalog r).fields) (hnodup : fields.Nodup) :
    ∃ s, gather enter typeName inverse fields = .ok s ∧
      s.leaves = fields.filterMap FieldShape.leaf? ∧
      Covers catalog (s.expandedBelow catalog r) s.innerSets
        (Ahead catalog records origin r fields) := by
  induction fields with
  | nil =>
    have hnone : ∀ v, False ↔ Ahead catalog records origin r [] v :=
      fun v => iff_of_false id nofun
    exact ⟨.nil, rfl, rfl, Covers.nil.congr hnone⟩
  | cons f fields ih =>
    obtain ⟨hf, hrest⟩ := List.forall_mem_cons.1 hfields
    obtain ⟨hnew, hnodup⟩ := List.nodup_cons.1 hnodup
    obtain ⟨rest, hgather, hleaves, hcovers⟩ := ih hrest hnodup
    obtain ⟨name, hname⟩ := hforest.exists_name hr hf
    simp only [gather_cons_eq_ok_iff]
    cases hrecord : f.type.record? with
    | none =>
      rw [hforest.role_of_scalar hr hguards hf hname hrecord typeName,
        List.filterMap_cons_some (FieldShape.leaf?_of_scalar hname hrecord), ← hleaves]
      refine ⟨.leaf ⟨name, f.arguments⟩ rest, ⟨rest, hgather, rfl⟩, rfl, hcovers.congr fun v => ?_⟩
      refine (ahead_cons_iff_of_back fun c hto => ?_).symm
      cases (TypeShape.element_eq_scalar_iff.2 hrecord).symm.trans hto
    | some c =>
      have hto : f.type.element = .record c := TypeShape.record?_eq_some_iff.1 hrecord
      rw [List.filterMap_cons_none (FieldShape.leaf?_of_record hrecord)]
      by_cases hc : c ∈ origin
      · rw [hguards.role_of_back hf hto hc typeName]
        refine ⟨rest, hgather, hleaves, hcovers.congr fun v => ?_⟩
        refine (ahead_cons_iff_of_back fun c' hto' => ?_).symm
        cases hto.symm.trans hto'
        exact hc
      · rw [hforest.role_of_onward hr hguards hf hname hto hc typeName]
        obtain ⟨children, hchildren, hbelow⟩ := henter f hf c hto hc
        refine ⟨.branch ⟨name, f.arguments⟩ children rest,
          ⟨children, rest, hchildren, hgather, rfl⟩, hleaves, ?_⟩
        have hchild : catalog.child? r name = some c :=
          (child?_of_mem (hforest.names r hr) hf hname).trans hrecord
        rw [SelectionSet.expandedBelow_branch hchild]
        have hdisjoint : ∀ v, Beyond (catalog.relations records) (some r) c v →
            ¬ Ahead catalog records origin r fields v :=
          fun v => hforest.not_ahead hr hfields hnew hto
        exact (hbelow.append hcovers hdisjoint).congr fun v =>
          (ahead_cons_iff_of_onward hto hc).symm

open scoped Classical in
/-- How many of the records can be reached from `r` without the origin. -/
noncomputable def toCome (catalog : Catalog R) (records : Finset R) (origin : Option R) (r : R) :
    Nat :=
  (records.filter (Beyond (catalog.relations records) origin r)).card

theorem toCome_le : toCome catalog records origin r ≤ records.card := by
  classical
  exact Finset.card_filter_le _ _

theorem toCome_pos (hr : r ∈ records)
    (horigin : ∀ u ∈ origin, (catalog.relations records).Adj u r) :
    0 < toCome catalog records origin r := by
  classical
  exact Finset.card_pos.2 ⟨r, Finset.mem_filter.2 ⟨hr, beyond_self horigin⟩⟩

/-- A step onward leaves fewer records to come, since there is no way back to `r`. -/
theorem Catalog.IsForest.toCome_lt (hforest : catalog.IsForest records) (hr : r ∈ records)
    (horigin : ∀ u ∈ origin, (catalog.relations records).Adj u r)
    (hadj : (catalog.relations records).Adj r child) (hc : child ∉ origin) :
    toCome catalog records (some r) child < toCome catalog records origin r := by
  classical
  refine Finset.card_lt_card (Finset.ssubset_iff_of_subset ?_ |>.2 ⟨r, ?_, ?_⟩)
  · intro v hv
    obtain ⟨hmem, hv⟩ := Finset.mem_filter.1 hv
    exact Finset.mem_filter.2 ⟨hmem, beyond_of_adj hforest.acyclic horigin hadj hc hv⟩
  · exact Finset.mem_filter.2 ⟨hr, beyond_self horigin⟩
  · exact fun hmem => not_beyond_origin (Finset.mem_filter.1 hmem).2

/-- **The records beyond `r` are expanded once each**, if there are as many levels as records. -/
theorem exists_kept (hforest : catalog.IsForest records) (limit : Nat) {levels : Nat} (hr : r ∈ records)
    (horigin : ∀ u ∈ origin, (catalog.relations records).Adj u r)
    (hguards : Guards catalog r origin inverse)
    (hlevels : toCome catalog records origin r ≤ levels) :
    ∃ s, kept catalog limit levels inverse (catalog r) = .ok s ∧
      Covers catalog (s.expansions catalog r) s.sets
        (Beyond (catalog.relations records) origin r) := by
  induction levels generalizing origin inverse r with
  | zero => exact absurd hlevels (Nat.not_le.2 (toCome_pos hr horigin))
  | succ levels ih =>
    have henter : ∀ f ∈ (catalog r).fields, ∀ c, f.type.element = .record c → c ∉ origin →
        ∃ s, kept catalog limit levels f.inverse (catalog c) = .ok s ∧
          Covers catalog (s.expansions catalog c) s.sets
            (Beyond (catalog.relations records) (some r) c) := by
      intro f hf c hto hc
      have hadj := (hforest.adj_iff hr).2 ⟨f, hf, hto⟩
      have hlt := hforest.toCome_lt hr horigin hadj hc
      refine ih (hforest.closed r hr f hf c hto) ?_ (hforest.guards hr hf hto) (by omega)
      rintro u ⟨⟩
      exact hadj
    have hnodup : (catalog r).fields.Nodup := List.Nodup.of_map _ (hforest.names r hr)
    obtain ⟨s, hgather, hleaves, hcovers⟩ :=
      exists_gather hforest hr hguards
        (fun inv c => kept catalog limit levels inv (catalog c)) (catalog r).typeName henter
        (fun f hf => hf) hnodup
    refine ⟨s, hgather, (hcovers.cons ?_ hleaves).congr fun v => ?_⟩
    · rintro ⟨f, hf, c, hto, hc, hv⟩
      exact not_beyond_origin hv
    · exact (hforest.beyond_iff hr horigin).symm

/-- Everything that can be reached in a forest is one of its records. -/
theorem Catalog.IsForest.mem_of_reachable (hforest : catalog.IsForest records) (hr : r ∈ records)
    (h : (catalog.relations records).Reachable r v) : v ∈ records := by
  obtain ⟨p⟩ := h
  induction p with
  | nil => exact hr
  | cons hadj p ih =>
    obtain ⟨f, hf, hto⟩ := (hforest.adj_iff hr).1 hadj
    exact ih (hforest.closed _ hr f hf _ hto)

/-- **The selection of a record in a forest.**  It is made if the limit is no less than the number
of records.  Every record that is related to the root, in however many steps, is expanded once, and
no other record is; each has its scalar fields, every one of them once. -/
theorem selection_of_forest (hforest : catalog.IsForest records) {root : TypeShape R}
    (hroot : root.element = .record r) (hr : r ∈ records) {options : CompileOptions}
    (hlimit : records.card ≤ options.maxDepth) :
    ∃ s, select catalog options.maxDepth root = .ok s ∧
      compileSelection catalog options root = .ok s.render ∧
      Covers catalog (s.expansions catalog r) s.sets ((catalog.relations records).Reachable r) ∧
      ∀ e ∈ s.expansions catalog r, (e.2.leaves.map (·.name)).Nodup := by
  obtain ⟨s, hkept, hcovers⟩ := exists_kept hforest options.maxDepth hr (by nofun) guards_none
    (toCome_le.trans hlimit)
  have hselect : select catalog options.maxDepth root = .ok s := by
    rw [select, TypeShape.record?_eq_some_iff.2 hroot]
    exact hkept
  have hreached := hcovers.congr fun v => beyond_none_iff
  refine ⟨s, hselect, compileSelection_eq_ok_iff.2 ⟨s, hselect, rfl⟩, hreached, fun e he => ?_⟩
  have hmem : e.1 ∈ records :=
    hforest.mem_of_reachable hr ((hreached.mem_iff e.1).1 (List.mem_map_of_mem he))
  rw [hreached.leaves_eq e he]
  exact nodup_scalarEntries (hforest.names e.1 hmem)

end Walk

end Forest

/-! ## A forum -/

/-- The records of a forum. -/
inductive ForumRecord
  | author
  | post
  | comment
  | label
  | notice
  deriving DecidableEq

instance : Fintype ForumRecord where
  elems := {.author, .post, .comment, .label, .notice}
  complete r := by cases r <;> decide

/-- Authors, comments and labels are related to posts, and notices to nothing. -/
def forum : Catalog ForumRecord
  | .author => ⟨"Author", [{ ident := "login", type := .scalar },
      { ident := "posts", inverse := some "author", type := .list (.record .post) }]⟩
  | .post => ⟨"Post", [{ ident := "title", type := .scalar },
      { ident := "author", inverse := some "posts", type := .record .author },
      { ident := "comments", inverse := some "post", arguments := some "(first:10)",
        type := .list (.record .comment) },
      { ident := "labels", inverse := some "posts", type := .list (.record .label) }]⟩
  | .comment => ⟨"Comment", [{ ident := "post", inverse := some "comments", type := .record .post },
      { ident := "text", type := .scalar }, { ident := "created_at", type := .scalar }]⟩
  | .label => ⟨"Label", [{ ident := "name", type := .scalar },
      { ident := "posts", inverse := some "labels", type := .list (.record .post) }]⟩
  | .notice => ⟨"Notice", [{ ident := "text", type := .scalar }]⟩

theorem isForest_forum : forum.IsForest Finset.univ where
  closed _ _ _ _ _ _ := Finset.mem_univ _
  names := by decide
  plain := by decide
  paired := by decide
  loopless := by decide
  single := by decide
  acyclic := by
    -- every relation is one of posts
    have hstar : forum.relations Finset.univ ≤ SimpleGraph.starGraph ForumRecord.post := by
      intro a b
      rw [Catalog.relations, SimpleGraph.fromRel_adj, SimpleGraph.starGraph_adj]
      revert a b
      decide
    exact (SimpleGraph.isAcyclic_starGraph ForumRecord.post).anti hstar

/-- What is selected from a list of authors. -/
def forumText : String :=
  "\x7blogin,posts\x7btitle,comments(first:10)\x7btext,createdAt\x7d,labels\x7bname\x7d\x7d\x7d"

/-- From the authors one comes to everything but the notices. -/
theorem selection_of_forest_forum :
    forum.IsForest Finset.univ ∧ (Finset.univ : Finset ForumRecord).card = 5 ∧
      ∃ s : SelectionSet,
        compileSelection forum { maxDepth := 5 } (.list (.record .author)) = .ok s.render ∧
          s.render = forumText ∧
          Covers forum (s.expansions forum .author) s.sets
            ((forum.relations Finset.univ).Reachable .author) := by
  have hselection := @selection_of_forest _ forum Finset.univ .author isForest_forum
    (.list (.record .author)) rfl (Finset.mem_univ _) { maxDepth := 5 } (by decide)
  have hcomputed :
      compileSelection forum { maxDepth := 5 } (.list (.record .author)) = .ok forumText := rfl
  obtain ⟨s, -, htext, hcovers, -⟩ := hselection
  exact ⟨isForest_forum, rfl, s, htext, Except.ok.inj (htext.symm.trans hcomputed), hcovers⟩

end TypedGraphQL
