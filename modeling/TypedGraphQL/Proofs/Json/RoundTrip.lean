import TypedGraphQL.Proofs.Json.ObjectWriter
import TypedGraphQL.Proofs.Json.Scan
import TypedGraphQL.Proofs.Json.Whole

/-!
# A value comes back from its text

The compact text of a value is parsed into the tree of the value, without damage and with nothing
left over.  This holds for values whose numbers are integers of 64 bits; a floating-point number is
read by a rule of its own and may come back as its neighbour.

## What is here

* `IsIntegral` — the values.
* `Builder.AwaitsValue`, `Builder.AwaitsKey` — a value, or a key, is due.
* `ComesBack` — where a value is due, the text of a value puts its tree there, whatever follows.
* `comesBack_of_isIntegral` — every such value comes back, by induction on it.
* `parse_render` — the text of a value as a whole.
-/

set_option autoImplicit false

namespace TypedGraphQL.Json

/-- All numbers in the value are integers that fit 64 bits, signed or unsigned. -/
inductive IsIntegral : Json → Prop
  | null : IsIntegral .null
  | bool (b : Bool) : IsIntegral (.bool b)
  | int {i : Int} (hleast : minSigned ≤ i) (hgreatest : i ≤ maxUnsigned) : IsIntegral (.int i)
  | str (s : String) : IsIntegral (.str s)
  | arr {items : List Json} (h : ∀ v ∈ items, IsIntegral v) : IsIntegral (.arr items)
  | obj {members : List (String × Json)} (h : ∀ e ∈ members, IsIntegral e.2) :
    IsIntegral (.obj members)

/-! ## What is due -/

namespace Builder

/-- A value is due, and it goes into `around`.  The end of an array may be due as well. -/
def AwaitsValue (state : Builder) (around : List Frame) : Prop :=
  ∀ t, t ≠ .closeArray → state.step t = startValue t around

/-- A key is due, behind some members of an object.  The end of the object may be due as well. -/
def AwaitsKey (state : Builder) (members : List (Option String × ParseTree))
    (around : List Frame) : Prop :=
  ∀ t, t ≠ .closeObject → state.step t = startKey t members around

variable {around : List Frame}

theorem awaitsValue_value : (value around).AwaitsValue around :=
  fun _ _ => rfl

theorem awaitsValue_firstItem : (firstItem around).AwaitsValue (.item [] :: around) :=
  fun _ ht => step_firstItem ht

theorem awaitsKey_firstKey : (firstKey around).AwaitsKey [] around :=
  fun _ ht => step_firstKey ht

theorem awaitsKey_nextKey (members : List (Option String × ParseTree)) :
    (nextKey members around).AwaitsKey members around :=
  fun _ _ => rfl

end Builder

/-! ## Values, items and members -/

open Builder

/-- Where a value is due, the text of `v` puts the tree of `v` there. -/
def ComesBack (v : Json) : Prop :=
  ∀ (state : Builder) (around : List Frame) (rest : Bytes), state.AwaitsValue around →
    EndsNumber rest → state.run (utf8 v.write ++ rest) = (put (.ofJson v) around).run rest

section Text

variable {around : List Frame} {rest : Bytes}

/-- A byte that is no part of a number ends it. -/
theorem endsNumber_cons {b : UInt8} (h : isDigit b = false ∧ b ≠ 0x2e ∧ b ≠ 0x65 ∧ b ≠ 0x45)
    (rest : Bytes) : EndsNumber (b :: rest) := by
  intro c hc
  cases hc
  exact h

/-- Behind an item there is a comma, or the end of the array. -/
theorem endsNumber_items (items : List Json) (rest : Bytes) :
    EndsNumber (utf8 (items.flatMap fun v => ',' :: v.write) ++ 0x5d :: rest) := by
  cases items with
  | nil => exact endsNumber_cons (by decide) rest
  | cons v items =>
    rw [List.flatMap_cons, List.cons_append, utf8_cons_of_ascii (by decide), List.cons_append]
    exact endsNumber_cons (by decide) _

/-- Behind a member there is a comma, or the end of the object. -/
theorem endsNumber_members (members : List (String × Json)) (rest : Bytes) :
    EndsNumber (utf8 (members.flatMap fun e => ',' :: memberText e) ++ 0x7d :: rest) := by
  cases members with
  | nil => exact endsNumber_cons (by decide) rest
  | cons e members =>
    rw [List.flatMap_cons, List.cons_append, utf8_cons_of_ascii (by decide), List.cons_append]
    exact endsNumber_cons (by decide) _

/-- The items after the first have a comma before them. -/
theorem writeItems_cons (v : Json) (items : List Json) :
    writeItems (v :: items) = v.write ++ items.flatMap fun w => ',' :: w.write := by
  induction items generalizing v with
  | nil => rw [writeItems, List.flatMap_nil, List.append_nil]
  | cons w items ih => rw [writeItems, ih, List.flatMap_cons, List.cons_append]

/-- **The items of an array come back** up to its end. -/
theorem run_items {items : List Json} (h : ∀ v ∈ items, ComesBack v) (done : List ParseTree) :
    (afterItem done around).run (utf8 (items.flatMap fun v => ',' :: v.write) ++ 0x5d :: rest) =
      (put (.array (done.reverse ++ ParseTree.ofItems items) none) around).run rest := by
  induction items generalizing done with
  | nil =>
    have hclose : nextToken? (0x5d :: rest) = some (.closeArray, rest) := rfl
    rw [List.flatMap_nil, utf8_nil, List.nil_append, run_of_some hclose, ParseTree.ofItems,
      List.append_nil]
    rfl
  | cons v items ih =>
    obtain ⟨hv, hitems⟩ := List.forall_mem_cons.1 h
    have hcomma : ∀ s : Bytes, nextToken? (0x2c :: s) = some (.comma, s) := fun _ => rfl
    have htext : utf8 ((v :: items).flatMap fun v => ',' :: v.write) ++ 0x5d :: rest =
        0x2c :: (utf8 v.write ++
          (utf8 (items.flatMap fun v => ',' :: v.write) ++ 0x5d :: rest)) := by
      rw [List.flatMap_cons, utf8_append, utf8_cons_of_ascii (by decide), List.append_assoc]
      rfl
    rw [htext, run_of_some (hcomma _)]
    refine (hv _ _ _ awaitsValue_value (endsNumber_items items rest)).trans ?_
    refine (ih hitems (.ofJson v :: done)).trans ?_
    rw [List.reverse_cons, List.append_assoc, ParseTree.ofItems]
    rfl

/-- A member comes back behind the members that are there. -/
theorem run_member {e : String × Json} (h : ComesBack e.2) {state : Builder}
    {done : List (Option String × ParseTree)} (hstate : state.AwaitsKey done around)
    (hrest : EndsNumber rest) :
    state.run (utf8 (memberText e) ++ rest) =
      (afterMember ((some e.1, .ofJson e.2) :: done) around).run rest := by
  have hcolon : ∀ s : Bytes, nextToken? (0x3a :: s) = some (.colon, s) := fun _ => rfl
  have htext : utf8 (memberText e) ++ rest =
      utf8 (writeString e.1) ++ 0x3a :: (utf8 e.2.write ++ rest) := by
    rw [memberText, utf8_append, utf8_cons_of_ascii (by decide), List.append_assoc]
    rfl
  rw [htext, run_of_some (nextToken?_writeString e.1 _), hstate (.str (some e.1)) (by rintro ⟨⟩)]
  refine (run_of_some (hcolon _)).trans ?_
  exact h _ _ _ awaitsValue_value hrest

/-- **The members of an object come back** up to its end. -/
theorem run_members {members : List (String × Json)} (h : ∀ e ∈ members, ComesBack e.2)
    (done : List (Option String × ParseTree)) :
    (afterMember done around).run
        (utf8 (members.flatMap fun e => ',' :: memberText e) ++ 0x7d :: rest) =
      (put (.object (done.reverse ++ ParseTree.ofMembers members) none) around).run rest := by
  induction members generalizing done with
  | nil =>
    have hclose : nextToken? (0x7d :: rest) = some (.closeObject, rest) := rfl
    rw [List.flatMap_nil, utf8_nil, List.nil_append, run_of_some hclose, ParseTree.ofMembers,
      List.append_nil]
    rfl
  | cons e members ih =>
    obtain ⟨he, hmembers⟩ := List.forall_mem_cons.1 h
    have hcomma : ∀ s : Bytes, nextToken? (0x2c :: s) = some (.comma, s) := fun _ => rfl
    have htext : utf8 ((e :: members).flatMap fun e => ',' :: memberText e) ++ 0x7d :: rest =
        0x2c :: (utf8 (memberText e) ++
          (utf8 (members.flatMap fun e => ',' :: memberText e) ++ 0x7d :: rest)) := by
      rw [List.flatMap_cons, utf8_append, utf8_cons_of_ascii (by decide), List.append_assoc]
      rfl
    rw [htext, run_of_some (hcomma _)]
    refine (run_member he (awaitsKey_nextKey done) (endsNumber_members members rest)).trans ?_
    refine (ih hmembers _).trans ?_
    rw [List.reverse_cons, List.append_assoc, ParseTree.ofMembers]
    rfl

/-- A value of one token comes back. -/
theorem comesBack_of_token {v : Json} {t : Token}
    (htoken : ∀ rest, EndsNumber rest → nextToken? (utf8 v.write ++ rest) = some (t, rest))
    (hne : t ≠ .closeArray) (hput : ∀ around, startValue t around = put (.ofJson v) around) :
    ComesBack v := by
  intro state around rest hstate hrest
  rw [run_of_some (htoken rest hrest), hstate t hne, hput]

theorem comesBack_arr {items : List Json} (h : ∀ v ∈ items, ComesBack v) :
    ComesBack (.arr items) := by
  intro state around rest hstate _
  have hopen : ∀ s : Bytes, nextToken? (0x5b :: s) = some (.openArray, s) := fun _ => rfl
  have htext : utf8 (write (.arr items)) ++ rest =
      0x5b :: (utf8 (writeItems items) ++ 0x5d :: rest) := by
    rw [write, utf8_append, List.append_assoc, utf8_cons_of_ascii (by decide)]
    rfl
  rw [htext, run_of_some (hopen _), hstate .openArray (by rintro ⟨⟩), startValue]
  cases items with
  | nil =>
    have hclose : nextToken? (0x5d :: rest) = some (.closeArray, rest) := rfl
    rw [writeItems, utf8_nil, List.nil_append, run_of_some hclose]
    rfl
  | cons v items =>
    -- the first item stands where the array might have ended, the others stand behind a comma
    obtain ⟨hv, hitems⟩ := List.forall_mem_cons.1 h
    rw [writeItems_cons, utf8_append, List.append_assoc]
    refine (hv _ _ _ awaitsValue_firstItem (endsNumber_items items rest)).trans ?_
    exact run_items hitems [.ofJson v]

theorem comesBack_obj {members : List (String × Json)} (h : ∀ e ∈ members, ComesBack e.2) :
    ComesBack (.obj members) := by
  intro state around rest hstate _
  have hopen : ∀ s : Bytes, nextToken? (0x7b :: s) = some (.openObject, s) := fun _ => rfl
  have htext : utf8 (write (.obj members)) ++ rest =
      0x7b :: (utf8 (writeMembers members) ++ 0x7d :: rest) := by
    rw [write, utf8_append, List.append_assoc, utf8_cons_of_ascii (by decide)]
    rfl
  rw [htext, run_of_some (hopen _), hstate .openObject (by rintro ⟨⟩), startValue]
  cases members with
  | nil =>
    have hclose : nextToken? (0x7d :: rest) = some (.closeObject, rest) := rfl
    rw [writeMembers, utf8_nil, List.nil_append, run_of_some hclose]
    rfl
  | cons e members =>
    obtain ⟨he, hmembers⟩ := List.forall_mem_cons.1 h
    rw [writeMembers_cons, utf8_append, List.append_assoc]
    refine (run_member he awaitsKey_firstKey (endsNumber_members members rest)).trans ?_
    exact run_members hmembers [(some e.1, .ofJson e.2)]

/-- **Every value whose numbers are integers of 64 bits comes back**, wherever it stands. -/
theorem comesBack_of_isIntegral {v : Json} (h : v.IsIntegral) : ComesBack v := by
  induction h with
  | null => exact comesBack_of_token (fun rest _ => nextToken?_null rest) nofun fun _ => rfl
  | bool b => exact comesBack_of_token (fun rest _ => nextToken?_bool b rest) nofun fun _ => rfl
  | int hleast hgreatest =>
    exact comesBack_of_token (fun _ hrest => nextToken?_intText hleast hgreatest hrest) nofun
      fun _ => rfl
  | str s =>
    exact comesBack_of_token (fun rest _ => nextToken?_writeString s rest) nofun fun _ => rfl
  | arr _ ih => exact comesBack_arr ih
  | obj _ ih => exact comesBack_obj ih

end Text

/-- **The text of a value is parsed into its tree**, and nothing is left over. -/
theorem parse_render {v : Json} (h : v.IsIntegral) :
    parse (bytesOf v.render) = (.ofJson v, false) := by
  have hrun := comesBack_of_isIntegral h (.value []) [] [] awaitsValue_value endsNumber_nil
  rw [List.append_nil] at hrun
  rw [parse, render, bytesOf_ofList, hrun, run_of_none rfl]
  rfl

/-- A text is parsed into the tree of the value whose text it is. -/
theorem parse_of_render {v : Json} {text : String} (h : v.IsIntegral) (htext : v.render = text) :
    parse (bytesOf text) = (.ofJson v, false) := by
  rw [← htext, parse_render h]

end TypedGraphQL.Json
