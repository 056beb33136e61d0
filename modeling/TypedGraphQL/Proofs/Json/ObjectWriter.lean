import TypedGraphQL.Json.ObjectWriter

/-!
# Entries that are handed over one by one

A writer that is handed the entries of an object arrives at the object, or at its text.

## What is here

* `objectOf_of_ordered` — entries in the order of their keys are collected in the object with these
  members.
* `write_compact` — the text that is written is that of the object, with the entries in the order in
  which they are handed over.
-/

set_option autoImplicit false

namespace TypedGraphQL.Json

/-- **Members that are in order are those of the object.** -/
theorem objectOf_of_ordered {members : List (String × Json)} (h : Ordered members) :
    objectOf members = .obj members :=
  congrArg obj (foldl_insertEntry_of_ordered h)

/-- The text of one member. -/
def memberText (e : String × Json) : List Char :=
  writeString e.1 ++ ':' :: e.2.write

/-- The members after the first have a comma before them. -/
theorem writeMembers_cons (e : String × Json) (rest : List (String × Json)) :
    writeMembers (e :: rest) = memberText e ++ rest.flatMap fun d => ',' :: memberText d := by
  induction rest generalizing e with
  | nil =>
    rw [writeMembers, List.flatMap_nil, List.append_nil]
    rfl
  | cons d rest ih =>
    have hmore : writeMembers (e :: d :: rest) =
        memberText e ++ ',' :: writeMembers (d :: rest) := by
      rw [writeMembers]
      rfl
    rw [hmore, ih, List.flatMap_cons, List.cons_append]

namespace ObjectWriter

/-- Once an entry has been written, every further one has a comma before it. -/
theorem foldl_compact (entries : List (String × Json)) (text : List Char) :
    entries.foldl (fun state e => compact.entry state e.1 e.2) (text, .further) =
      (text ++ entries.flatMap fun e => ',' :: memberText e, .further) := by
  induction entries generalizing text with
  | nil => rw [List.flatMap_nil, List.append_nil]; rfl
  | cons e rest ih =>
    have hentry : compact.entry (text, .further) e.1 e.2 =
        (text ++ ',' :: memberText e, .further) := by
      have hcomma : text ++ [','] ++ writeString e.1 ++ ':' :: e.2.write =
          text ++ ',' :: memberText e := by
        simp only [List.append_assoc, List.cons_append, List.nil_append, memberText]
      exact congrArg (·, Stage.further) hcomma
    rw [List.foldl_cons, hentry, ih, List.flatMap_cons, List.append_assoc]

/-- **The text that is written is that of the object.** -/
theorem write_compact (entries : List (String × Json)) :
    compact.write entries = (obj entries).render := by
  cases entries with
  | nil => rfl
  | cons e rest =>
    have hfirst : compact.entry (compact.start (rest.length + 1)) e.1 e.2 =
        ('{' :: memberText e, .further) := rfl
    have hfinish : ∀ text : List Char,
        compact.finish (text, .further) = String.ofList (text ++ ['}']) := fun _ => rfl
    rw [write, List.length_cons, List.foldl_cons, hfirst, foldl_compact, hfinish, render,
      Json.write, writeMembers_cons, List.cons_append]

end ObjectWriter

end TypedGraphQL.Json
