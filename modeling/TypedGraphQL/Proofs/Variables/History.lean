import Mathlib.Data.List.Dedup
import Mathlib.Data.List.Induction
import Mathlib.Data.List.Perm.Basic
import TypedGraphQL.Operation
import TypedGraphQL.Proofs.Json.ObjectWriter
import TypedGraphQL.Proofs.Text.ByteOrder

/-!
# Variables and how they came about

Variables are set one after the other, some of them more than once, and an attempt to set one may
fail.  What is left of all this is, for each name, the last entry that was set.  This file says so
for every history of changes, and that variables with the same last entries are the same, whatever
their histories.

## What is here

* `Variables.Change` — an attempt to set an entry; `Change.entry?` is what it sets.
* `Variables.change`, `Variables.run` — the variables after one change and after many.
* `Variables.last?` — the last entry that was set under a name.
* `get?_change`, `get?_run` — one change, and a whole history by induction on it.
* `Variables.Holds` — how the variables and everything read from them relate to their history.
* `holds_run` — the variables hold what their history says, and are determined by it.
-/

set_option autoImplicit false

namespace TypedGraphQL

open Json

namespace Variables

/-! ## Changes -/

/-- An attempt to set an entry. -/
inductive Change
  /-- A value is encoded and set. -/
  | insert (name : String) (value : Input)
  /-- An entry is set as it is. -/
  | set (name : String) (v : Variable)

/-- The entry that a change sets.  A value that cannot be encoded sets none. -/
def Change.entry? : Change → Option (String × Variable)
  | insert name value =>
    match value.encoded with
    | .ok json => some (name, ⟨value.type, json⟩)
    | .error _ => none
  | set name v => some (name, v)

/-- The variables after a change, and the error if it failed. -/
def change (vs : Variables) : Change → Variables × Option Error
  | .insert name value =>
    match vs.insert name value with
    | .ok changed => (changed, none)
    | .error e => (vs, some e)
  | .set name v => (vs.set name v, none)

/-- The variables after some changes, none being there before. -/
def run (changes : List Change) : Variables :=
  changes.foldl (fun vs c => (vs.change c).1) empty

/-- The last entry that was set under a name. -/
def last? (changes : List Change) (name : String) : Option Variable :=
  changes.reverse.findSome? fun c =>
    match c.entry? with
    | some (k, v) => if name = k then some v else none
    | none => none

/-- The names under which an entry was set, as often as it was. -/
def changedNames (changes : List Change) : List String :=
  changes.filterMap fun c => c.entry?.map (·.1)

/-! ## One change -/

section Step

variable {vs : Variables} {c : Change}

theorem change_of_entry {name : String} {v : Variable} (h : c.entry? = some (name, v)) :
    vs.change c = (vs.set name v, none) := by
  cases c with
  | insert k value =>
    rw [Change.entry?] at h
    rw [change, insert, Variable.ofInput]
    cases hjson : value.encoded with
    | ok json =>
      rw [hjson] at h
      cases h
      rfl
    | error cause =>
      rw [hjson] at h
      cases h
  | set k w =>
    cases h
    rfl

/-- A value that cannot be encoded leaves the variables as they are, and the error has the name. -/
theorem change_of_error {name : String} {value : Input} {cause : EncodeFailure}
    (h : value.encoded = .error cause) :
    vs.change (.insert name value) = (vs, some (.variableEncode name cause)) := by
  rw [change, insert, Variable.ofInput, h]
  rfl

theorem change_of_entry_eq_none (h : c.entry? = none) : (vs.change c).1 = vs := by
  cases c with
  | insert name value =>
    rw [Change.entry?] at h
    cases hjson : value.encoded with
    | ok json =>
      rw [hjson] at h
      cases h
    | error cause => rw [change_of_error hjson]
  | set name v => cases h

/-- **After a change a name has the entry that was set under it, or else the one it had.** -/
theorem get?_change (name : String) :
    (vs.change c).1.get? name =
      match c.entry? with
      | some (k, v) => if name = k then some v else vs.get? name
      | none => vs.get? name := by
  cases h : c.entry? with
  | none => rw [change_of_entry_eq_none h]
  | some e =>
    obtain ⟨k, v⟩ := e
    rw [change_of_entry h]
    exact get?_set vs k name v

end Step

/-! ## A history -/

section History

variable {changes : List Change}

theorem run_concat (changes : List Change) (c : Change) :
    run (changes ++ [c]) = ((run changes).change c).1 := by
  rw [run, List.foldl_append]
  rfl

theorem last?_concat (changes : List Change) (c : Change) (name : String) :
    last? (changes ++ [c]) name =
      match c.entry? with
      | some (k, v) => if name = k then some v else last? changes name
      | none => last? changes name := by
  rw [last?, List.reverse_append, List.reverse_singleton, List.singleton_append,
    List.findSome?_cons]
  cases c.entry? with
  | none => rfl
  | some e =>
    obtain ⟨k, v⟩ := e
    by_cases hk : name = k
    · simp only [hk, if_true]
    · simp only [hk, if_false]
      rfl

/-- **Each name has the last entry that was set under it.** -/
theorem get?_run (changes : List Change) (name : String) :
    (run changes).get? name = last? changes name := by
  induction changes using List.reverseRecOn with
  | nil => exact get?_empty name
  | append_singleton changes c ih => rw [run_concat, get?_change, last?_concat, ih]

theorem mem_changedNames_iff {name : String} :
    name ∈ changedNames changes ↔ ∃ v, last? changes name = some v := by
  induction changes using List.reverseRecOn with
  | nil => simp [changedNames, last?]
  | append_singleton changes c ih =>
    have hconcat : changedNames (changes ++ [c]) =
        changedNames changes ++ (c.entry?.map (·.1)).toList := by
      rw [changedNames, List.filterMap_append]
      cases h : c.entry?.map (·.1) <;> simp [changedNames, h]
    rw [hconcat, last?_concat, List.mem_append, ih]
    cases c.entry? with
    | none => simp
    | some e =>
      obtain ⟨k, v⟩ := e
      by_cases hk : name = k <;> simp [hk]

/-- The names of the entries are different. -/
theorem nodup_names (vs : Variables) : (vs.entries.map (·.1)).Nodup := by
  refine List.Pairwise.imp (fun h heq => ?_) (List.pairwise_map.2 vs.ordered)
  exact String.lt_irrefl _ (heq ▸ h)

theorem mem_entries_iff {vs : Variables} {name : String} {v : Variable} :
    (name, v) ∈ vs.entries ↔ vs.get? name = some v :=
  (lookup?_eq_some_iff vs.ordered).symm

theorem mem_names_iff {vs : Variables} {name : String} :
    name ∈ vs.entries.map (·.1) ↔ ∃ v, vs.get? name = some v := by
  simp only [List.mem_map, Prod.exists, exists_and_right, exists_eq_right, mem_entries_iff]

theorem length_run (changes : List Change) :
    (run changes).length = (changedNames changes).dedup.length := by
  have hperm : ((run changes).entries.map (·.1)).Perm (changedNames changes).dedup := by
    refine (List.perm_ext_iff_of_nodup (nodup_names _) (List.nodup_dedup _)).2 fun name => ?_
    rw [mem_names_iff, List.mem_dedup, mem_changedNames_iff, get?_run]
  rw [← hperm.length_eq, List.length_map]
  rfl

/-- The entries of a collection are set one after the other. -/
theorem ofEntries_eq_run (entries : List (String × Variable)) :
    ofEntries entries = run (entries.map fun e => .set e.1 e.2) := by
  rw [run, List.foldl_map]
  rfl

end History

/-! ## What is read from the variables -/

/-- How variables and what is read from them relate to the changes that were made. -/
structure Holds (vs : Variables) (changes : List Change) : Prop where
  /-- Each name has its last entry. -/
  get? : ∀ name, vs.get? name = last? changes name
  /-- There are as many variables as different names. -/
  length : vs.length = (changedNames changes).dedup.length
  /-- The entries are the last ones of all names. -/
  entries : ∀ name v, (name, v) ∈ vs.entries ↔ last? changes name = some v
  /-- The names are in the strict order of their bytes. -/
  ordered : vs.entries.Pairwise fun d e => bytesOf d.1 < bytesOf e.1
  /-- The object that is sent has the names in this order, each with its value. -/
  toJson : vs.toJson = .obj (vs.entries.map fun e => (e.1, e.2.value))
  /-- A writer that collects the entries arrives at the same object. -/
  collected : vs.serialize ObjectWriter.collect = vs.toJson
  /-- A writer of text arrives at its text. -/
  written : vs.serialize ObjectWriter.compact = vs.toJson.render

theorem holds_of_run (changes : List Change) : (run changes).Holds changes where
  get? := get?_run changes
  length := length_run changes
  entries name v := by rw [mem_entries_iff, get?_run]
  ordered := (run changes).ordered.imp bytesOf_lt
  toJson := objectOf_of_ordered (ordered_members _)
  collected := rfl
  written := by
    rw [serialize, ObjectWriter.write_compact, toJson, objectOf_of_ordered (ordered_members _)]

/-! ## The whole history -/

/-- **After any changes the variables hold, under each name, the last entry that was set**, in the
order of the names.  A change that fails says under which name and has no other effect.  Histories
with the same last entries, such as that of a collection whose entries are set one by one, lead to
the same variables, and these to the same texts. -/
theorem holds_run (changes : List Change) :
    (run changes).Holds changes ∧
    (∀ name value cause, value.encoded = .error cause →
      (run changes).change (.insert name value) =
        (run changes, some (.variableEncode name cause))) ∧
    (∀ c name v, c.entry? = some (name, v) → ((run changes).change c).2 = none) ∧
    (∀ entries : List (String × Variable),
      ofEntries entries = run (entries.map fun e => .set e.1 e.2)) ∧
    ∀ changes', (∀ name, last? changes name = last? changes' name) →
      run changes = run changes' ∧
      (∀ options isMutation,
        header options isMutation (run changes) = header options isMutation (run changes')) ∧
      ∀ (R : Type) (catalog : Catalog R) options root kind name,
        compile catalog options root (run changes) kind name =
          compile catalog options root (run changes') kind name := by
  refine ⟨holds_of_run changes, fun name value cause h => change_of_error h, ?_,
    ofEntries_eq_run, ?_⟩
  · intro c name v h
    rw [change_of_entry h]
  · intro changes' h
    have heq : run changes = run changes' := by
      refine Variables.ext fun name => ?_
      rw [get?_run, get?_run, h]
    rw [heq]
    exact ⟨rfl, fun _ _ => rfl, fun _ _ _ _ _ _ => rfl⟩

/-- A count that is corrected, after an attempt that failed, is the count that was meant. -/
theorem holds_run_corrected :
    run [.insert "count" ⟨.named "Int", .ok (.int 1)⟩,
        .insert "after" ⟨.named "Cursor", .error ⟨"no cursor"⟩⟩,
        .set "Login" ⟨.named "String", .str "gopher"⟩,
        .insert "count" ⟨.named "Int", .ok (.int 2)⟩] =
      run [.set "count" ⟨.named "Int", .int 2⟩, .set "Login" ⟨.named "String", .str "gopher"⟩] := by
  refine ((holds_run _).2.2.2.2 _ fun name => ?_).1
  by_cases hcount : name = "count"
  · subst hcount
    rfl
  · by_cases hlogin : name = "Login"
    · subst hlogin
      rfl
    · simp [last?, Change.entry?, hcount, hlogin]

end Variables

end TypedGraphQL
