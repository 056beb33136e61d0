import TypedGraphQL.Config
import TypedGraphQL.Proofs.Schema.Entries

/-!
# Headers and the order in which they are configured

The headers of a configuration have no order, yet they are taken one after the other, and a header
of the same name is replaced.  Names that differ in a configuration may still be one name, since case
does not matter in the name of a header.  Of such entries the one that is visited last is sent, and
which one that is depends on the order.

This file says what is sent in every order.  A header that cannot be sent is found in every order.
An entry is sent in every order only if no other one has its name in other letters and another value,
and what is sent is the same in every order only if this holds of all of them.

## What is here

* `IsSendable`, `HeaderError.Blames` — entries that can be sent, and what is said about one that
  cannot.
* `Headers.ofEntries_eq_ok_iff` — what comes of one visit.
* `ClientConfig.headersVisiting` — a configuration whose headers are visited in an order.
* `ClientConfig.sent_iff`, `ClientConfig.headersVisiting_eq_iff` — where the order does not matter.
* `headersVisiting_of_perm` — all of this in one statement.
-/

set_option autoImplicit false

namespace TypedGraphQL

/-! ## One visit -/

namespace Http

/-- A name in small letters. -/
def smallLetters (name : String) : String :=
  String.ofList (name.toList.map Char.toLower)

/-- The entry as a header. -/
def asHeader (e : String × String) : String × String :=
  (smallLetters e.1, e.2)

/-- The entry can be sent: its name is a token, and its value has no control characters. -/
def IsSendable (e : String × String) : Prop :=
  headerName? e.1 ≠ none ∧ isHeaderValue e.2 = true

instance (e : String × String) : Decidable (IsSendable e) :=
  inferInstanceAs (Decidable (_ ∧ _))

/-- The error is about the entry, whose name is at fault, or else its value. -/
def HeaderError.Blames (e : String × String) : HeaderError → Prop
  | badName name => name = e.1 ∧ headerName? e.1 = none
  | badValue name => name = e.1 ∧ headerName? e.1 ≠ none ∧ isHeaderValue e.2 = false

theorem headerName?_eq_of_ne_none {name : String} (h : headerName? name ≠ none) :
    headerName? name = some (smallLetters name) := by
  rw [headerName?] at h ⊢
  split
  · rfl
  · rename_i hnot
    exact absurd (if_neg hnot) h

theorem HeaderError.Blames.not_isSendable {e : String × String} {cause : HeaderError}
    (h : cause.Blames e) : ¬ IsSendable e := by
  intro hsendable
  cases cause with
  | badName => exact hsendable.1 h.2
  | badValue =>
    have hvalue := hsendable.2
    rw [h.2.2] at hvalue
    cases hvalue

namespace Headers

variable {entries order : List (String × String)} {headers done : Headers} {e : String × String}
  {cause : HeaderError}

/-- An entry is added as a header, or else it is blamed. -/
theorem add_cases (headers : Headers) (e : String × String) :
    (IsSendable e ∧ add headers e = .ok (insertEntry (asHeader e).1 (asHeader e).2 headers)) ∨
      ∃ cause, HeaderError.Blames e cause ∧ add headers e = .error cause := by
  rw [add]
  cases hname : headerName? e.1 with
  | none => exact Or.inr ⟨.badName e.1, ⟨rfl, hname⟩, rfl⟩
  | some name =>
    have hne : headerName? e.1 ≠ none := by
      rw [hname]
      exact nofun
    obtain rfl := Option.some.inj (hname.symm.trans (headerName?_eq_of_ne_none hne))
    cases hvalue : isHeaderValue e.2 with
    | false => exact Or.inr ⟨.badValue e.1, ⟨rfl, hne, hvalue⟩, if_neg Bool.false_ne_true⟩
    | true => exact Or.inl ⟨⟨hne, hvalue⟩, if_pos rfl⟩

theorem foldlM_add_eq_ok_iff : entries.foldlM add done = .ok headers ↔
    (∀ e ∈ entries, IsSendable e) ∧
      (entries.map asHeader).foldl (fun done e => insertEntry e.1 e.2 done) done = headers := by
  induction entries generalizing done with
  | nil =>
    rw [and_iff_right (List.forall_mem_nil _)]
    exact ⟨Except.ok.inj, congrArg Except.ok⟩
  | cons e entries ih =>
    rw [List.foldlM_cons, List.forall_mem_cons]
    rcases add_cases done e with ⟨hsendable, hadd⟩ | ⟨cause, hblames, hadd⟩
    · rw [hadd, and_iff_right hsendable]
      exact ih
    · rw [hadd]
      exact iff_of_false nofun fun h => hblames.not_isSendable h.1.1

theorem exists_blames_of_foldlM_add (h : entries.foldlM add done = .error cause) :
    ∃ e ∈ entries, HeaderError.Blames e cause := by
  induction entries generalizing done with
  | nil => cases h
  | cons e entries ih =>
    rw [List.foldlM_cons] at h
    rcases add_cases done e with ⟨-, hadd⟩ | ⟨cause', hblames, hadd⟩
    · rw [hadd] at h
      obtain ⟨d, hd, hblames⟩ := ih h
      exact ⟨d, List.mem_cons_of_mem _ hd, hblames⟩
    · rw [hadd] at h
      cases h
      exact ⟨e, List.mem_cons_self, hblames⟩

/-- **Entries are taken if all of them can be sent**, and of those with the same name the last one
counts. -/
theorem ofEntries_eq_ok_iff : ofEntries entries = .ok headers ↔
    (∀ e ∈ entries, IsSendable e) ∧ entriesOf (entries.map asHeader) = headers :=
  foldlM_add_eq_ok_iff

end Headers

end Http

/-! ## All visits -/

namespace ClientConfig

open Http

variable {c : ClientConfig} {order order' : List (String × String)} {e : String × String}

/-- The headers of every request, if the configured ones are visited in an order. -/
def headersVisiting (c : ClientConfig) (order : List (String × String)) : Except Error Headers :=
  { c with headers := order }.headersToSend

/-- The value of the entry that was visited last under a name. -/
def lastVisited? (name : String) (order : List (String × String)) : Option String :=
  lookup? name (order.reverse.map asHeader)

theorem headersVisiting_of_isSendable (h : ∀ e ∈ order, IsSendable e) :
    c.headersVisiting order = .ok (entriesOf (order.map asHeader)) := by
  rw [headersVisiting, headersToSend, Headers.ofEntries_eq_ok_iff.2 ⟨h, rfl⟩]

/-- A header that cannot be sent is found, and an error names one. -/
theorem headersVisiting_of_not_isSendable (h : ¬ ∀ e ∈ order, IsSendable e) :
    ∃ cause, c.headersVisiting order = .error (.config (.header cause)) ∧
      ∃ e ∈ order, HeaderError.Blames e cause := by
  rw [headersVisiting, headersToSend]
  dsimp only
  cases hread : Headers.ofEntries order with
  | ok headers => exact absurd (Headers.ofEntries_eq_ok_iff.1 hread).1 h
  | error cause => exact ⟨cause, rfl, Headers.exists_blames_of_foldlM_add hread⟩

theorem lookup?_sent (name : String) (order : List (String × String)) :
    lookup? name (entriesOf (order.map asHeader)) = lastVisited? name order := by
  rw [lookup?_entriesOf, lastVisited?, List.map_reverse]

/-- The entry that is visited last is sent. -/
theorem lastVisited?_concat (order : List (String × String)) (e : String × String) :
    lastVisited? (smallLetters e.1) (order ++ [e]) = some e.2 := by
  rw [lastVisited?, List.reverse_append]
  exact if_pos rfl

/-- Every entry may be the one that is visited last. -/
theorem exists_perm_concat {entries : List (String × String)} (he : e ∈ entries) :
    ∃ order, (order ++ [e]).Perm entries := by
  obtain ⟨before, after, rfl⟩ := List.mem_iff_append.1 he
  exact ⟨before ++ after, (List.perm_append_singleton e _).trans List.perm_middle.symm⟩

/-- An entry that all others of its name agree with is sent in every order. -/
theorem lastVisited?_of_agree (horder : order.Perm c.headers) (he : e ∈ c.headers)
    (hagree : ∀ d ∈ c.headers, smallLetters d.1 = smallLetters e.1 → d.2 = e.2) :
    lastVisited? (smallLetters e.1) order = some e.2 := by
  have hmem : ∀ {d}, d ∈ order.reverse ↔ d ∈ c.headers := List.mem_reverse.trans horder.mem_iff
  have hagree' : ∀ d ∈ order.reverse.map asHeader, d.1 = (asHeader e).1 → d.2 = (asHeader e).2 := by
    rw [List.forall_mem_map]
    exact fun d hd => hagree d (hmem.1 hd)
  exact lookup?_eq_some_of_mem (List.mem_map_of_mem (hmem.2 he)) hagree'

section Sendable

variable (hsendable : ∀ e ∈ c.headers, IsSendable e)
include hsendable

theorem headersVisiting_eq_ok (horder : order.Perm c.headers) :
    c.headersVisiting order = .ok (entriesOf (order.map asHeader)) :=
  headersVisiting_of_isSendable fun e he => hsendable e (horder.mem_iff.1 he)

/-- **An entry is sent in every order exactly if all others of its name have its value.** -/
theorem sent_iff (he : e ∈ c.headers) :
    (∀ order headers, order.Perm c.headers → c.headersVisiting order = .ok headers →
      lookup? (smallLetters e.1) headers = some e.2) ↔
    ∀ d ∈ c.headers, smallLetters d.1 = smallLetters e.1 → d.2 = e.2 := by
  constructor
  · intro hsent d hd hname
    obtain ⟨order, horder⟩ := exists_perm_concat hd
    have hlast := hsent _ _ horder (headersVisiting_eq_ok hsendable horder)
    rw [lookup?_sent, ← hname, lastVisited?_concat] at hlast
    exact Option.some.inj hlast
  · intro hagree order headers horder hread
    obtain rfl := Except.ok.inj ((headersVisiting_eq_ok hsendable horder).symm.trans hread)
    rw [lookup?_sent]
    exact lastVisited?_of_agree horder he hagree

/-- **The headers are the same in every order exactly if the entries of a name agree.** -/
theorem headersVisiting_eq_iff :
    (∀ order order', order.Perm c.headers → order'.Perm c.headers →
      c.headersVisiting order = c.headersVisiting order') ↔
    Agree (c.headers.map asHeader) := by
  constructor
  · intro hsame
    rw [Agree, List.forall_mem_map]
    intro d hd
    rw [List.forall_mem_map]
    intro e he hname
    -- one order ends with the one entry, and another one with the other
    obtain ⟨order, horder⟩ := exists_perm_concat hd
    obtain ⟨order', horder'⟩ := exists_perm_concat he
    have heq := hsame _ _ horder horder'
    rw [headersVisiting_eq_ok hsendable horder, headersVisiting_eq_ok hsendable horder',
      Except.ok.injEq] at heq
    have hlast : lastVisited? (smallLetters d.1) (order ++ [d]) =
        lastVisited? (smallLetters d.1) (order' ++ [e]) := by
      rw [← lookup?_sent, ← lookup?_sent, heq]
    have hletters : smallLetters d.1 = smallLetters e.1 := hname
    rw [lastVisited?_concat, hletters, lastVisited?_concat] at hlast
    exact Option.some.inj hlast
  · intro hagree order order' horder horder'
    rw [headersVisiting_eq_ok hsendable horder, headersVisiting_eq_ok hsendable horder']
    refine congrArg Except.ok (entriesOf_perm_of_agree (hagree.perm (horder.map _)) ?_)
    exact (horder.trans horder'.symm).map _

end Sendable

end ClientConfig

open Http ClientConfig in
/-- **What is sent depends on the order in which headers are visited.**  A header that cannot be
sent is found in every order.  If all can be sent, the entry that is visited last under a name in
small letters is sent.  So an entry is sent in every order exactly if all entries of its name have its
value, and the headers are the same in every order exactly if this holds of all entries. -/
theorem headersVisiting_of_perm (c : ClientConfig) :
    ((∃ e ∈ c.headers, ¬ IsSendable e) → ∀ order, order.Perm c.headers →
      ∃ cause, c.headersVisiting order = .error (.config (.header cause)) ∧
        ∃ e ∈ c.headers, HeaderError.Blames e cause) ∧
    ((∀ e ∈ c.headers, IsSendable e) →
      (∀ order, order.Perm c.headers → ∃ headers, c.headersVisiting order = .ok headers ∧
        Ordered headers ∧ ∀ name, lookup? name headers = lastVisited? name order) ∧
      (∀ e ∈ c.headers,
        (∀ order headers, order.Perm c.headers → c.headersVisiting order = .ok headers →
          lookup? (smallLetters e.1) headers = some e.2) ↔
        ∀ d ∈ c.headers, smallLetters d.1 = smallLetters e.1 → d.2 = e.2) ∧
      ((∀ order order', order.Perm c.headers → order'.Perm c.headers →
          c.headersVisiting order = c.headersVisiting order') ↔
        Agree (c.headers.map asHeader))) := by
  constructor
  · rintro ⟨e, he, hnot⟩ order horder
    have hnot' : ¬ ∀ e ∈ order, IsSendable e := fun hall => hnot (hall e (horder.mem_iff.2 he))
    obtain ⟨cause, hvisit, d, hd, hblames⟩ := headersVisiting_of_not_isSendable hnot'
    exact ⟨cause, hvisit, d, horder.mem_iff.1 hd, hblames⟩
  · intro hsendable
    refine ⟨fun order horder => ?_, fun e he => sent_iff hsendable he,
      headersVisiting_eq_iff hsendable⟩
    exact ⟨_, headersVisiting_eq_ok hsendable horder, ordered_entriesOf,
      fun name => lookup?_sent name order⟩

/-- Two credentials under names that differ in their case only, and one more header. -/
def twoCredentials (other : String × String) : ClientConfig where
  endpoint := "http://localhost:8080/graphql"
  headers := [("Authorization", "Bearer a"), other, ("authorization", "Bearer b")]

open Http ClientConfig in
/-- Of two credentials one is lost, and which one depends on the order.  The other header is sent in
every order, unless its name is no token: then nothing is, in whatever order. -/
theorem headersVisiting_of_perm_twoCredentials :
    (∀ order, order.Perm (twoCredentials ("X Trace", "1")).headers →
      ∃ cause, (twoCredentials ("X Trace", "1")).headersVisiting order =
        .error (.config (.header cause))) ∧
    (∀ order headers, order.Perm (twoCredentials ("X-Trace", "1")).headers →
      (twoCredentials ("X-Trace", "1")).headersVisiting order = .ok headers →
      lookup? "x-trace" headers = some "1") ∧
    (¬ ∀ order headers, order.Perm (twoCredentials ("X-Trace", "1")).headers →
      (twoCredentials ("X-Trace", "1")).headersVisiting order = .ok headers →
      lookup? "authorization" headers = some "Bearer a") ∧
    ¬ ∀ order order', order.Perm (twoCredentials ("X-Trace", "1")).headers →
      order'.Perm (twoCredentials ("X-Trace", "1")).headers →
      (twoCredentials ("X-Trace", "1")).headersVisiting order =
        (twoCredentials ("X-Trace", "1")).headersVisiting order' := by
  have hbroken : ∃ e ∈ (twoCredentials ("X Trace", "1")).headers, ¬ IsSendable e := by
    decide +kernel
  have hsendable : ∀ e ∈ (twoCredentials ("X-Trace", "1")).headers, IsSendable e := by
    decide +kernel
  obtain ⟨hfails, -⟩ := headersVisiting_of_perm (twoCredentials ("X Trace", "1"))
  obtain ⟨-, hsent⟩ := headersVisiting_of_perm (twoCredentials ("X-Trace", "1"))
  obtain ⟨-, hentry, hsame⟩ := hsent hsendable
  refine ⟨fun order horder => ?_, ?_, ?_, ?_⟩
  · obtain ⟨cause, hvisit, -⟩ := hfails hbroken order horder
    exact ⟨cause, hvisit⟩
  · have hname : smallLetters "X-Trace" = "x-trace" := by decide +kernel
    rw [← hname]
    exact (hentry ("X-Trace", "1") (by decide)).2 (by decide +kernel)
  · have hname : smallLetters "Authorization" = "authorization" := by decide +kernel
    rw [← hname]
    exact mt (hentry ("Authorization", "Bearer a") (by decide)).1 (by decide +kernel)
  · refine mt hsame.1 ?_
    rw [Agree]
    decide +kernel

end TypedGraphQL
