import TypedGraphQL.Proofs.Schema.RoundTrip
import TypedGraphQL.Proofs.Time.Shown
import TypedGraphQL.Variables

/-!
# Values of a declared type

A variable is declared with a type and sent with a value.  The type is found from the type of the
value that was handed in, the JSON from that value itself.  This file says that the two fit together:
the JSON is a value of the declared type, and so is everything inside it.

A list of any sort is one `InputType.list`, whatever it is kept in, and a value behind a pointer is
the value itself.

## What is here

* `VariableType.Conforms` — the JSON values of a declared type.  What a point in time looks like is
  left open.
* `InputType.Every` — all points in time and all floating-point numbers of a value have a property.
* `InputType.HasTime` — the places of the points in time; `at?_write_of_hasTime`.
* `conforms_write` — the JSON that is written is one of the declared type, by induction on the type.
* `Json.at?`, `VariableType.at?` — the value and the type at a place; `VariableType.Conforms.at`.
* `IsTextOf` — the strings for a point in time.
* `ofInput_conforms` — the variable that holds a value.
-/

set_option autoImplicit false

namespace TypedGraphQL

open Instant Numeric

/-! ## The values of a type -/

/-- A number: an integer, or a floating-point number that is finite. -/
inductive Json.IsNumeric : Json → Prop
  | int (n : Int) : IsNumeric (.int n)
  | float {x : Double} (h : x.isFinite = true) : IsNumeric (.number (.float x))

namespace VariableType

/-- The values of a type that is known by its name. -/
inductive IsOf (IsTime : String → Prop) : String → Json → Prop
  | int (n : Int) : IsOf IsTime "Int" (.int n)
  | float {v : Json} (h : v.IsNumeric) : IsOf IsTime "Float" v
  | boolean (b : Bool) : IsOf IsTime "Boolean" (.bool b)
  | string (s : String) : IsOf IsTime "String" (.str s)
  | id (s : String) : IsOf IsTime "ID" (.str s)
  | dateTime {s : String} (h : IsTime s) : IsOf IsTime "DateTime" (.str s)
  /-- A coordinate may be left out. -/
  | point {members : List (String × Json)} (hkeys : (members.map (·.1)).Nodup)
      (h : ∀ m ∈ members, (m.1 = "latitude" ∨ m.1 = "longitude") ∧ m.2.IsNumeric) :
      IsOf IsTime "Point" (.obj members)

/-- **The values of a declared type.** -/
def Conforms (IsTime : String → Prop) : VariableType → Json → Prop
  | .scalar kind, v => v = .null ∨ IsOf IsTime kind.baseName v
  | .named name, v => IsOf IsTime name v
  | .list t, v => ∃ items, v = .arr items ∧ ∀ x ∈ items, t.Conforms IsTime x
  | .optional t, v => v = .null ∨ t.Conforms IsTime v

/-- The type has the value `null`. -/
def isNullable : VariableType → Bool
  | .scalar _ => true
  | .named _ => false
  | .list _ => false
  | .optional _ => true

end VariableType

/-! ## What is inside a value -/

/-- One step into a value. -/
inductive Json.Step
  | item (i : Nat)
  | member (key : String)

/-- The item or member of a value. -/
def Json.below? : Json → Json.Step → Option Json
  | .arr items, .item i => items[i]?
  | .obj members, .member key => lookup? key members
  | _, _ => none

/-- The value at a place. -/
def Json.at? : Json → List Json.Step → Option Json
  | v, [] => some v
  | v, s :: path => (v.below? s).bind fun w => w.at? path

/-- The type of an item or member.  An optional wrapper has none of its own. -/
def VariableType.below? : VariableType → Json.Step → Option VariableType
  | .list t, .item _ => some t
  | .optional t, s => t.below? s
  | .named name, .member _ => if name = "Point" then some (.named "Float") else none
  | _, _ => none

/-- The type at a place. -/
def VariableType.at? : VariableType → List Json.Step → Option VariableType
  | t, [] => some t
  | t, s :: path => (t.below? s).bind fun u => u.at? path

/-! ## What is inside an input -/

/-- The point in time inside a scalar has a property. -/
def ScalarKind.Every (time : Instant → Prop) : (k : ScalarKind) → k.plainSchema.Value → Prop
  | .bool, _ => True
  | .float64, _ => True
  | .int64, _ => True
  | .string, _ => True
  | .time, i => time i
  | .id, _ => True

/-- All points in time have a property, and all floating-point numbers outside scalars have one. -/
def InputType.Every (time : Instant → Prop) (float : Double → Prop) :
    (t : InputType) → t.schema.Value → Prop
  | .text, _ => True
  | .flag, _ => True
  | .integer _, _ => True
  | .float _, x => float x
  | .time, i => time i
  | .id, _ => True
  | .scalar _, none => True
  | .scalar k, some v => k.Every time v
  | .point, (latitude, longitude, ()) =>
    (∀ x, latitude = some x → float x) ∧ ∀ x, longitude = some x → float x
  | .optional _, none => True
  | .optional t, some v => t.Every time float v
  | .list t, vs => Each (t.Every time float) vs
  | .pair t, (v, w) => t.Every time float v ∧ t.Every time float w

/-- A place inside one of some values. -/
def InItem {α : Type} (p : α → List Json.Step → Prop) (vs : List α) : List Json.Step → Prop
  | .item n :: path => ∃ v, vs[n]? = some v ∧ p v path
  | _ => False

/-- The point in time stands at a place of a scalar. -/
def ScalarKind.HasTime (i : Instant) :
    (k : ScalarKind) → k.plainSchema.Value → List Json.Step → Prop
  | .bool, _, _ => False
  | .float64, _, _ => False
  | .int64, _, _ => False
  | .string, _, _ => False
  | .time, j, path => j = i ∧ path = []
  | .id, _, _ => False

/-- The point in time stands at a place of a value. -/
def InputType.HasTime (i : Instant) :
    (t : InputType) → t.schema.Value → List Json.Step → Prop
  | .text, _, _ => False
  | .flag, _, _ => False
  | .integer _, _, _ => False
  | .float _, _, _ => False
  | .time, j, path => j = i ∧ path = []
  | .id, _, _ => False
  | .scalar _, none, _ => False
  | .scalar k, some v, path => k.HasTime i v path
  | .point, _, _ => False
  | .optional _, none, _ => False
  | .optional t, some v, path => t.HasTime i v path
  | .list t, vs, path => InItem (t.HasTime i) vs path
  | .pair t, (v, w), path => InItem (t.HasTime i) [v, w] path

/-! ## What is written -/

section Write

variable {IsTime : String → Prop} {time : Instant → Prop}

theorem isNumeric_floatJson {x : Double} (h : x.isFinite = true) : (floatJson x).IsNumeric := by
  rw [floatJson, if_pos h]
  exact .float h

/-- A nullable scalar is written as `null` or as a value of its kind; a floating-point number that is
not finite is written as `null`. -/
theorem conforms_write_scalar (htime : ∀ i, time i → IsTime i.toText) (k : ScalarKind)
    (v : k.plainSchema.Value) (h : k.Every time v) :
    (VariableType.scalar k).Conforms IsTime (k.plainSchema.write v) := by
  cases k with
  | bool => exact Or.inr (.boolean v)
  | float64 =>
    by_cases hfinite : Double.isFinite v = true
    · exact Or.inr (.float (isNumeric_floatJson hfinite))
    · exact Or.inl (if_neg hfinite)
  | int64 => exact Or.inr (.int _)
  | string => exact Or.inr (.string v)
  | time => exact Or.inr (.dateTime (htime v h))
  | id => exact Or.inr (.id v)

/-- A point is written with the coordinates it has. -/
theorem isOf_write_point (v : Schema.point.Value)
    (h : InputType.point.Every time (fun x => x.isFinite = true) v) :
    VariableType.IsOf IsTime "Point" (Schema.point.write v) := by
  obtain ⟨latitude, longitude, ⟨⟩⟩ := v
  obtain ⟨hlatitude, hlongitude⟩ := h
  cases latitude with
  | none =>
    cases longitude with
    | none => exact .point List.nodup_nil (List.forall_mem_nil _)
    | some y =>
      have hy := isNumeric_floatJson (hlongitude y rfl)
      exact .point (List.pairwise_singleton _ _) (List.forall_mem_singleton.2 ⟨Or.inr rfl, hy⟩)
  | some x =>
    have hx := isNumeric_floatJson (hlatitude x rfl)
    cases longitude with
    | none =>
      exact .point (List.pairwise_singleton _ _) (List.forall_mem_singleton.2 ⟨Or.inl rfl, hx⟩)
    | some y =>
      have hy := isNumeric_floatJson (hlongitude y rfl)
      refine .point ?_ (List.forall_mem_cons.2
        ⟨⟨Or.inl rfl, hx⟩, List.forall_mem_singleton.2 ⟨Or.inr rfl, hy⟩⟩)
      show ["latitude", "longitude"].Nodup
      decide

/-- **The JSON that is written is a value of the declared type.** -/
theorem conforms_write (htime : ∀ i, time i → IsTime i.toText) (t : InputType)
    (v : t.schema.Value) (h : t.Every time (fun x => x.isFinite = true) v) :
    t.variableType.Conforms IsTime (t.schema.write v) := by
  induction t with
  | text => exact .string v
  | flag => exact .boolean v
  | integer range => exact .int _
  | float width => exact .float (isNumeric_floatJson h)
  | time => exact .dateTime (htime v h)
  | id => exact .id v
  | scalar k =>
    cases v with
    | none => exact Or.inl rfl
    | some v => exact conforms_write_scalar htime k v h
  | point => exact isOf_write_point v h
  | optional t ih =>
    cases v with
    | none => exact Or.inl rfl
    | some v => exact Or.inr (ih v h)
  | list t ih => exact ⟨_, rfl, List.forall_mem_map.2 fun w hw => ih w (h w hw)⟩
  | pair t ih =>
    obtain ⟨v, w⟩ := v
    exact ⟨_, rfl, List.forall_mem_cons.2 ⟨ih v h.1, List.forall_mem_singleton.2 (ih w h.2)⟩⟩

/-- What holds of the points in time at all places holds of all points in time. -/
theorem every_of_hasTime {float : Double → Prop} (t : InputType) (v : t.schema.Value)
    (hfloat : t.Every (fun _ => True) float v) (h : ∀ i path, t.HasTime i v path → time i) :
    t.Every time float v := by
  induction t with
  | text | flag | integer | id => trivial
  | float | point => exact hfloat
  | time => exact h v [] ⟨rfl, rfl⟩
  | scalar k =>
    cases v with
    | none => trivial
    | some v =>
      cases k with
      | time => exact h v [] ⟨rfl, rfl⟩
      | bool | float64 | int64 | string | id => trivial
  | optional t ih =>
    cases v with
    | none => trivial
    | some v => exact ih v hfloat h
  | list t ih =>
    intro w hw
    obtain ⟨n, hn⟩ := List.mem_iff_getElem?.1 hw
    exact ih w (hfloat w hw) fun i path hi => h i (.item n :: path) ⟨w, hn, hi⟩
  | pair t ih =>
    obtain ⟨v, w⟩ := v
    refine ⟨ih v hfloat.1 fun i path hi => ?_, ih w hfloat.2 fun i path hi => ?_⟩
    · exact h i (.item 0 :: path) ⟨v, rfl, hi⟩
    · exact h i (.item 1 :: path) ⟨w, rfl, hi⟩

theorem at?_arr_of_inItem {α : Type} {p : α → List Json.Step → Prop} {write : α → Json}
    {vs : List α} {w : Json} {path : List Json.Step}
    (hwrite : ∀ v path, p v path → (write v).at? path = some w) (h : InItem p vs path) :
    (Json.arr (vs.map write)).at? path = some w := by
  cases path with
  | nil => cases h
  | cons s path =>
    cases s with
    | member key => cases h
    | item n =>
      obtain ⟨v, hn, h⟩ := h
      have hitem : (vs.map write)[n]? = some (write v) := by
        rw [List.getElem?_map, hn, Option.map_some]
      exact Option.bind_eq_some_iff.2 ⟨_, hitem, hwrite v path h⟩

/-- **A point in time is written at its place.** -/
theorem at?_write_of_hasTime {i : Instant} {path : List Json.Step} (t : InputType)
    (v : t.schema.Value) (h : t.HasTime i v path) :
    (t.schema.write v).at? path = some (.str i.toText) := by
  induction t generalizing path with
  | text | flag | integer | float | id | point => cases h
  | time =>
    obtain ⟨rfl, rfl⟩ := h
    rfl
  | scalar k =>
    cases v with
    | none => cases h
    | some v =>
      cases k with
      | time =>
        obtain ⟨rfl, rfl⟩ := h
        rfl
      | bool | float64 | int64 | string | id => cases h
  | optional t ih =>
    cases v with
    | none => cases h
    | some v => exact ih v h
  | list t ih => exact at?_arr_of_inItem (fun w _ => ih w) h
  | pair t ih => exact at?_arr_of_inItem (fun w _ => ih w) h

end Write

/-! ## Places -/

section Places

variable {IsTime : String → Prop} {t : VariableType} {v w : Json}

/-- Inside a value of a type that is known by its name are the coordinates of a point. -/
theorem VariableType.IsOf.below {name : String} {s : Json.Step}
    (h : VariableType.IsOf IsTime name v) (hw : v.below? s = some w) :
    name = "Point" ∧ (∃ key, s = .member key) ∧ w.IsNumeric := by
  cases h with
  | @point members hkeys h =>
    cases s with
    | item i => cases hw
    | member key => exact ⟨rfl, ⟨key, rfl⟩, (h _ (mem_of_lookup? hw)).2⟩
  | float h => cases h <;> cases hw
  | int n => cases hw
  | boolean b => cases hw
  | string s => cases hw
  | id s => cases hw
  | dateTime h => cases hw

/-- **What is one step inside a value is a value of the type there.** -/
theorem VariableType.Conforms.below {s : Json.Step} (h : t.Conforms IsTime v)
    (hw : v.below? s = some w) : ∃ u, t.below? s = some u ∧ u.Conforms IsTime w := by
  induction t with
  | scalar k =>
    rcases h with rfl | h
    · cases hw
    · have hpoint := (h.below hw).1
      cases k <;> exact absurd hpoint (by decide)
  | named name =>
    obtain ⟨rfl, ⟨key, rfl⟩, hnumeric⟩ := VariableType.IsOf.below h hw
    exact ⟨.named "Float", rfl, .float hnumeric⟩
  | list t _ =>
    obtain ⟨items, rfl, hitems⟩ := h
    cases s with
    | item i => exact ⟨t, rfl, hitems w (List.mem_of_getElem? hw)⟩
    | member key => cases hw
  | optional t ih =>
    rcases h with rfl | h
    · cases hw
    · exact ih h

/-- **What is inside a value is a value of the type there**, by induction on the way to it. -/
theorem VariableType.Conforms.at {path : List Json.Step} (h : t.Conforms IsTime v)
    (hw : v.at? path = some w) : ∃ u, t.at? path = some u ∧ u.Conforms IsTime w := by
  induction path generalizing t v with
  | nil =>
    cases hw
    exact ⟨t, rfl, h⟩
  | cons s path ih =>
    obtain ⟨x, hx, hw⟩ := Option.bind_eq_some_iff.1 hw
    obtain ⟨u, hu, hconforms⟩ := h.below hx
    obtain ⟨u', hu', hconforms'⟩ := ih hconforms hw
    exact ⟨u', Option.bind_eq_some_iff.2 ⟨u, hu, hu'⟩, hconforms'⟩

/-- Only optional types and nullable scalars have the value `null`. -/
theorem VariableType.isNullable_of_conforms (h : t.Conforms IsTime .null) : t.isNullable = true := by
  cases t with
  | scalar k => rfl
  | named name =>
    cases h with
    | float h => cases h
  | list t =>
    obtain ⟨items, hitems, -⟩ := h
    cases hitems
  | optional t => rfl

end Places

/-! ## The variable -/

/-- Four digits are enough for the year. -/
def HasFullYear (i : Instant) : Prop :=
  0 ≤ i.date.year ∧ i.date.year ≤ 9999

/-- **A string for a point in time**: it shows the clock in UTC, and it is an RFC 3339 text if four
digits are enough for the year; if not, it is one but for a year with a sign. -/
structure IsTextOf (i : Instant) (s : String) : Prop where
  timestamp : IsTimestamp s
  shows : Shows s.toList i.clock
  rfc3339 : IsRfc3339 s ↔ HasFullYear i

theorem isTextOf_toText (i : Instant) : IsTextOf i i.toText where
  timestamp := i.isTimestamp_toText
  shows := i.shows_toText
  rfc3339 := i.isRfc3339_toText_iff

/-- **The declared type of a variable describes its value.**  A value without infinite numbers
becomes a variable whose JSON is one of its declared type.  Its points in time are RFC 3339 texts if
four digits are enough for their years.  The same holds of everything inside: there is a type at each
place, what stands there is a value of it, and `null` stands at optional types and nullable scalars
only.

What a string of the type `DateTime` looks like depends on its own point in time alone: every such
string is that of a point in time of the value, and each of those has its string at its place. -/
theorem ofInput_conforms (t : InputType) (v : t.schema.Value)
    (h : t.Every (fun _ => True) (fun x => x.isFinite = true) v) :
    ∃ x, Variable.ofInput (Input.of t v) = .ok x ∧ x.type = t.variableType ∧
      x.type.Conforms IsTimestamp x.value ∧
      (t.Every HasFullYear (fun x => x.isFinite = true) v → x.type.Conforms IsRfc3339 x.value) ∧
      (∀ path w, x.value.at? path = some w → ∃ u, x.type.at? path = some u ∧
        u.Conforms IsTimestamp w ∧ (w = .null → u.isNullable = true)) ∧
      x.type.Conforms (fun s => ∃ i path, t.HasTime i v path ∧ IsTextOf i s) x.value ∧
      ∀ i path, t.HasTime i v path → ∃ s, x.value.at? path = some (.str s) ∧ IsTextOf i s := by
  have hconforms : t.variableType.Conforms IsTimestamp (t.schema.write v) :=
    conforms_write (fun i _ => i.isTimestamp_toText) t v h
  refine ⟨⟨t.variableType, t.schema.write v⟩, rfl, rfl, hconforms, ?_, fun path w hw => ?_, ?_, ?_⟩
  · exact conforms_write (fun i hi => i.isRfc3339_toText_iff.2 hi) t v
  · obtain ⟨u, hu, hw⟩ := hconforms.at hw
    refine ⟨u, hu, hw, ?_⟩
    rintro rfl
    exact VariableType.isNullable_of_conforms hw
  · have htimes : t.Every (fun i => ∃ path, t.HasTime i v path) (fun x => x.isFinite = true) v :=
      every_of_hasTime t v h fun i path hi => ⟨path, hi⟩
    refine conforms_write (fun i hi => ?_) t v htimes
    obtain ⟨path, hi⟩ := hi
    exact ⟨i, path, hi, isTextOf_toText i⟩
  · intro i path hi
    exact ⟨i.toText, at?_write_of_hasTime t v hi, isTextOf_toText i⟩

/-- Two places on a way: the latitude of the first is known, of the second nothing is. -/
def waypoints : (InputType.list (.optional .point)).schema.Value :=
  [some (some (Double.ofInt 52), none, ()), none]

/-- The places become a variable of the type `[Point]`. -/
theorem ofInput_conforms_waypoints :
    (InputType.list (.optional .point)).Every (fun _ => True) (fun x => x.isFinite = true)
        waypoints ∧
      ∃ x, Variable.ofInput (Input.of _ waypoints) = .ok x ∧
        x.type = .list (.optional (.named "Point")) ∧ x.type.Conforms IsTimestamp x.value ∧
        ∃ u, x.type.at? [.item 1] = some u ∧ u.isNullable = true := by
  have hevery : (InputType.list (.optional .point)).Every (fun _ => True)
      (fun x => x.isFinite = true) waypoints := by
    refine List.forall_mem_cons.2 ⟨⟨?_, nofun⟩, List.forall_mem_singleton.2 trivial⟩
    rintro x ⟨⟩
    decide +kernel
  obtain ⟨x, hx, htype, hconforms, -, hplaces, -⟩ := ofInput_conforms _ waypoints hevery
  cases hx
  obtain ⟨u, hu, -, hnull⟩ := hplaces [.item 1] .null rfl
  exact ⟨hevery, _, rfl, htype, hconforms, u, hu, hnull rfl⟩

/-- The values of the type `DateTime` are texts of points in time. -/
theorem VariableType.IsOf.isTime {IsTime : String → Prop} {s : String}
    (h : VariableType.IsOf IsTime "DateTime" (.str s)) : IsTime s := by
  generalize hname : "DateTime" = name at h
  cases h with
  | dateTime h => exact h
  | float h => cases h
  | _ => exact absurd hname (by decide)

/-- An hour into the year 10000, which at an offset of an hour to the west has not begun. -/
def year10000 : Instant :=
  ⟨⟨10000, 1, 1, by decide⟩, 0, 59, 59, 0, by decide⟩

/-- Four digits are not enough for the year 10000, and its text is none of RFC 3339. -/
theorem not_conforms_year10000 :
    Instant.parse? "9999-12-31T23:59:59-01:00" = some year10000 ∧
      ∃ x, Variable.ofInput (Input.of .time year10000) = .ok x ∧ x.type = .named "DateTime" ∧
        x.value = .str "+10000-01-01T00:59:59Z" ∧ ¬ x.type.Conforms IsRfc3339 x.value := by
  have htext : year10000.toText = "+10000-01-01T00:59:59Z" := by decide +kernel
  refine ⟨by decide +kernel, ⟨.named "DateTime", .str year10000.toText⟩, rfl, rfl,
    congrArg Json.str htext, fun h => ?_⟩
  exact absurd (year10000.isRfc3339_toText_iff.1 h.isTime).2 (by decide)

end TypedGraphQL
