import TypedGraphQL.Json.ReadError
import TypedGraphQL.Time.Instant

/-!
# Types that are read from JSON and written to it

A `Schema` describes a type whose values travel as JSON.  Its values are ordinary Lean values,
`Schema.Value`, so what has been read needs no further checks.

## What is here

* `Schema`, `Fields` — the descriptions, and `Schema.Value`, `Fields.Value` — the values.
* `Schema.read` — reads a value from a parse tree, from left to right up to the first problem.
* `Schema.readText`, `Schema.readJson` — read a whole text and a value already at hand.
* `Schema.write` — the JSON of a value.

## Absent, null and nothing

An optional value is `none` if it is `null`, and also if its field is missing from an object.  A
*sparse* field is an optional one that goes further: it is not written when it holds nothing, and
may also be missing at the end of an array that lists the fields of a record.
-/

set_option autoImplicit false

namespace TypedGraphQL

open Json Numeric

/-! ## Descriptions -/

/-- A range of integers, under the name that messages use. -/
structure IntRange where
  name : String
  least : Int
  greatest : Int
  deriving DecidableEq, Repr

/-- The signed integers of a number of bits. -/
def IntRange.signed (bits : Nat) : IntRange :=
  ⟨s!"i{bits}", -Int.pow 2 (bits - 1), Int.pow 2 (bits - 1) - 1⟩

/-- The unsigned integers of a number of bits. -/
def IntRange.unsigned (bits : Nat) : IntRange :=
  ⟨s!"u{bits}", 0, Int.pow 2 bits - 1⟩

/-- The integers of a range. -/
abbrev IntRange.Member (r : IntRange) : Type :=
  { n : Int // r.least ≤ n ∧ n ≤ r.greatest }

/-- The integer as a member of the range. -/
def IntRange.member? (r : IntRange) (n : Int) : Option r.Member :=
  if h : r.least ≤ n ∧ n ≤ r.greatest then some ⟨n, h⟩ else none

/-- How exact a floating-point number is. -/
inductive FloatWidth
  | single
  | double
  deriving DecidableEq, Repr

/-- The name that messages use. -/
def FloatWidth.name : FloatWidth → String
  | single => "f32"
  | double => "f64"

mutual

/-- A type whose values travel as JSON. -/
inductive Schema
  /-- Any JSON. -/
  | free
  | text
  | flag
  | integer (range : IntRange)
  | float (width : FloatWidth)
  | time
  /-- A value or `null`. -/
  | optional (s : Schema)
  | list (s : Schema)
  /-- Exactly two values. -/
  | pair (s : Schema)
  /-- Values under arbitrary keys. -/
  | dictionary (s : Schema)
  | record (name : String) (fields : Fields)

/-- The fields of a record in declared order. -/
inductive Fields
  | nil
  | required (name : String) (s : Schema) (rest : Fields)
  | sparse (name : String) (s : Schema) (rest : Fields)

end

/-- How many fields there are. -/
def Fields.length : Fields → Nat
  | .nil => 0
  | .required _ _ rest => rest.length + 1
  | .sparse _ _ rest => rest.length + 1

mutual

/-- The values of a type. -/
def Schema.Value : Schema → Type
  | .free => Json
  | .text => String
  | .flag => Bool
  | .integer range => range.Member
  | .float _ => Double
  | .time => Instant
  | .optional s => Option s.Value
  | .list s => List s.Value
  | .pair s => s.Value × s.Value
  | .dictionary s => List (String × s.Value)
  | .record _ fields => fields.Value

/-- The values of the fields of a record. -/
def Fields.Value : Fields → Type
  | .nil => Unit
  | .required _ s rest => s.Value × rest.Value
  | .sparse _ s rest => Option s.Value × rest.Value

end

/-- What has been read so far of the fields of a record. -/
def Fields.Slots : Fields → Type
  | .nil => Unit
  | .required _ s rest => Option s.Value × rest.Slots
  | .sparse _ s rest => Option (Option s.Value) × rest.Slots

/-- Nothing has been read. -/
def Fields.noSlots : (fields : Fields) → fields.Slots
  | .nil => ()
  | .required _ _ rest => (none, rest.noSlots)
  | .sparse _ _ rest => (none, rest.noSlots)

/-! ## Phrases for what is expected -/

/-- `1 element`, `2 elements`, … -/
def elementCount (n : Nat) : String :=
  if n = 1 then "1 element" else s!"{n} elements"

/-- The record as messages name it. -/
def recordPhrase (name : String) : String := "struct " ++ name

/-- The record and the number of its fields. -/
def recordLengthPhrase (name : String) (fields : Fields) : String :=
  recordPhrase name ++ " with " ++ elementCount fields.length

/-- The phrase for a point in time. -/
def timePhrase : String := "an RFC 3339 formatted date and time string"

/-- The phrase for two values. -/
def pairPhrase : String := "an array of length 2"

/-! ## Reading -/

/-- Where a tree comes from.  An array that is too long is text that should have ended, or a value
of the wrong length. -/
inductive Origin
  | text
  | value
  deriving DecidableEq, Repr

/-- The error for an array of `length` items that is too long. -/
def Origin.tooLong (length : Nat) : Origin → ReadError
  | text => .flaw .malformed
  | value => .mismatch (.invalidLength length "fewer elements in array")

/-- The number of levels of arrays and objects that may be read. -/
def maxLevels : Nat := 127

/-- Goes one level down. -/
def descend (levels : Nat) : Except ReadError Nat :=
  match levels with
  | 0 => .error (.flaw .malformed)
  | below + 1 => .ok below

/-- The text of a key that is read. -/
def readKey (key : Option String) : Except ReadError String :=
  match key with
  | some k => .ok k
  | none => .error (.flaw .malformed)

/-- Passes over a tree. -/
def skip (t : ParseTree) : Except ReadError Unit :=
  match t.skip? with
  | none => .ok ()
  | some f => .error (.flaw f)

/-- Reads a value or `null`. -/
def readNullable {α : Type} (read : ParseTree → Except ReadError α) (t : ParseTree) :
    Except ReadError (Option α) :=
  match t with
  | .null => .ok none
  | t => do
    let v ← read t
    return some v

/-- Reads every item. -/
def readItems {α : Type} (read : ParseTree → Except ReadError α) :
    List ParseTree → Except ReadError (List α)
  | [] => .ok []
  | t :: rest => do
    let v ← read t
    let vs ← readItems read rest
    return v :: vs

/-- Reads every member. -/
def readMembers {α : Type} (read : ParseTree → Except ReadError α) :
    List (Option String × ParseTree) → Except ReadError (List (String × α))
  | [] => .ok []
  | (k, t) :: rest => do
    let key ← readKey k
    let v ← read t
    let vs ← readMembers read rest
    return (key, v) :: vs

/-- Entries in the order of their keys; the last of several under one key counts. -/
def entriesOf {α : Type} (members : List (String × α)) : List (String × α) :=
  members.foldl (fun done m => insertEntry m.1 m.2 done) []

mutual

/-- Reads any JSON. -/
def readFree (levels : Nat) : ParseTree → Except ReadError Json
  | .null => .ok .null
  | .bool b => .ok (.bool b)
  | .number (some n) => .ok (.number n)
  | .number none => .error (.flaw .malformed)
  | .str (some s) => .ok (.str s)
  | .str none => .error (.flaw .malformed)
  | .array items unclosed => do
    let levels ← descend levels
    let vs ← readFreeItems levels items
    closed unclosed
    return .arr vs
  | .object members unclosed => do
    let levels ← descend levels
    let vs ← readFreeMembers levels members
    closed unclosed
    return objectOf vs
  | .broken d => .error (.flaw d.whenRead)

/-- Reads items of any kind. -/
def readFreeItems (levels : Nat) : List ParseTree → Except ReadError (List Json)
  | [] => .ok []
  | t :: rest => do
    let v ← readFree levels t
    let vs ← readFreeItems levels rest
    return v :: vs

/-- Reads members of any kind. -/
def readFreeMembers (levels : Nat) :
    List (Option String × ParseTree) → Except ReadError (List (String × Json))
  | [] => .ok []
  | (k, t) :: rest => do
    let key ← readKey k
    let v ← readFree levels t
    let vs ← readFreeMembers levels rest
    return (key, v) :: vs

end

/-- The value of a type whose field is missing. -/
def Schema.missing? : (s : Schema) → Option s.Value
  | .optional _ => some none
  | _ => none

/-- The fields of a record once all members have been read. -/
def Fields.finish : (fields : Fields) → fields.Slots → Except ReadError fields.Value
  | .nil, _ => .ok ()
  | .required name s rest, (slot, slots) =>
    match slot.or s.missing? with
    | none => .error (.mismatch (.missingField name))
    | some v => do
      let vs ← rest.finish slots
      return (v, vs)
  | .sparse _ _ rest, (slot, slots) => do
    let vs ← rest.finish slots
    return (slot.getD none, vs)

/-- Runs over the members of an object, each of which may change what has been read. -/
def readSlots {σ : Type} (put : String → ParseTree → σ → Except ReadError σ) (slots : σ) :
    List (Option String × ParseTree) → Except ReadError σ
  | [] => .ok slots
  | (k, t) :: rest => do
    let key ← readKey k
    let slots ← put key t slots
    readSlots put slots rest

mutual

/-- Reads a value of the type from a tree, where `levels` more levels may be entered. -/
def Schema.read (origin : Origin) : (s : Schema) → (levels : Nat) → ParseTree →
    Except ReadError s.Value
  | .free, levels, t => readFree levels t
  | .text, _, t =>
    match t with
    | .str (some s) => .ok s
    | t => reject "a string" t
  | .flag, _, t =>
    match t with
    | .bool b => .ok b
    | t => reject "a boolean" t
  | .integer range, _, t =>
    match t with
    | .number (some (.int n)) =>
      match range.member? n with
      | some m => .ok m
      | none => .error (.mismatch (.invalidValue (.number (.int n)) range.name))
    | t => reject range.name t
  | .float width, _, t =>
    match t with
    | .number (some (.int n)) =>
      .ok (match width with
        | .single => Double.ofIntNarrow n
        | .double => Double.ofInt n)
    | .number (some (.float x)) =>
      .ok (match width with
        | .single => x.narrow
        | .double => x)
    | t => reject width.name t
  | .time, _, t =>
    match t with
    | .str (some s) =>
      match Instant.parse? s with
      | some i => .ok i
      | none => .error (.mismatch (.invalidTime s))
    | t => reject timePhrase t
  | .optional s, levels, t => readNullable (s.read origin levels) t
  | .list s, levels, t =>
    match t with
    | .array items unclosed => do
      let levels ← descend levels
      let vs ← readItems (s.read origin levels) items
      closed unclosed
      return vs
    | t => reject "a sequence" t
  | .pair s, levels, t =>
    match t with
    | .array items unclosed => do
      let levels ← descend levels
      match items with
      | [] => do
        closed unclosed
        .error (.mismatch (.invalidLength 0 pairPhrase))
      | a :: more => do
        let v ← s.read origin levels a
        match more with
        | [] => do
          closed unclosed
          .error (.mismatch (.invalidLength 1 pairPhrase))
        | b :: more => do
          let w ← s.read origin levels b
          match more with
          | [] => do
            closed unclosed
            return (v, w)
          | _ => .error (origin.tooLong items.length)
    | t => reject pairPhrase t
  | .dictionary s, levels, t =>
    match t with
    | .object members unclosed => do
      let levels ← descend levels
      let vs ← readMembers (s.read origin levels) members
      closed unclosed
      return entriesOf vs
    | t => reject "a map" t
  | .record name fields, levels, t =>
    match t with
    | .array items unclosed => do
      let levels ← descend levels
      fields.readArray origin levels (recordLengthPhrase name fields) unclosed 0 items
    | .object members unclosed => do
      let levels ← descend levels
      let slots ← readSlots (fields.put origin levels) fields.noSlots members
      closed unclosed
      fields.finish slots
    | t => reject (recordPhrase name) t

/-- Reads one member of an object into the field of that name; a member without a field is passed
over. -/
def Fields.put (origin : Origin) : (fields : Fields) → (levels : Nat) → (key : String) →
    ParseTree → fields.Slots → Except ReadError fields.Slots
  | .nil, _, _, t, slots => do
    skip t
    return slots
  | .required name s rest, levels, key, t, (slot, slots) =>
    if key = name then
      if slot.isSome then .error (.mismatch (.duplicateField name))
      else do
        let v ← s.read origin levels t
        return (some v, slots)
    else do
      let slots ← rest.put origin levels key t slots
      return (slot, slots)
  | .sparse name s rest, levels, key, t, (slot, slots) =>
    if key = name then
      if slot.isSome then .error (.mismatch (.duplicateField name))
      else do
        let v ← readNullable (s.read origin levels) t
        return (some v, slots)
    else do
      let slots ← rest.put origin levels key t slots
      return (slot, slots)

/-- Reads the fields from the items of an array, `before` items of which have been read. -/
def Fields.readArray (origin : Origin) : (fields : Fields) → (levels : Nat) →
    (phrase : String) → (unclosed : Option Damage) → (before : Nat) → List ParseTree →
    Except ReadError fields.Value
  | .nil, _, _, unclosed, before, items =>
    match items with
    | [] => closed unclosed
    | items => .error (origin.tooLong (before + items.length))
  | .required _ s rest, levels, phrase, unclosed, before, items =>
    match items with
    | [] => do
      closed unclosed
      .error (.mismatch (.invalidLength before phrase))
    | t :: items => do
      let v ← s.read origin levels t
      let vs ← rest.readArray origin levels phrase unclosed (before + 1) items
      return (v, vs)
  | .sparse _ s rest, levels, phrase, unclosed, before, items =>
    match items with
    | [] => do
      closed unclosed
      let vs ← rest.readArray origin levels phrase unclosed before []
      return (none, vs)
    | t :: items => do
      let v ← readNullable (s.read origin levels) t
      let vs ← rest.readArray origin levels phrase unclosed (before + 1) items
      return (v, vs)

end

/-- Reads a whole text, behind which only blanks may follow. -/
def Schema.readText (s : Schema) (bytes : Bytes) : Except ReadError s.Value := do
  let (tree, trailing) := parse bytes
  let v ← s.read .text maxLevels tree
  if trailing then .error (.flaw .malformed) else return v

/-- Reads a value at hand. -/
def Schema.readJson (s : Schema) (v : Json) : Except ReadError s.Value :=
  s.read .value maxLevels (.ofJson v)

/-! ## Writing -/

/-- The JSON of a floating-point number.  What is not a finite number is `null`. -/
def floatJson (x : Double) : Json :=
  if x.isFinite then .number (.float x) else .null

mutual

/-- The JSON of a value. -/
def Schema.write : (s : Schema) → s.Value → Json
  | .free, v => v
  | .text, v => .str v
  | .flag, v => .bool v
  | .integer _, v => .int v.val
  | .float _, v => floatJson v
  | .time, v => .str (Instant.toText v)
  | .optional _, none => .null
  | .optional s, some v => s.write v
  | .list s, vs => .arr (List.map s.write vs)
  | .pair s, (v, w) => .arr [s.write v, s.write w]
  | .dictionary s, vs => .obj (List.map (fun e => (e.1, s.write e.2)) vs)
  | .record _ fields, vs => .obj (fields.write vs)

/-- The members of a record. -/
def Fields.write : (fields : Fields) → fields.Value → List (String × Json)
  | .nil, _ => []
  | .required name s rest, (v, vs) => (name, s.write v) :: rest.write vs
  | .sparse _ _ rest, (none, vs) => rest.write vs
  | .sparse name s rest, (some v, vs) => (name, s.write v) :: rest.write vs

end

end TypedGraphQL
