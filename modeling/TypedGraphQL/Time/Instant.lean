import TypedGraphQL.Time.Calendar

/-!
# Points in time

A point in time is kept as its date and time of day in UTC, to the nanosecond.  A minute may have a
sixtieth second, as it does when a leap second is inserted.

## What is here

* `Instant` — a point in time.
* `Instant.text` — its RFC 3339 text: always in UTC, with as many groups of three fraction digits
  as are needed.
* `Instant.parse?` — reads an RFC 3339 text with any offset, and texts written more loosely.
* `Instant.inRange` — the years that are told apart.
-/

set_option autoImplicit false

namespace TypedGraphQL

/-- The time of day exists. -/
def IsTimeOfDay (hour minute second nano : Nat) : Prop :=
  hour < 24 ∧ minute < 60 ∧ second ≤ 60 ∧ nano < Nat.pow 10 9

instance (hour minute second nano : Nat) : Decidable (IsTimeOfDay hour minute second nano) :=
  inferInstanceAs (Decidable (_ ∧ _))

/-- A point in time, in UTC. -/
structure Instant where
  date : Date
  hour : Nat
  minute : Nat
  second : Nat
  nano : Nat
  isTimeOfDay : IsTimeOfDay hour minute second nano
  deriving DecidableEq

namespace Instant

/-- The least and the greatest year. -/
def yearRange : Int × Int := (-262143, 262142)

/-- The year can be told apart from others. -/
def inRange (year : Int) : Bool :=
  yearRange.1 ≤ year && year ≤ yearRange.2

theorem inRange_iff {year : Int} : inRange year = true ↔ -262143 ≤ year ∧ year ≤ 262142 := by
  rw [inRange, Bool.and_eq_true, decide_eq_true_iff, decide_eq_true_iff]
  rfl

/-! ## Writing -/

/-- The decimal digits of a number, with zeros in front up to a width. -/
def padded (width n : Nat) : List Char :=
  let digits := Nat.toDigits 10 n
  List.replicate (width - digits.length) '0' ++ digits

/-- A year of four digits; a year outside `0000` to `9999` has a sign. -/
def yearText (year : Int) : List Char :=
  if 0 ≤ year ∧ year ≤ 9999 then padded 4 year.toNat
  else (if year < 0 then '-' else '+') :: padded 4 year.natAbs

/-- The fraction of a second in the fewest groups of three digits. -/
def fractionText (nano : Nat) : List Char :=
  if nano = 0 then []
  else if nano % 1000000 = 0 then '.' :: padded 3 (nano / 1000000)
  else if nano % 1000 = 0 then '.' :: padded 6 (nano / 1000)
  else '.' :: padded 9 nano

/-- The RFC 3339 text of a point in time. -/
def text (t : Instant) : List Char :=
  yearText t.date.year ++ '-' :: padded 2 t.date.month ++ '-' :: padded 2 t.date.day ++
    'T' :: padded 2 t.hour ++ ':' :: padded 2 t.minute ++ ':' :: padded 2 t.second ++
    fractionText t.nano ++ ['Z']

/-- The RFC 3339 text as a string. -/
def toText (t : Instant) : String :=
  String.ofList t.text

/-! ## Reading

A text is read part by part.  Each reader gives what it has read, and the text behind it. -/

/-- A blank, as Unicode has it. -/
def isBlank (c : Char) : Bool :=
  let n := c.toNat
  (9 ≤ n && n ≤ 13) || (8192 ≤ n && n ≤ 8202) ||
    [32, 133, 160, 5760, 8232, 8233, 8239, 8287, 12288].contains n

/-- The text behind the blanks that it begins with. -/
def skipBlanks (s : List Char) : List Char :=
  s.dropWhile isBlank

/-- The number that decimal digits spell. -/
def digitsToNat (digits : List Char) : Nat :=
  digits.foldl (fun n c => n * 10 + (c.toNat - 48)) 0

/-- Exactly `count` digits from the front. -/
def readDigits? (count : Nat) (s : List Char) : Option (Nat × List Char) :=
  let digits := s.take count
  if digits.length = count ∧ digits.all Char.isDigit then some (digitsToNat digits, s.drop count)
  else none

/-- What the digits at the front amount to: all that there are, up to `most`, and at least one. -/
def readDigitRun? {α : Type} (most : Nat) (value : List Char → α) (s : List Char) :
    Option (α × List Char) :=
  let digits := (s.takeWhile Char.isDigit).take most
  if digits = [] then none else some (value digits, s.drop digits.length)

/-- One of the given characters. -/
def readOneOf? (chars : List Char) : List Char → Option (List Char)
  | [] => none
  | c :: s => if chars.contains c then some s else none

/-- A mark between two numbers, behind blanks. -/
def readMark? (c : Char) (s : List Char) : Option (List Char) :=
  readOneOf? [c] (skipBlanks s)

/-- A number in one or two digits, behind blanks. -/
def readNumber? (s : List Char) : Option (Nat × List Char) :=
  readDigitRun? 2 digitsToNat (skipBlanks s)

/-- A year, behind blanks: up to four digits, or a sign and any number of digits. -/
def readYear? (s : List Char) : Option (Int × List Char) :=
  match skipBlanks s with
  | '+' :: s => readDigitRun? s.length (fun digits => (digitsToNat digits : Int)) s
  | '-' :: s => readDigitRun? s.length (fun digits => -(digitsToNat digits : Int)) s
  | s => readDigitRun? 4 (fun digits => (digitsToNat digits : Int)) s

/-- The nanoseconds that digits behind a point spell; those after the ninth are not looked at. -/
def fractionToNat (digits : List Char) : Nat :=
  let kept := digits.take 9
  digitsToNat kept * Nat.pow 10 (9 - kept.length)

/-- The fraction of a second, if there is one. -/
def readFraction? (s : List Char) : Option (Nat × List Char) :=
  match s with
  | '.' :: s => readDigitRun? s.length fractionToNat s
  | s => some (0, s)

/-- What may stand between the hours and the minutes of an offset, any number of times. -/
def isOffsetMark (c : Char) : Bool :=
  c == ':' || isBlank c

/-- The hours and the minutes of an offset, in minutes. -/
def readMinutes? (s : List Char) : Option (Nat × List Char) := do
  let (hours, s) ← readDigits? 2 s
  let (minutes, s) ← readDigits? 2 (s.dropWhile isOffsetMark)
  if hours < 24 ∧ minutes < 60 then some (hours * 60 + minutes, s) else none

/-- A name of UTC, in letters of either case. -/
def readUtc? (s : List Char) : Option (List Char) :=
  (readOneOf? ['Z', 'z'] s).or do
    let s ← readOneOf? ['U', 'u'] s
    let s ← readOneOf? ['T', 't'] s
    readOneOf? ['C', 'c'] s

/-- The offset from UTC in minutes.  A minus may be that of ASCII or that of Unicode. -/
def readOffset? (s : List Char) : Option (Int × List Char) :=
  match readUtc? s with
  | some rest => some (0, rest)
  | none =>
    match s with
    | [] => none
    | sign :: s =>
      if sign = '+' then (readMinutes? s).map fun (n, rest) => ((n : Int), rest)
      else if sign = '-' ∨ sign = '−' then
        (readMinutes? s).map fun (n, rest) => (-(n : Int), rest)
      else none

/-- The point in time whose clock shows the given local time, at an offset of less than a day. -/
def ofLocal? (date : Date) (hour minute second nano : Nat) (offset : Int) : Option Instant :=
  let minutes : Int := hour * 60 + minute - offset
  let (date, minutes) :=
    if minutes < 0 then (date.previous, minutes + 1440)
    else if 1440 ≤ minutes then (date.next, minutes - 1440)
    else (date, minutes)
  let hour := (minutes / 60).toNat
  let minute := (minutes % 60).toNat
  if h : IsTimeOfDay hour minute second nano then
    if inRange date.year then some ⟨date, hour, minute, second, nano, h⟩ else none
  else none

/-- Reads an RFC 3339 text, or a looser one: with blanks around its parts, with fewer digits, with a
blank for the `T`, with an offset in another form. -/
def parseChars? (s : List Char) : Option Instant := do
  let (year, s) ← readYear? s
  let s ← readMark? '-' s
  let (month, s) ← readNumber? s
  let s ← readMark? '-' s
  let (day, s) ← readNumber? s
  let s ← readOneOf? ['T', 't', ' '] s
  let (hour, s) ← readNumber? s
  let s ← readMark? ':' s
  let (minute, s) ← readNumber? s
  let s ← readMark? ':' s
  let (second, s) ← readNumber? s
  let (nano, s) ← readFraction? s
  let (offset, s) ← readOffset? (skipBlanks s)
  if skipBlanks s = [] ∧ inRange year ∧ IsTimeOfDay hour minute second nano then
    let date ← Date.of? year month day
    ofLocal? date hour minute second nano offset
  else none

/-- Reads an RFC 3339 text, from a string. -/
def parse? (s : String) : Option Instant :=
  parseChars? s.toList

end Instant

end TypedGraphQL
