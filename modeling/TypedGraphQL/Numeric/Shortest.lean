import TypedGraphQL.Numeric.Double

/-!
# The shortest decimal of a double

A double is written with the fewest digits that read back to it, and among those with the digits
nearest to its value, the last one even if two are equally near.

## What is here

* `Interval` — the reals that round to a given double, as integers over a common denominator.
* `Decimal` — a digit string, as a number, and the power of ten of its last digit.
* `shortest` — the decimal of a positive double: for one digit, two digits and so on, the two
  neighbours of the value on that decimal grid are tried.
* `DecimalLayout` — where the point goes and when an exponent is written.
* `Decimal.text` — the characters of a decimal under a layout.
-/

set_option autoImplicit false

namespace TypedGraphQL.Numeric

/-! ## The digits -/

/-- The number `digits * 10 ^ exponent`. -/
structure Decimal where
  digits : Nat
  exponent : Int
  deriving DecidableEq, Repr

/-- The reals that round to a double: from `low / den` to `high / den`, with the ends if `closed`.
The double itself is `value / den`. -/
structure Interval where
  low : Nat
  value : Nat
  high : Nat
  den : Nat
  closed : Bool
  deriving Repr

/-- The interval of `m * 2 ^ e`.  Below a power of two the neighbours lie twice as close. -/
def Interval.ofDouble (m : Nat) (e : Int) : Interval :=
  let narrowBelow := m = Nat.pow 2 52 ∧ BinaryFormat.double.minExponent < e
  let (unit, den) := Double.toRatio 1 (e - 2)
  { low := (if narrowBelow then 4 * m - 1 else 4 * m - 2) * unit
    value := 4 * m * unit
    high := (4 * m + 2) * unit
    den
    closed := m % 2 = 0 }

/-- The decimal lies in the interval. -/
def Interval.holds (i : Interval) (d : Decimal) : Bool :=
  let (n, k) := if 0 ≤ d.exponent then (d.digits * Nat.pow 10 d.exponent.toNat * i.den, 1)
    else (d.digits * i.den, Nat.pow 10 (-d.exponent).toNat)
  if i.closed then i.low * k ≤ n && n ≤ i.high * k else i.low * k < n && n < i.high * k

/-- The value measured in units of `10 ^ exponent`, as a ratio. -/
def Interval.onGrid (i : Interval) (exponent : Int) : Nat × Nat :=
  if 0 ≤ exponent then (i.value, i.den * Nat.pow 10 exponent.toNat)
  else (i.value * Nat.pow 10 (-exponent).toNat, i.den)

/-- The neighbour of the value on the grid of `10 ^ exponent` that lies in the interval; the nearer
one if both do, and the even one if both are equally near. -/
def Interval.neighbour? (i : Interval) (exponent : Int) : Option Decimal :=
  let (n, d) := i.onGrid exponent
  let below : Decimal := ⟨n / d, exponent⟩
  let above : Decimal := ⟨n / d + 1, exponent⟩
  match i.holds below, i.holds above with
  | true, true => some ⟨roundHalfEven n d, exponent⟩
  | true, false => some below
  | false, true => some above
  | false, false => none

/-- The exponent of the leading digit of a positive ratio. -/
def leadingExponent (num den : Nat) : Int :=
  if den ≤ num then ((Nat.toDigits 10 (num / den)).length : Int) - 1
  else
    let places := (Nat.toDigits 10 ((den + num - 1) / num - 1)).length
    Int.negOfNat places

/-- The first grid, from coarse to fine, that has a neighbour in the interval. -/
def Interval.search (i : Interval) (exponent : Int) : Nat → Decimal
  | 0 => ⟨(i.onGrid exponent).1 / (i.onGrid exponent).2, exponent⟩
  | finer + 1 => (i.neighbour? exponent).getD (i.search (exponent - 1) finer)

/-- Seventeen digits always suffice. -/
def maxDigits : Nat := 17

/-- The shortest decimal that reads back to the positive double `m * 2 ^ e`. -/
def shortest (m : Nat) (e : Int) : Decimal :=
  let i := Interval.ofDouble m e
  i.search (leadingExponent i.value i.den) maxDigits

/-! ## The text -/

/-- How a decimal is laid out. -/
structure DecimalLayout where
  /-- The least exponent of the leading digit that is written without an exponent. -/
  leastFixed : Int
  /-- The exponent of the leading digit from which on an exponent is written. -/
  firstScientific : Int
  deriving Repr

/-- The digits of a number without the zeros at its end, and how many those were. -/
def trimZeros (digits : List Char) : List Char × Nat :=
  let kept := (digits.reverse.dropWhile (· == '0')).reverse
  (kept, digits.length - kept.length)

/-- The characters of a positive decimal.  Without an exponent there is at least one digit on each
side of the point; with one, a point is written only if digits follow it. -/
def Decimal.text (layout : DecimalLayout) (d : Decimal) : List Char :=
  let (digits, trimmed) := trimZeros (Nat.toDigits 10 d.digits)
  let exponent := d.exponent + trimmed
  let lead := exponent + digits.length - 1
  if lead < layout.leastFixed || layout.firstScientific ≤ lead then
    let mantissa := match digits with
      | first :: second :: rest => first :: '.' :: second :: rest
      | short => short
    mantissa ++ ['e', if lead < 0 then '-' else '+'] ++ Nat.toDigits 10 lead.natAbs
  else if 0 ≤ exponent then digits ++ List.replicate exponent.toNat '0' ++ ['.', '0']
  else if 0 ≤ lead then
    digits.take (lead + 1).toNat ++ ['.'] ++ digits.drop (lead + 1).toNat
  else ['0', '.'] ++ List.replicate (-lead - 1).toNat '0' ++ digits

end TypedGraphQL.Numeric
