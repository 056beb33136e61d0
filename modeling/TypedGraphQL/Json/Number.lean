import TypedGraphQL.Numeric.Shortest

/-!
# Numbers of JSON

A number of JSON is an integer if it fits 64 bits, signed or unsigned, and a double otherwise.  The
two are different values even where they agree as numbers: `1` is not `1.0`.

## What is here

* `Number` — an integer or a double; `Number.same` is equality.
* `Numeral` — a number as it is spelled: sign, digits, digits after the point, exponent.
* `Numeral.value?` — what a numeral stands for; `none` if it is larger than every double.
* `Number.text` — the shortest spelling.

## How a numeral is read

The digits are collected into a significand of 64 bits.  Once it is full, the digits that follow
before the point only raise the exponent, and those after the point are not looked at.  The
significand is then rounded to a double and scaled by a power of ten; the result is therefore not
always the double nearest to the numeral, but always the same one.
-/

set_option autoImplicit false

namespace TypedGraphQL.Json

open Numeric

/-- An integer or a double. -/
inductive Number
  | int (n : Int)
  | float (x : Double)
  deriving DecidableEq, Repr

/-- Equal as values: of the same sort, and equal in it. -/
def Number.same : Number → Number → Bool
  | .int m, .int n => m == n
  | .float x, .float y => x.same y
  | _, _ => false

/-! ## Reading -/

/-- The spelling of a number.  `fraction` are the digits after the point and `exponent` the number
after the `e`; a numeral with neither is an integer. -/
structure Numeral where
  negative : Bool
  digits : List Nat
  fraction : Option (List Nat)
  exponent : Option Int
  deriving DecidableEq, Repr

/-- The largest significand. -/
def maxUnsigned : Nat := Nat.pow 2 64 - 1

/-- The least integer. -/
def minSigned : Int := -Int.pow 2 63

theorem maxUnsigned_eq : maxUnsigned = 18446744073709551615 := rfl

theorem minSigned_eq : minSigned = -9223372036854775808 := rfl

/-- Collects digits into the significand until it is full; the digits left over are returned. -/
def fillSignificand (significand : Nat) : List Nat → Nat × List Nat
  | [] => (significand, [])
  | d :: rest =>
    if maxUnsigned < significand * 10 + d then (significand, d :: rest)
    else fillSignificand (significand * 10 + d) rest

/-- A significand times a power of ten, with a sign. -/
def scaledFloat? (negative : Bool) (significand : Nat) (exponent : Int) : Option Number :=
  ((Double.ofInt significand).scaleByTen? exponent).map fun x =>
    .float (if negative then x.negate else x)

/-- What a numeral stands for; `none` if it is larger than every double. -/
def Numeral.value? (n : Numeral) : Option Number :=
  let (whole, left) := fillSignificand 0 n.digits
  match n.fraction, n.exponent, left with
  | none, none, [] =>
    if n.negative then
      if whole = 0 then some (.float (.zero true))
      else if minSigned ≤ -(whole : Int) then some (.int (-whole))
      else some (.float (Double.ofInt whole).negate)
    else some (.int whole)
  | fraction, exponent, left =>
    let after := fraction.getD []
    let (significand, unread) := fillSignificand whole after
    scaledFloat? n.negative significand
      (left.length - (after.length - unread.length : Nat) + exponent.getD 0)

/-! ## Writing -/

/-- Doubles are written without an exponent from `0.00001` up to below `1e+16`. -/
def floatLayout : DecimalLayout := ⟨-5, 16⟩

/-- The characters of a finite double. -/
def finiteText (negative : Bool) (m : Nat) (e : Int) : List Char :=
  let digits := if m = 0 then ['0', '.', '0'] else (shortest m e).text floatLayout
  if negative then '-' :: digits else digits

/-- The decimal digits of an integer. -/
def intText (n : Int) : List Char :=
  if n < 0 then '-' :: Nat.toDigits 10 n.natAbs else Nat.toDigits 10 n.natAbs

/-- The shortest spelling of a number.  What is not a finite number has none and is `null`. -/
def Number.text : Number → List Char
  | .int n => intText n
  | .float (.finite s m e) => finiteText s m e
  | .float _ => ['n', 'u', 'l', 'l']

end TypedGraphQL.Json
