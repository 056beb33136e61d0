/-!
# Rounding a ratio to a binary format

A binary floating-point number is a significand times a power of two.  This module rounds a ratio
of natural numbers to the nearest such number, in exact arithmetic.

## What is here

* `roundHalfEven` — the integer nearest to a quotient, a half going to the even neighbour.
* `BinaryFormat` — how large significands are and how far exponents reach; `double` and `single`
  are the two formats in use.
* `BinaryFormat.nearest?` — the significand and exponent nearest to a ratio, or `none` if the ratio
  is too large for the format.
-/

set_option autoImplicit false

namespace TypedGraphQL.Numeric

/-- The integer nearest to `num / den`; a half goes to the even neighbour. -/
def roundHalfEven (num den : Nat) : Nat :=
  let floor := num / den
  let twice := 2 * (num % den)
  if twice < den then floor
  else if den < twice then floor + 1
  else floor + floor % 2

/-- The numbers `m * 2 ^ e` with `m < 2 ^ precision` and `minExponent ≤ e ≤ maxExponent`. -/
structure BinaryFormat where
  precision : Nat
  minExponent : Int
  maxExponent : Int

/-- Numbers of 64 bits. -/
def BinaryFormat.double : BinaryFormat := ⟨53, -1074, 971⟩

/-- Numbers of 32 bits. -/
def BinaryFormat.single : BinaryFormat := ⟨24, -149, 104⟩

/-- The ratio `num / (den * 2 ^ e)`, as a pair. -/
def scaled (num den : Nat) (e : Int) : Nat × Nat :=
  if 0 ≤ e then (num, den * Nat.pow 2 e.toNat) else (num * Nat.pow 2 (-e).toNat, den)

namespace BinaryFormat

/-- The largest exponent `k` with `2 ^ k ≤ num / den`, for a positive ratio. -/
def magnitude (num den : Nat) : Int :=
  let guess : Int := (num.log2 : Int) - den.log2
  let (n, d) := scaled num den guess
  if d ≤ n then guess else guess - 1

/-- The significand and exponent nearest to `num / den`; `none` if that lies above the format. -/
def nearest? (format : BinaryFormat) (num den : Nat) : Option (Nat × Int) :=
  if num = 0 then some (0, format.minExponent)
  else
    let e := max format.minExponent (magnitude num den - (format.precision - 1 : Nat))
    let (n, d) := scaled num den e
    let m := roundHalfEven n d
    let (m, e) := if m = Nat.pow 2 format.precision then (Nat.pow 2 (format.precision - 1), e + 1)
      else (m, e)
    if format.maxExponent < e then none else some (m, e)

end BinaryFormat

end TypedGraphQL.Numeric
