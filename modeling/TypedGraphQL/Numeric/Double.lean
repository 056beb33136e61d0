import TypedGraphQL.Numeric.Rounding

/-!
# Numbers of 64 bits

A `Double` is the value of a 64-bit floating-point number, written out: a sign, a significand and
an exponent.  Every operation rounds the exact result once.

## What is here

* `Double` — the values; `Double.same` compares them as numbers, so the two zeros are the same and
  a not-a-number differs from itself.
* `Double.ofRatio`, `Double.ofInt` — the nearest value to an exact one.
* `Double.mul`, `Double.div` — product and quotient.
* `Double.powerOfTen`, `Double.scaleByTen?` — a value times a power of ten.
* `Double.narrow` — the nearest 32-bit value.
-/

set_option autoImplicit false

namespace TypedGraphQL.Numeric

/-- The value of a 64-bit floating-point number. -/
inductive Double
  /-- Not a number. -/
  | nan
  | infinite (negative : Bool)
  /-- The number `± significand * 2 ^ exponent`.  The values of the format have either a
  significand of full length or the least exponent. -/
  | finite (negative : Bool) (significand : Nat) (exponent : Int)
  deriving DecidableEq, Repr

namespace Double

/-- The value is a number and not infinite. -/
def isFinite : Double → Bool
  | finite .. => true
  | _ => false

/-- The zero with the given sign. -/
def zero (negative : Bool) : Double :=
  finite negative 0 BinaryFormat.double.minExponent

/-- The same value with the other sign. -/
def negate : Double → Double
  | nan => nan
  | infinite s => infinite (!s)
  | finite s m e => finite (!s) m e

/-- Equal as numbers. -/
def same : Double → Double → Bool
  | infinite s, infinite t => s == t
  | finite s m e, finite t n f => (m == 0 && n == 0) || (s == t && m == n && e == f)
  | _, _ => false

/-- The value of the format nearest to `± num / den`. -/
def ofRatio (format : BinaryFormat) (negative : Bool) (num den : Nat) : Double :=
  match format.nearest? num den with
  | some (m, e) => finite negative m e
  | none => infinite negative

/-- The value `± m * 2 ^ e` as a ratio. -/
def toRatio (m : Nat) (e : Int) : Nat × Nat :=
  if 0 ≤ e then (m * Nat.pow 2 e.toNat, 1) else (m, Nat.pow 2 (-e).toNat)

/-- The nearest double to an integer. -/
def ofInt (n : Int) : Double :=
  ofRatio .double (n < 0) n.natAbs 1

/-- The product. -/
def mul : Double → Double → Double
  | finite s m e, finite t n f =>
    let (num, den) := toRatio (m * n) (e + f)
    ofRatio .double (s != t) num den
  | finite s m _, infinite t => if m = 0 then nan else infinite (s != t)
  | infinite s, finite t m _ => if m = 0 then nan else infinite (s != t)
  | infinite s, infinite t => infinite (s != t)
  | _, _ => nan

/-- The quotient. -/
def div : Double → Double → Double
  | finite s m e, finite t n f =>
    if n = 0 then (if m = 0 then nan else infinite (s != t))
    else
      let (num, den) := toRatio m (e - f)
      ofRatio .double (s != t) num (den * n)
  | finite s _ _, infinite t => zero (s != t)
  | infinite s, finite t _ _ => infinite (s != t)
  | _, _ => nan

/-- The double nearest to a power of ten. -/
def powerOfTen (n : Nat) : Double :=
  ofRatio .double false (Nat.pow 10 n) 1

/-- The exponent of the largest power of ten among the doubles. -/
def maxPowerOfTen : Nat := 308

/-- The value divided by `10 ^ n`, in steps that each divide by a double. -/
def divPowerOfTen (x : Double) (n : Nat) : Double :=
  if n ≤ maxPowerOfTen then x.div (powerOfTen n)
  else if x.same (zero false) then x
  else divPowerOfTen (x.div (powerOfTen maxPowerOfTen)) (n - maxPowerOfTen)
termination_by n
decreasing_by simp only [maxPowerOfTen] at *; omega

/-- The value times `10 ^ n`; `none` if that is larger than every double. -/
def scaleByTen? (x : Double) (n : Int) : Option Double :=
  if n < 0 then some (x.divPowerOfTen n.natAbs)
  else if n.toNat ≤ maxPowerOfTen then
    let y := x.mul (powerOfTen n.toNat)
    if y.isFinite then some y else none
  else if x.same (zero false) then some x
  else none

/-- The same value with the significand and exponent of a double. -/
def widen : Double → Double
  | finite s m e => let (num, den) := toRatio m e; ofRatio .double s num den
  | x => x

/-- The nearest 32-bit value, as a double. -/
def narrow : Double → Double
  | finite s m e => let (num, den) := toRatio m e; (ofRatio .single s num den).widen
  | x => x

/-- The nearest 32-bit value to an integer, as a double. -/
def ofIntNarrow (n : Int) : Double :=
  (ofRatio .single (n < 0) n.natAbs 1).widen

end Double

end TypedGraphQL.Numeric
