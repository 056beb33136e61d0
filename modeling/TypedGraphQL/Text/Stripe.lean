/-!
# Sets of code points as stripes

A Unicode property is a set of code points.  Tables of such sets are dense in two ways: whole
ranges of consecutive code points, and ranges in which every second code point belongs (the
alternation of capital and small letters in many scripts).  A *stripe* covers both: it is a range
with a step.

## What is here

* `Stripe` — the first code point, the last one, and the step between members.
* `Stripe.contains` — membership in one stripe.
* `inStripes` — membership in a table.
-/

set_option autoImplicit false

namespace TypedGraphQL.Text

/-- The first member, the last member and the distance from one member to the next. -/
abbrev Stripe := Nat × Nat × Nat

/-- The code point `n` is one of the members of the stripe. -/
def Stripe.contains (s : Stripe) (n : Nat) : Bool :=
  s.1 ≤ n && n ≤ s.2.1 && (n - s.1) % s.2.2 == 0

/-- The code point of `c` lies on one of the stripes. -/
def inStripes (table : List Stripe) (c : Char) : Bool :=
  table.any (·.contains c.toNat)

end TypedGraphQL.Text
