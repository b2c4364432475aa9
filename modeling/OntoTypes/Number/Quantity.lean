import OntoTypes.Number.Decimal

/-!
# Numbers of different kinds compared

Integers, floating-point numbers and decimal numbers are put on one scale of exact fractions, so
that they can be compared with each other. Nothing can be said of what is not a number: it goes
before whatever it is compared with.

Main definitions: `Quantity`, `Quantity.compare`.
-/

namespace OntoTypes

/-- The size of a number. -/
inductive Quantity where
  | finite (numerator : Int) (denominator : Nat)
  | infinite (negative : Bool)
  | nan

namespace Quantity

def ofInt (n : Int) : Quantity := finite n 1

/-- The number `± digits * radix ^ exponent`. -/
def ofScaled (negative : Bool) (digits radix : Nat) (exponent : Int) : Quantity :=
  let signed (n : Nat) : Int := if negative then -(n : Int) else n
  if exponent < 0 then finite (signed digits) (Nat.pow radix exponent.natAbs)
  else finite (signed (digits * Nat.pow radix exponent.natAbs)) 1

def ofBinary64 : Binary64 → Quantity
  | .finite negative significand exponent => ofScaled negative significand 2 exponent
  | .infinite negative => infinite negative
  | .nan => nan

def ofDecimal : Decimal → Quantity
  | .finite negative digits exponent => ofScaled negative digits 10 exponent
  | .infinite negative => infinite negative
  | .nan .. => nan

/-- Comparison of integers. -/
def compareInts (a b : Int) : Ordering := if a < b then .lt else if b < a then .gt else .eq

/-- Comparison of numbers by size. -/
def compare : Quantity → Quantity → Ordering
  | finite a b, finite c d => compareInts (a * d) (c * b)
  | infinite negative, infinite other =>
    if negative = other then .eq else if negative then .lt else .gt
  | infinite negative, finite .. => if negative then .lt else .gt
  | finite .., infinite negative => if negative then .gt else .lt
  | nan, _ | _, nan => .gt

end Quantity

end OntoTypes
