/-!
# Binary floating-point numbers

The numbers with a point or an exponent that an ontology document may hold. Only reading and
printing them matters here, so a number is kept as its sign, significand and binary exponent, and
everything is exact arithmetic on natural numbers.

Main definitions:

* `Binary64` — a binary number of 53 significant bits;
* `Binary64.ofDecimal` — the nearest one to a decimal number, ties going to the even significand.
-/

namespace OntoTypes

/-- A floating-point number. A finite one is `± significand * 2 ^ exponent`; the significand is
below `2 ^ 53`, and below `2 ^ 52` only at the least exponent, `-1074`. Zero has that exponent. -/
inductive Binary64 where
  | finite (negative : Bool) (significand : Nat) (exponent : Int)
  | infinite (negative : Bool)
  | nan
deriving DecidableEq

namespace Binary64

/-- The natural number nearest to `num / den`, a tie going to the even one. -/
def roundQuotient (num den : Nat) : Nat :=
  let floor := num / den
  let twice := 2 * (num % den)
  if twice < den then floor
  else if den < twice then floor + 1
  else if floor % 2 = 0 then floor
  else floor + 1

/-- The number of bits below the leading one of `num / den`, which may be negative. -/
def floorLog2 (num den : Nat) : Int :=
  let guess : Int := (Nat.log2 num : Int) - (Nat.log2 den : Int)
  -- the quotient of the leading bits misjudges the logarithm by at most one
  let reaches : Bool :=
    if guess < 0 then decide (den ≤ num <<< guess.natAbs) else decide (den <<< guess.natAbs ≤ num)
  if reaches then guess else guess - 1

/-- The floating-point number nearest to the positive fraction `num / den`. -/
def ofFraction (negative : Bool) (num den : Nat) : Binary64 :=
  let least : Int := -1074
  let exponent := max (floorLog2 num den - 52) least
  let significand :=
    if exponent < 0 then roundQuotient (num <<< exponent.natAbs) den
    else roundQuotient num (den <<< exponent.natAbs)
  -- rounding up may carry into a fifty-fourth bit
  let (significand, exponent) :=
    if significand = 1 <<< 53 then (1 <<< 52, exponent + 1) else (significand, exponent)
  if 971 < exponent then .infinite negative else .finite negative significand exponent

/-- The number of decimal digits of a natural number; zero has none. -/
def digitCount (n : Nat) : Nat := if n = 0 then 0 else (Nat.toDigits 10 n).length

/-- The floating-point number nearest to `± digits * 10 ^ exponent`. -/
def ofDecimal (negative : Bool) (digits : Nat) (exponent : Int) : Binary64 :=
  let magnitude := (digitCount digits : Int) + exponent
  if digits = 0 ∨ magnitude < -330 then .finite negative 0 (-1074)
  else if 310 < magnitude then .infinite negative
  else if exponent < 0 then ofFraction negative digits (Nat.pow 10 exponent.natAbs)
  else ofFraction negative (digits * Nat.pow 10 exponent.natAbs) 1

end Binary64

end OntoTypes
