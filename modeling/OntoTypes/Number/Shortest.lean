import OntoTypes.Number.Binary64

/-!
# Shortest decimal text of a number

A floating-point number is written with the fewest decimal digits that read back as the same number,
and among those with the digits nearest to it. The digits are found by search: for one digit, two
digits, and so on, the two neighbours of the number on that decimal grid are tried, in exact
arithmetic. Seventeen digits always suffice.

Main definitions:

* `Binary64.shortest` — the digits and the power of ten that scales them;
* `Binary64.Layout`, `Binary64.text` — where the point goes, and when an exponent is written.
-/

namespace OntoTypes.Binary64

/-- The magnitude of `significand * 2 ^ exponent` as a fraction. -/
def fraction (significand : Nat) (exponent : Int) : Nat × Nat :=
  if exponent < 0 then (significand, 1 <<< exponent.natAbs)
  else (significand <<< exponent.natAbs, 1)

/-- The power of ten of the leading digit of the positive fraction `num / den`, which is at least
`10 ^ (-340)`. -/
def leadingPower (num den : Nat) : Int :=
  (digitCount (num * Nat.pow 10 340 / den) : Int) - 341

/-- The decimals `digits * 10 ^ power` next to `num / den` on that power's grid, nearest first. -/
def gridNeighbours (num den : Nat) (power : Int) : List Nat :=
  let (num, den) :=
    if power < 0 then (num * Nat.pow 10 power.natAbs, den) else (num, den * Nat.pow 10 power.natAbs)
  let below := num / den
  let nearest := roundQuotient num den
  if nearest = below then [below, below + 1] else [below + 1, below]

/-- The first number of digits, from `tried` on, at which a neighbour reads back as `target`; after
`fuel` attempts the nearest neighbour is taken as it is. -/
def searchDigits (target : Binary64) (num den : Nat) (leading : Int) : Nat → Nat → Nat × Int
  | 0, tried =>
    let power := leading - tried
    ((gridNeighbours num den power).headD 0, power)
  | fuel + 1, tried =>
    let power := leading - tried
    match (gridNeighbours num den power).find? (ofDecimal false · power = target) with
    | some digits => (digits, power)
    | none => searchDigits target num den leading fuel (tried + 1)

/-- A number with its trailing decimal zeros moved into the power of ten. -/
def stripZeros : Nat → Nat → Int → Nat × Int
  | 0, digits, power => (digits, power)
  | fuel + 1, digits, power =>
    if digits % 10 = 0 then stripZeros fuel (digits / 10) (power + 1) else (digits, power)

/-- The shortest digits of `significand * 2 ^ exponent`, not zero, and their power of ten. -/
def shortest (significand : Nat) (exponent : Int) : Nat × Int :=
  let (num, den) := fraction significand exponent
  let (digits, power) :=
    searchDigits (.finite false significand exponent) num den (leadingPower num den) 16 0
  stripZeros 17 digits power

/-- How a number is laid out as text. -/
structure Layout where
  /-- The least power of ten of the leading digit that is written without an exponent. -/
  leastPlain : Int
  /-- The first power of ten of the leading digit that is written with an exponent. -/
  firstScaled : Int
  /-- The least number of digits of an exponent. -/
  exponentDigits : Nat
  infinity : String
  notANumber : String

/-- Plain notation from `0.0001` up to, but not including, `10 ^ 16`; at least one digit on both
sides of the point; a signed exponent of at least two digits. -/
def standardLayout : Layout where
  leastPlain := -4
  firstScaled := 16
  exponentDigits := 2
  infinity := "inf"
  notANumber := "nan"

/-- The digits with a point after the first `whole` of them. -/
def withPoint (digits : List Char) (whole : Int) : List Char :=
  let count : Int := digits.length
  if whole ≤ 0 then ['0', '.'] ++ List.replicate whole.natAbs '0' ++ digits
  else if count ≤ whole then digits ++ List.replicate (whole - count).natAbs '0' ++ ['.', '0']
  else digits.take whole.natAbs ++ ['.'] ++ digits.drop whole.natAbs

/-- The digits with a point after the first, then an `e` and the leading digit's power of ten. -/
def withExponent (layout : Layout) (digits : List Char) (leading : Int) : List Char :=
  let mantissa :=
    match digits with
    | d :: e :: rest => d :: '.' :: e :: rest
    | ds => ds
  let exponent := Nat.toDigits 10 leading.natAbs
  let padding := List.replicate (layout.exponentDigits - exponent.length) '0'
  mantissa ++ ['e', if leading < 0 then '-' else '+'] ++ padding ++ exponent

/-- The magnitude of a finite number as text. -/
def magnitudeText (layout : Layout) (significand : Nat) (exponent : Int) : List Char :=
  if significand = 0 then ['0', '.', '0']
  else
    let (digits, power) := shortest significand exponent
    let digits := Nat.toDigits 10 digits
    let leading : Int := power + digits.length - 1
    if layout.leastPlain ≤ leading ∧ leading < layout.firstScaled then
      withPoint digits (leading + 1)
    else withExponent layout digits leading

/-- The text of a number. -/
def textIn (layout : Layout) : Binary64 → String
  | finite negative significand exponent =>
    let magnitude := String.ofList (magnitudeText layout significand exponent)
    if negative then "-" ++ magnitude else magnitude
  | infinite negative => if negative then "-" ++ layout.infinity else layout.infinity
  | nan => layout.notANumber

/-- The text of a number in the standard layout. -/
def text : Binary64 → String := textIn standardLayout

end OntoTypes.Binary64
