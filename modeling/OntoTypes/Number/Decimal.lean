import OntoTypes.Number.Written

/-!
# Decimal numbers

Decimal numbers of any size, which keep the number of places they were written with.

Main definitions:

* `Decimal`, `Decimal.ofText?` — a decimal number and how it is read;
* `Decimal.text` — the number in plain notation, without an exponent.
-/

namespace OntoTypes

/-- A decimal number. A finite one is `± digits * 10 ^ exponent`. What is not a number may carry a
number as its mark. -/
inductive Decimal where
  | finite (negative : Bool) (digits : Nat) (exponent : Int)
  | infinite (negative : Bool)
  | nan (negative signaling : Bool) (mark : Nat)
deriving DecidableEq

namespace Decimal

/-- The greatest power of ten of a leading digit. -/
def mostPower : Int := 999999999999999999

/-- A finite decimal number, if its size can be represented. -/
def finite? (negative : Bool) (digits : Nat) (exponent : Int) : Option Decimal :=
  let leading := exponent + (Binary64.digitCount digits : Int) - 1
  if mostPower < leading || exponent < -2 * mostPower then none
  else some (finite negative digits exponent)

/-- What a word without its sign stands for, if it is not a finite number. -/
def special? (negative : Bool) (word : List Char) : Option Decimal :=
  let markAfter (start : String) (signaling : Bool) : Option Decimal :=
    if start.toList.isPrefixOf word then
      let mark := word.drop start.length
      if mark.all Char.isDigit then some (nan negative signaling (Number.ofDigits mark)) else none
    else none
  if word = "inf".toList || word = "infinity".toList then some (infinite negative)
  else (markAfter "nan" false).or (markAfter "snan" true)

/-- The decimal number that a text stands for. Underscores do not count, wherever they stand. -/
def ofText? (s : String) : Option Decimal :=
  let isBlank (c : Char) : Bool := Text.blanks.contains c.toNat
  let cs := ((Text.trim isBlank s.toList).filter (· ≠ '_')).map Number.plainDigit
  let (negative, unsigned) := Number.cutSign cs
  (special? negative (unsigned.map Char.toLower)).or
    ((Number.scaled? unsigned).bind fun (digits, exponent) => finite? negative digits exponent)

/-- The digits of a number with `places` of them behind a point. -/
def withPlaces (places : Nat) (digits : List Char) : List Char :=
  let padded := List.replicate (places + 1 - digits.length) '0' ++ digits
  padded.take (padded.length - places) ++ '.' :: padded.drop (padded.length - places)

/-- The magnitude of a finite number in plain notation. -/
def magnitudeText (digits : Nat) (exponent : Int) : List Char :=
  if exponent < 0 then withPlaces exponent.natAbs (Nat.toDigits 10 digits)
  else if digits = 0 then ['0']
  else Nat.toDigits 10 digits ++ List.replicate exponent.natAbs '0'

/-- A decimal number in plain notation. -/
def text (d : Decimal) : String :=
  let signed (negative : Bool) (magnitude : String) : String :=
    if negative then "-" ++ magnitude else magnitude
  match d with
  | finite negative digits exponent =>
    signed negative (String.ofList (magnitudeText digits exponent))
  | infinite negative => signed negative "Infinity"
  | nan negative signaling mark =>
    signed negative ((if signaling then "sNaN" else "NaN") ++
      (if mark = 0 then "" else toString mark))

end Decimal

end OntoTypes
