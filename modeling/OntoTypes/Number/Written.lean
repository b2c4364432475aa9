import OntoTypes.Number.Binary64
import OntoTypes.Text.CharClass
import OntoTypes.Text.Split

/-!
# Numbers as they are written

Reading integers and floating-point numbers. The digits may be those of any script, a single
underscore may stand between two digits, and blanks around a number do not count.

Main definitions:

* `ofDigits` — the number a list of decimal digits writes;
* `digits?`, `padded` — numbers of a fixed width, read and written;
* `scaled?` — digits with a point and an exponent;
* `integer?`, `binary64?` — the number a text stands for, if it does.
-/

namespace OntoTypes.Number

/-- The number written by a list of decimal digits. -/
def ofDigits (cs : List Char) : Nat := cs.foldl (fun n c => 10 * n + (c.toNat - '0'.toNat)) 0

/-- A digit of any script as the ASCII digit of the same value; other characters as they are. -/
def plainDigit (c : Char) : Char :=
  match Text.decimalZeros.find? fun first => first ≤ c.toNat && c.toNat < first + 10 with
  | some first => Nat.digitChar (c.toNat - first)
  | none => c

/-- Blanks that may surround a number. The separators among the control characters of ASCII are not
among them. -/
def isMargin (c : Char) : Bool :=
  Text.blanks.contains c.toNat && !(0x1C ≤ c.toNat && c.toNat ≤ 0x1F)

/-- A number without its underscores, each of which has to stand between two digits; `before` says
whether a digit goes before the first character. -/
def withoutUnderscores? (before : Bool) : List Char → Option (List Char)
  | [] => some []
  | '_' :: c :: rest =>
    if before && c.isDigit then (withoutUnderscores? true rest).map (c :: ·) else none
  | c :: rest => if c = '_' then none else (withoutUnderscores? c.isDigit rest).map (c :: ·)

/-- The characters of a number, in ASCII and without blanks and underscores. -/
def characters? (s : String) : Option (List Char) :=
  withoutUnderscores? false ((Text.trim isMargin s.toList).map plainDigit)

/-- Whether a number has a minus sign, and the number without its sign. -/
def cutSign : List Char → Bool × List Char
  | '-' :: rest => (true, rest)
  | '+' :: rest => (false, rest)
  | cs => (false, cs)

/-- The number written by decimal digits, of which there is at least one, and nothing else. -/
def natural? (cs : List Char) : Option Nat :=
  if !cs.isEmpty && cs.all Char.isDigit then some (ofDigits cs) else none

/-- The number that as many digits as asked for write at the start of a text, and what follows. -/
def digits? (count : Nat) (cs : List Char) : Option (Nat × List Char) :=
  if count ≤ cs.length then (natural? (cs.take count)).map fun n => (n, cs.drop count) else none

/-- The number written by a text that has as many digits as asked for. -/
def allDigits? (count : Nat) (cs : List Char) : Option Nat :=
  if cs.length = count then natural? cs else none

/-- A number in decimal digits, with zeros in front up to `width` of them. -/
def padded (width n : Nat) : String :=
  let digits := Nat.toDigits 10 n
  String.ofList (List.replicate (width - digits.length) '0' ++ digits)

/-- An integer written with an optional sign. -/
def signed? (cs : List Char) : Option Int :=
  let (negative, unsigned) := cutSign cs
  (natural? unsigned).map fun n => if negative then -(n : Int) else n

/-- Digits with at most one point among or beside them, and an optional exponent: the number that
they write without the point, and the power of ten that scales it. -/
def scaled? (cs : List Char) : Option (Nat × Int) := do
  let (mantissa, exponent) := Text.cutAt 'e' (cs.map Char.toLower)
  let (whole, fraction) := Text.cutAt '.' mantissa
  let fraction := fraction.getD []
  let digits ← natural? (whole ++ fraction)
  let power ← (exponent.map signed?).getD (some 0)
  return (digits, power - fraction.length)

/-- Integers with more digits than this are not read. -/
def mostDigits : Nat := 4300

/-- The integer that a text stands for. -/
def integer? (s : String) : Option Int := do
  let cs ← characters? s
  if mostDigits < (cutSign cs).2.length then none else signed? cs

/-- The floating-point number that a text stands for. -/
def binary64? (s : String) : Option Binary64 := do
  let (negative, unsigned) := cutSign (← characters? s)
  let word := String.ofList (unsigned.map Char.toLower)
  if word = "inf" || word = "infinity" then return .infinite negative
  else if word = "nan" then return .nan
  else
    let (digits, power) ← scaled? unsigned
    return .ofDecimal negative digits power

end OntoTypes.Number
