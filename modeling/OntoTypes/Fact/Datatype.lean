import OntoTypes.Error
import OntoTypes.Number.Quantity
import OntoTypes.Number.Shortest
import OntoTypes.Text.Octets
import OntoTypes.Text.Order
import OntoTypes.Time.Duration

/-!
# Datatypes

The datatypes of XML Schema that give a text a value: truth values, numbers, dates and times, and
bytes. A text that has a value is brought into the standard form of that value; a text that has
none, or that is written for any other datatype, stays as it is.

Main definitions:

* `Datatype`, `Datatype.ofIri?` — the datatypes, and the IRIs that name them;
* `Meaning`, `Datatype.meaning?` — values, and the value of a text;
* `Datatype.standardForm` — the form in which a text is kept;
* `Meaning.compare?`, `Datatype.quantity?` — values of one datatype compared, and numbers of any.
-/

namespace OntoTypes

/-- A datatype whose texts have values. Integers of some datatypes are to be within bounds. -/
inductive Datatype where
  | boolean
  | integer (least most : Option Int)
  | decimal
  | real
  | date
  | time
  | dateTime
  | year
  | yearMonth
  | duration
  | hexadecimal
  | base64
  /-- Texts without tabs and line ends. -/
  | normalized
  /-- Texts without blanks at their ends and without two blanks side by side. -/
  | token
deriving DecidableEq

/-- What a text stands for. -/
inductive Meaning where
  | truth (value : Bool)
  | integer (value : Int)
  | decimal (value : Decimal)
  | real (value : Binary64)
  | date (value : Date)
  | time (value : Clock)
  | moment (date : Date) (time : Clock)
  | year (first : Date)
  | yearMonth (first : Date)
  | duration (value : Duration)
  | hexadecimal (bytes : List UInt8)
  | base64 (bytes : List UInt8)
deriving DecidableEq

namespace Datatype

/-- The IRI of a datatype of XML Schema. -/
def schemaIri (name : String) : String := "http://www.w3.org/2001/XMLSchema#" ++ name

/-- The integers of at most `bits` bits below the sign. -/
def signed (bits : Nat) : Datatype :=
  integer (some (-(Nat.pow 2 bits : Nat))) (some ((Nat.pow 2 bits : Nat) - 1))

/-- The natural numbers of at most `bits` bits. -/
def unsigned (bits : Nat) : Datatype := integer (some 0) (some ((Nat.pow 2 bits : Nat) - 1))

/-- The datatypes by name. -/
def all : List (String × Datatype) :=
  [("boolean", boolean), ("integer", integer none none), ("decimal", decimal), ("double", real),
    ("float", real), ("nonPositiveInteger", integer none (some 0)),
    ("negativeInteger", integer none (some (-1))), ("nonNegativeInteger", integer (some 0) none),
    ("positiveInteger", integer (some 1) none), ("byte", signed 7), ("short", signed 15),
    ("int", signed 31), ("long", signed 63), ("unsignedByte", unsigned 8),
    ("unsignedShort", unsigned 16), ("unsignedInt", unsigned 32), ("unsignedLong", unsigned 64),
    ("date", date), ("time", time), ("dateTime", dateTime), ("gYear", year),
    ("gYearMonth", yearMonth), ("duration", duration), ("dayTimeDuration", duration),
    ("yearMonthDuration", duration), ("hexBinary", hexadecimal), ("base64Binary", base64),
    ("normalizedString", normalized), ("token", token)]

/-- The datatype that an IRI names. -/
def ofIri? (iri : String) : Option Datatype :=
  (all.find? fun entry => schemaIri entry.1 = iri).map (·.2)

/-! ## Reading texts -/

/-- The text before the last occurrence of a mark, if the mark occurs from place `least` on. -/
def beforeLast? (mark : Char) (least : Nat) (cs : List Char) : Option (List Char) :=
  let after := Text.afterLast mark cs
  let place := cs.length - after.length - 1
  if after.length < cs.length && least ≤ place then some (cs.take place) else none

/-- A text without the difference from universal time that may follow it: a `Z`, or a sign with
digits, of which a minus counts only from place `least` on. -/
def withoutOffset (least : Nat) (cs : List Char) : List Char :=
  let cs := if cs.getLast? = some 'Z' || cs.getLast? = some 'z' then cs.dropLast else cs
  ((beforeLast? '+' 1 cs).or (beforeLast? '-' least cs)).getD cs

/-- The date that a text stands for, whatever time or difference from universal time follows. -/
def readDate? (cs : List Char) : Option Date :=
  let cs := if cs.contains 'T' then (Text.cutAt 'T' cs).1 else withoutOffset 8 cs
  if cs.contains '-' then Date.read? cs else none

/-- The first day of a year that a text stands for. -/
def readYear? (cs : List Char) : Option Date := do
  let cs := withoutOffset 1 cs
  let year ← Number.integer? (String.ofList (cs.dropWhile (· = '0')))
  if cs.length < 4 || year < 0 then none else Date.make? year.toNat 1 1

/-- The first day of a month that a text stands for. -/
def readYearMonth? (cs : List Char) : Option Date := do
  let (years, months) := Text.cutAt '-' (withoutOffset 5 cs)
  let months ← months
  let year ← Number.integer? (String.ofList (years.dropWhile (· = '0')))
  let month ← Number.integer? (String.ofList (months.dropWhile (· = '0')))
  if years.length < 4 || months.length < 2 || year < 0 || month < 0 then none
  else Date.make? year.toNat month.toNat 1

/-- The value of a text written for a datatype. Whatever is not written as true is false. -/
def meaning? (datatype : Datatype) (text : String) : Option Meaning :=
  let cs := text.toList
  match datatype with
  | boolean => some (.truth (["1", "true"].contains (Text.lowercase text)))
  | integer .. => (Number.integer? text).map .integer
  | decimal => (Decimal.ofText? text).map .decimal
  | real => (Number.binary64? text).map .real
  | date => if cs.head? = some '-' then none else (readDate? cs).map .date
  | time => (Clock.read? cs).map .time
  | dateTime =>
    match Text.splitOn 'T' cs with
    | [day, clock] => do return .moment (← Date.read? day) (← Clock.read? clock)
    | _ => none
  | year => (readYear? cs).map .year
  | yearMonth => (readYearMonth? cs).map .yearMonth
  | duration => (Duration.read? cs).map .duration
  | hexadecimal => (Text.ofHexadecimal? cs).map .hexadecimal
  | base64 => (Text.ofBase64? cs).map .base64
  | normalized | token => none

end Datatype

/-! ## Writing values -/

/-- The standard form of a value. A time whose difference from universal time is a day or more has
none. -/
def Meaning.text? : Meaning → Option String
  | truth value => some (if value then "true" else "false")
  | integer value => some (toString value)
  | decimal value => some value.text
  | real value => some value.text
  | date value => some value.text
  | time value => value.text?
  | moment day clock => clock.text?.map fun shown => day.text ++ "T" ++ shown
  | year first => some (Number.padded 4 first.year)
  | yearMonth first => some (Number.padded 4 first.year ++ "-" ++ Number.padded 2 first.month)
  | duration value => some value.text
  | hexadecimal bytes => some (Text.hexadecimal bytes)
  | base64 bytes => some (Text.base64 bytes)

namespace Datatype

/-- A text with a blank in place of every tab and line end. -/
def withoutBreaks (cs : List Char) : List Char :=
  cs.map fun c => if c = '\t' || c = '\n' || c = '\r' then ' ' else c

/-- A text with a single blank in place of several. -/
def withSingleBlanks : List Char → List Char
  | ' ' :: ' ' :: rest => withSingleBlanks (' ' :: rest)
  | c :: rest => c :: withSingleBlanks rest
  | [] => []

/-- The form in which a text written for a datatype is kept. -/
def standardForm (datatype : Datatype) (text : String) : Except Error String :=
  let broken := withoutBreaks text.toList
  match datatype with
  | normalized => .ok (String.ofList broken)
  | token =>
    .ok (String.ofList (withSingleBlanks
      (Text.trim (fun c => Text.blanks.contains c.toNat) broken)))
  | _ =>
    match datatype.meaning? text with
    | none => .ok text
    | some value =>
      match value.text? with
      | some shown => .ok shown
      | none => .error (.offsetOutOfRange text)

/-! ## Comparing values -/

/-- The number that a text written for a datatype of numbers stands for, if it is in the bounds of
the datatype. -/
def quantity? (datatype : Datatype) (text : String) : Option Quantity :=
  match datatype, datatype.meaning? text with
  | integer least most, some (.integer n) =>
    if least.all (· ≤ n) && most.all (n ≤ ·) then some (.ofInt n) else none
  | decimal, some (.decimal x) => some (.ofDecimal x)
  | real, some (.real x) => some (.ofBinary64 x)
  | _, _ => none

end Datatype

/-- Comparison of lists of bytes, the first difference deciding. -/
def compareBytes : List UInt8 → List UInt8 → Ordering
  | [], [] => .eq
  | [], _ :: _ => .lt
  | _ :: _, [] => .gt
  | a :: as, b :: bs => if a < b then .lt else if b < a then .gt else compareBytes as bs

/-- Times without a difference from universal time go before times with one. -/
def compareOffsets (a b : Clock) : Ordering :=
  match a.offset, b.offset with
  | none, some _ => .lt
  | some _, none => .gt
  | _, _ => .eq

/-- Comparison of two values of one datatype, where they can be compared. -/
def Meaning.compare? : Meaning → Meaning → Option Ordering
  | integer a, integer b => some (Quantity.compareInts a b)
  | decimal a, decimal b => some (Quantity.compare (.ofDecimal a) (.ofDecimal b))
  | real a, real b => some (Quantity.compare (.ofBinary64 a) (.ofBinary64 b))
  | time a, time b =>
    some ((compareOffsets a b).then (Quantity.compareInts a.microseconds b.microseconds))
  | moment day a, moment other b =>
    let instant (day : Date) (time : Clock) : Int := day.dayNumber * 86400000000 + time.microseconds
    some ((compareOffsets a b).then (Quantity.compareInts (instant day a) (instant other b)))
  | duration a, duration b =>
    if a.months = 0 ∧ b.months = 0 then some (Quantity.compareInts a.microseconds b.microseconds)
    else none
  | base64 a, base64 b => some (compareBytes a b)
  | _, _ => none

end OntoTypes
