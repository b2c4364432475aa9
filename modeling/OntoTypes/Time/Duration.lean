import OntoTypes.Time.Clock

/-!
# Durations

Spans of time in the notation of ISO 8601: months, which have no fixed length, and beside them a
fixed span. A duration is written with the fewest parts, years and months in whole years first.

Main definitions: `Duration`, `Duration.read?`, `Duration.text`.
-/

namespace OntoTypes

open Number

/-- A span of time. -/
structure Duration where
  months       : Int
  microseconds : Int
deriving DecidableEq

namespace Duration

/-- A number with an optional fraction before a letter at the start of a text: the digits, and how
many of them are behind the point. A text that does not start with one is left as it is. -/
def part (letter : Char) (cs : List Char) : (Nat × Nat) × List Char :=
  let whole := cs.takeWhile Char.isDigit
  let ((digits, places), rest) := Clock.fraction (cs.drop whole.length)
  if !whole.isEmpty && rest.head? = some letter then
    ((ofDigits whole * Nat.pow 10 places + digits, places), rest.drop 1)
  else ((0, 0), cs)

/-- A fixed span of at most 999999999 days. -/
def ofMicroseconds? (months microseconds : Int) : Option Duration :=
  if microseconds.natAbs < 1000000000 * 86400000000 then some ⟨months, microseconds⟩ else none

/-- The duration of a sum of parts, each with its length in microseconds. -/
def ofParts? (negative : Bool) (months : Nat) (parts : List (Nat × (Nat × Nat))) :
    Option Duration :=
  let places := parts.foldl (fun most (_, _, places) => max most places) 0
  let sum := parts.foldl (fun sum (length, digits, own) =>
    sum + length * digits * Nat.pow 10 (places - own)) 0
  let size := Binary64.roundQuotient sum (Nat.pow 10 places)
  let signed (n : Nat) : Int := if negative then -(n : Int) else n
  ofMicroseconds? (signed months) (signed size)

/-- The hours, minutes and seconds of a duration. -/
def clockParts? (cs : List Char) : Option (List (Nat × (Nat × Nat))) :=
  let (hours, rest) := part 'H' cs
  let (minutes, rest) := part 'M' rest
  let (seconds, rest) := part 'S' rest
  if rest.isEmpty then some [(3600000000, hours), (60000000, minutes), (1000000, seconds)]
  else none

/-- What follows the letter `P` in the notation by parts. Years and months are whole. -/
def readParts? (negative : Bool) (cs : List Char) : Option Duration := do
  let (years, rest) := part 'Y' cs
  let (months, rest) := part 'M' rest
  let (weeks, rest) := part 'W' rest
  let (days, rest) := part 'D' rest
  let clock ←
    match rest with
    | [] => some []
    | 'T' :: rest => clockParts? rest
    | _ => none
  if cs.isEmpty || years.2 ≠ 0 || months.2 ≠ 0 then none
  else
    ofParts? negative (12 * years.1 + months.1)
      ((604800000000, weeks) :: (86400000000, days) :: clock)

/-- What follows the letter `P` in the notation like a date and a time. -/
def readLikeDate? (cs : List Char) : Option Duration := do
  match Text.splitOn 'T' cs with
  | [date, time] =>
    let date ← Date.read? date
    let time ← Clock.read? time
    ofMicroseconds? (12 * date.year + date.month)
      (86400000000 * (date.day : Int) + { time with offset := none }.microseconds)
  | _ => none

/-- The duration that a text stands for. A line feed at the end is overlooked in the notation by
parts. -/
def read? (cs : List Char) : Option Duration :=
  let line := if cs.getLast? = some '\n' then cs.dropLast else cs
  match cutSign line with
  | (negative, 'P' :: rest) =>
    (readParts? negative rest).or
      (match cs with
        | 'P' :: rest => readLikeDate? rest
        | _ => none)
  | _ => none

/-- The text of a number of units, if there are any. -/
def unitText (n : Nat) (letter : String) : String := if n = 0 then "" else toString n ++ letter

/-- The text of some seconds. -/
def secondsText (seconds microseconds : Nat) : String :=
  if microseconds = 0 then unitText seconds "S"
  else
    let places := (padded 6 microseconds).toList
    toString seconds ++ "." ++
      String.ofList (places.reverse.dropWhile (· = '0')).reverse ++ "S"

/-- The text of a duration; nothing at all is no days. -/
def text (d : Duration) : String :=
  let months := d.months.natAbs
  let size := d.microseconds.natAbs
  let seconds := size / 1000000
  let time := unitText (seconds / 3600 % 24) "H" ++ unitText (seconds / 60 % 60) "M" ++
    secondsText (seconds % 60) (size % 1000000)
  let parts := unitText (months / 12) "Y" ++ unitText (months % 12) "M" ++
    unitText (seconds / 86400) "D" ++ (if time = "" then "" else "T" ++ time)
  let sign := if d.months < 0 || d.microseconds < 0 then "-" else ""
  if parts = "" then "P0D" else sign ++ "P" ++ parts

end Duration

end OntoTypes
