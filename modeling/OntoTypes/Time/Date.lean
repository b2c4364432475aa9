import OntoTypes.Number.Written

/-!
# Dates

Dates of the Gregorian calendar from the year 1 to the year 9999, and the notations of ISO 8601 for
them: by month and day, by week, by day of the year, and shortened ones, which stand for their first
day.

Main definitions:

* `Date`, `Date.make?` — a date that exists;
* `Date.dayNumber`, `Date.ofDayNumber?` — days counted from the first day of the year 1;
* `Date.read?`, `Date.text` — notations.
-/

namespace OntoTypes

open Number

/-- A day of the calendar. -/
structure Date where
  year  : Nat
  month : Nat
  day   : Nat
deriving DecidableEq

namespace Date

def isLeapYear (year : Nat) : Bool := year % 4 = 0 && (year % 100 ≠ 0 || year % 400 = 0)

/-- The lengths of the months of a year. -/
def monthLengths (year : Nat) : List Nat :=
  [31, if isLeapYear year then 29 else 28, 31, 30, 31, 30, 31, 31, 30, 31, 30, 31]

/-- The date with these numbers, if there is one. -/
def make? (year month day : Nat) : Option Date :=
  if year = 0 || 9999 < year || month = 0 || day = 0 then none
  else
    match (monthLengths year)[month - 1]? with
    | some length => if day ≤ length then some ⟨year, month, day⟩ else none
    | none => none

/-- The days of all years before a year. -/
def daysBefore (year : Nat) : Nat :=
  let past := year - 1
  365 * past + past / 4 - past / 100 + past / 400

/-- The number of a day, counted from the first day of the year 1, which has the number 1. -/
def dayNumber (date : Date) : Nat :=
  daysBefore date.year + ((monthLengths date.year).take (date.month - 1)).foldl (· + ·) 0 + date.day

/-- The month and day of the day `day` of a year, counted from 1, the months before `month` gone. -/
def monthAndDay (month day : Nat) : List Nat → Nat × Nat
  | [] => (month, day)
  | length :: rest =>
    if day ≤ length then (month, day) else monthAndDay (month + 1) (day - length) rest

/-- The day with a number, if it is in a year that has dates. -/
def ofDayNumber? (number : Int) : Option Date :=
  if number < 1 then none
  else
    let number := number.toNat
    -- the mean length of a year misjudges the year by at most one
    let guess := number * 400 / 146097
    let year :=
      if daysBefore (guess + 2) < number then guess + 2
      else if daysBefore (guess + 1) < number then guess + 1
      else guess
    let (month, day) := monthAndDay 1 (number - daysBefore year) (monthLengths year)
    make? year month day

/-- The place of a day in its week, from 1 for Monday to 7 for Sunday. -/
def weekday (date : Date) : Nat := (date.dayNumber - 1) % 7 + 1

/-! ## Notations -/

/-- A month and a day of a year; the month zero counts as the first one. -/
def ofMonth? (year month day : Nat) : Option Date := make? year (if month = 0 then 1 else month) day

/-- A day that is given by its place in a year. -/
def ofDayOfYear? (year day : Nat) : Option Date := do
  let first ← make? year 1 1
  ofDayNumber? (first.dayNumber + (day : Int) - 1)

/-- A day that is given by a week of a year and its place in that week. The first week of a year is
the one with the first Thursday. -/
def ofWeek? (year week day : Nat) : Option Date := do
  let first ← make? year 1 1
  let weeks : Int := if first.weekday ≤ 4 then (week : Int) - 1 else week
  ofDayNumber? (first.dayNumber + 7 * weeks - first.weekday + day)

/-- What follows the year in a notation with hyphens, the hyphen after the year gone. -/
def readExtended? (year : Nat) : List Char → Option Date
  | 'W' :: rest => do
    let (week, rest) ← digits? 2 rest
    match rest with
    | [] => ofWeek? year week 1
    | '-' :: day => ofWeek? year week (← allDigits? 1 day)
    | _ => none
  | rest =>
    match (allDigits? 3 rest), digits? 2 rest with
    | some day, _ => ofDayOfYear? year day
    | none, some (month, []) => ofMonth? year month 1
    | none, some (month, '-' :: day) => (allDigits? 2 day).bind (ofMonth? year month)
    | none, _ => none

/-- What follows the year in a notation without hyphens. -/
def readBasic? (year : Nat) : List Char → Option Date
  | [] => make? year 1 1
  | 'W' :: rest => do
    let (week, rest) ← digits? 2 rest
    match rest with
    | [] => ofWeek? year week 1
    | day => ofWeek? year week (← allDigits? 1 day)
  | rest =>
    match (allDigits? 3 rest), digits? 2 rest with
    | some day, _ => ofDayOfYear? year day
    | none, some (month, []) => ofMonth? year month 1
    | none, some (month, day) => (allDigits? 2 day).bind (ofMonth? year month)
    | none, none => none

/-- The date that a text stands for. Two digits stand for a century. -/
def read? (cs : List Char) : Option Date :=
  match digits? 4 cs with
  | some (year, '-' :: rest) => readExtended? year rest
  | some (year, rest) => readBasic? year rest
  | none => (allDigits? 2 cs).bind fun century => make? (100 * century + 1) 1 1

/-- The year, month and day of a date with hyphens between them. -/
def text (date : Date) : String :=
  padded 4 date.year ++ "-" ++ padded 2 date.month ++ "-" ++ padded 2 date.day

end Date

end OntoTypes
