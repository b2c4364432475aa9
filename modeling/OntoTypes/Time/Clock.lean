import OntoTypes.Time.Date

/-!
# Times of day

Times of day to the microsecond, with or without the difference from universal time, and the
notations of ISO 8601 for them. The last part of a time may have a fraction; what is finer than a
microsecond is cut off from seconds and minutes.

Main definitions: `Clock`, `Clock.read?`, `Clock.text?`, `Clock.microseconds`.
-/

namespace OntoTypes

open Number

/-- A time of day. -/
structure Clock where
  hour        : Nat
  minute      : Nat
  second      : Nat
  microsecond : Nat
  /-- The minutes by which the time is ahead of universal time, where that is known. -/
  offset      : Option Int
deriving DecidableEq

namespace Clock

/-- The time with these numbers, if there is one. -/
def make? (hour minute second microsecond : Nat) (offset : Option Int) : Option Clock :=
  if hour < 24 && minute < 60 && second < 60 && microsecond < 1000000 then
    some ⟨hour, minute, second, microsecond, offset⟩
  else none

/-- A fraction at the start of a text, as the number its digits write and how many there are; no
digits if there is none. -/
def fraction (cs : List Char) : (Nat × Nat) × List Char :=
  match cs with
  | mark :: rest =>
    let digits := rest.takeWhile Char.isDigit
    if (mark = '.' || mark = ',') && !digits.isEmpty then
      ((ofDigits digits, digits.length), rest.drop digits.length)
    else ((0, 0), cs)
  | [] => ((0, 0), [])

/-- A fraction in whole units, of which `units` are one; what is left is cut off. -/
def inUnits (units : Nat) (part : Nat × Nat) : Nat := part.1 * units / Nat.pow 10 part.2

/-- The difference from universal time that a text states. -/
def offset? : List Char → Option (Option Int)
  | [] => some none
  | ['Z'] => some (some 0)
  | sign :: rest => do
    let (hours, rest) ← digits? 2 rest
    let minutes ←
      match rest with
      | [] => some 0
      | ':' :: rest => allDigits? 2 rest
      | rest => allDigits? 2 rest
    let ahead : Int := (60 * hours + minutes : Nat)
    if sign = '+' then some (some ahead) else if sign = '-' then some (some (-ahead)) else none

/-- The time of an hour and a fraction of it, to the nearest microsecond. -/
def ofHour? (hour : Nat) (part : Nat × Nat) (offset : Option Int) : Option Clock :=
  let whole := Nat.pow 10 part.2
  let minutes := part.1 * 60
  let seconds := minutes % whole * 60
  let microsecond := Binary64.roundQuotient (seconds % whole * 1000000) whole
  make? hour (minutes / whole) (seconds / whole) microsecond offset

/-- The time of an hour, a minute and a fraction of it. -/
def ofMinute? (hour minute : Nat) (part : Nat × Nat) (offset : Option Int) : Option Clock :=
  let microseconds := inUnits 60000000 part
  make? hour minute (microseconds / 1000000) (microseconds % 1000000) offset

/-- What follows the minutes of a time; `second?` cuts the mark off that goes before seconds. -/
def afterMinutes? (hour minute : Nat) (second? : List Char → Option (List Char)) (cs : List Char) :
    Option Clock :=
  match (second? cs).bind (digits? 2) with
  | some (second, rest) => do
    let (part, rest) := fraction rest
    make? hour minute second (inUnits 1000000 part) (← offset? rest)
  | none => do
    let (part, rest) := fraction cs
    ofMinute? hour minute part (← offset? rest)

/-- The time that a text stands for. A `T` may go before it. -/
def read? (cs : List Char) : Option Clock := do
  let cs := if cs.head? = some 'T' then cs.drop 1 else cs
  let (hour, rest) ← digits? 2 cs
  let unmarked (cs : List Char) : Option (List Char) := some cs
  let marked (cs : List Char) : Option (List Char) :=
    if cs.head? = some ':' then some (cs.drop 1) else none
  match (marked rest).bind (digits? 2), digits? 2 rest with
  | some (minute, rest), _ => afterMinutes? hour minute marked rest
  | none, some (minute, rest) => afterMinutes? hour minute unmarked rest
  | none, none => do
    let (part, rest) := fraction rest
    ofHour? hour part (← offset? rest)

/-- The text of a difference from universal time; none if it is a day or more. -/
def offsetText? (minutes : Int) : Option String :=
  let size := minutes.natAbs
  if size < 1440 then
    some ((if minutes < 0 then "-" else "+") ++ padded 2 (size / 60) ++ ":" ++
      padded 2 (size % 60))
  else none

/-- The text of a time; none if its difference from universal time has none. -/
def text? (clock : Clock) : Option String := do
  let micros := if clock.microsecond = 0 then "" else "." ++ padded 6 clock.microsecond
  let offset ← (clock.offset.map offsetText?).getD (some "")
  return padded 2 clock.hour ++ ":" ++ padded 2 clock.minute ++ ":" ++
    padded 2 clock.second ++ micros ++ offset

/-- The microseconds since midnight, universal time if the difference from it is known. -/
def microseconds (clock : Clock) : Int :=
  let minutes : Int := (60 * clock.hour + clock.minute : Nat) - clock.offset.getD 0
  (minutes * 60 + clock.second) * 1000000 + clock.microsecond

end Clock

end OntoTypes
