import OntoTypes.Error
import OntoTypes.Number.Written
import OntoTypes.Text.Octets

/-!
# Reading documents

JSON text to `Json`. Beside the standard notation the number names `NaN`, `Infinity` and `-Infinity`
are read. A text is refused when it is not exactly one document between blanks; control characters
inside quotes are refused too. Half of a surrogate pair by itself is read as the replacement
character, since no text holds it.

Integers of very many digits and very deep nesting are refused with errors of their own; of several
faults the first one in the text counts.

Main definition: `Json.parse`.
-/

namespace OntoTypes.Json

/-- The blanks that may stand between the parts of a document. -/
def isSpace (c : Char) : Bool := c = ' ' || c = '\t' || c = '\n' || c = '\r'

/-- A text without the blanks at its front. -/
def skipSpaces (cs : List Char) : List Char := cs.dropWhile isSpace

/-- The first half of a surrogate pair. -/
def isHighSurrogate (n : Nat) : Bool := 0xD800 ≤ n && n < 0xDC00

/-- The second half of a surrogate pair. -/
def isLowSurrogate (n : Nat) : Bool := 0xDC00 ≤ n && n < 0xE000

/-- The character a `\u` escape stands for, when it is not half of a pair. -/
def charOfUnit (n : Nat) : Char :=
  if isHighSurrogate n || isLowSurrogate n then '\uFFFD' else Char.ofNat n

/-- The character a pair of surrogates stands for. -/
def charOfPair (high low : Nat) : Char :=
  Char.ofNat (0x10000 + (high - 0xD800) * 0x400 + (low - 0xDC00))

/-- The character a one-letter escape stands for. -/
def shortEscape? (c : Char) : Option Char :=
  match c with
  | '"' => some '"'
  | '\\' => some '\\'
  | '/' => some '/'
  | 'b' => some '\x08'
  | 'f' => some '\x0c'
  | 'n' => some '\n'
  | 'r' => some '\r'
  | 't' => some '\t'
  | _ => none

/-- Reads the rest of a text after its opening quote; `read` holds what has been read, last
character first, and `high` the first half of a surrogate pair whose second half may follow. -/
def textRest (read : List Char) (high : Option Nat) : List Char → Option (String × List Char)
  | [] => none
  | '"' :: rest => some (String.ofList (pending high read).reverse, rest)
  | '\\' :: 'u' :: a :: b :: c :: d :: rest => do
    let unit ← Text.hexNumber? [a, b, c, d]
    -- two halves that belong together are one character; a half by itself is replaced
    match high with
    | some first =>
      if isLowSurrogate unit then textRest (charOfPair first unit :: read) none rest
      else if isHighSurrogate unit then textRest ('\uFFFD' :: read) (some unit) rest
      else textRest (charOfUnit unit :: '\uFFFD' :: read) none rest
    | none =>
      if isHighSurrogate unit then textRest read (some unit) rest
      else textRest (charOfUnit unit :: read) none rest
  | '\\' :: c :: rest => do
    let plain ← shortEscape? c
    textRest (plain :: pending high read) none rest
  | c :: rest => if c.toNat < 32 then none else textRest (c :: pending high read) none rest
where
  /-- What has been read, once no second half can follow. -/
  pending (high : Option Nat) (read : List Char) : List Char :=
    match high with
    | some _ => '\uFFFD' :: read
    | none => read

/-- The digits of a fraction, after its point. -/
def fractionDigits (cs : List Char) : List Char × List Char :=
  match cs with
  | '.' :: rest =>
    let digits := rest.takeWhile Char.isDigit
    if digits.isEmpty then ([], cs) else (digits, rest.dropWhile Char.isDigit)
  | _ => ([], cs)

/-- The sign and digits of an exponent, after its letter. -/
def exponentPart (cs : List Char) : Option Int × List Char :=
  match cs with
  | letter :: rest =>
    if letter = 'e' || letter = 'E' then
      let (negative, unsigned) :=
        match rest with
        | '-' :: r => (true, r)
        | '+' :: r => (false, r)
        | r => (false, r)
      let digits := unsigned.takeWhile Char.isDigit
      if digits.isEmpty then (none, cs)
      else
        let size : Int := Number.ofDigits digits
        (some (if negative then -size else size), unsigned.dropWhile Char.isDigit)
    else (none, cs)
  | [] => (none, [])

/-- A number without its sign. -/
def unsignedNumber (negative : Bool) (cs : List Char) : Except Error (Json × List Char) :=
  let whole :=
    match cs with
    -- a leading zero ends the whole part
    | '0' :: _ => ['0']
    | _ => cs.takeWhile Char.isDigit
  if whole.isEmpty then .error .malformedJson
  else
    let (fraction, rest) := fractionDigits (cs.drop whole.length)
    let (exponent, rest) := exponentPart rest
    if fraction.isEmpty && exponent.isNone then
      -- only integers are limited; a number with a fraction or exponent is rounded
      if Number.mostDigits < whole.length then .error .integerTooLong
      else
        let n : Int := Number.ofDigits whole
        .ok (integer (if negative then -n else n), rest)
    else
      let digits := Number.ofDigits (whole ++ fraction)
      let scale := exponent.getD 0 - fraction.length
      .ok (real (.ofDecimal negative digits scale), rest)

/-- A number with its sign, if it has one. -/
def number (cs : List Char) : Except Error (Json × List Char) :=
  match cs with
  | '-' :: rest => unsignedNumber true rest
  | _ => unsignedNumber false cs

/-- The document that a word stands for, if the text starts with one. -/
def word? (cs : List Char) : Option (Json × List Char) :=
  [("null", null), ("true", bool true), ("false", bool false), ("NaN", real .nan),
    ("Infinity", real (.infinite false)), ("-Infinity", real (.infinite true))].findSome?
    fun (word, value) =>
      if word.toList.isPrefixOf cs then some (value, cs.drop word.length) else none

/-- Brackets are read up to this depth. -/
def mostLevels : Nat := 980

mutual

/-- Reads one document, in which brackets may be nested `levels` deep. Every call passes on less
text than it was given, so the length of the text is enough `fuel`. -/
def document (fuel levels : Nat) (cs : List Char) : Except Error (Json × List Char) :=
  match fuel with
  | 0 => .error .malformedJson
  | fuel + 1 =>
    match skipSpaces cs, levels with
    | '"' :: rest, _ =>
      match textRest [] none rest with
      | some (s, rest) => .ok (text s, rest)
      | none => .error .malformedJson
    -- brackets, but no levels left
    | '[' :: _, 0 | '\x7b' :: _, 0 => .error .nestedTooDeep
    | '[' :: rest, levels + 1 =>
      match skipSpaces rest with
      | ']' :: rest => .ok (array [], rest)
      | rest => do
        let (items, rest) ← items fuel levels [] rest
        return (array items, rest)
    | '\x7b' :: rest, levels + 1 =>
      match skipSpaces rest with
      | '\x7d' :: rest => .ok (object [], rest)
      | rest => do
        let (fields, rest) ← fields fuel levels [] rest
        return (object (fieldsOfText fields), rest)
    | rest, _ =>
      -- words first, because one of them begins with a minus sign
      match word? rest with
      | some found => .ok found
      | none => number rest

/-- Reads the elements of an array up to its end; `read` holds those before, last first. -/
def items (fuel levels : Nat) (read : List Json) (cs : List Char) :
    Except Error (List Json × List Char) :=
  match fuel with
  | 0 => .error .malformedJson
  | fuel + 1 => do
    let (item, rest) ← document fuel levels cs
    match skipSpaces rest with
    | ',' :: rest => items fuel levels (item :: read) rest
    | ']' :: rest => return ((item :: read).reverse, rest)
    | _ => throw .malformedJson

/-- Reads the fields of an object up to its end; `read` holds those before, last first. -/
def fields (fuel levels : Nat) (read : List (String × Json)) (cs : List Char) :
    Except Error (List (String × Json) × List Char) :=
  match fuel with
  | 0 => .error .malformedJson
  | fuel + 1 =>
    match skipSpaces cs with
    | '"' :: rest =>
      match textRest [] none rest with
      | none => .error .malformedJson
      | some (key, rest) =>
        match skipSpaces rest with
        | ':' :: rest => do
          let (value, rest) ← document fuel levels rest
          match skipSpaces rest with
          | ',' :: rest => fields fuel levels ((key, value) :: read) rest
          | '\x7d' :: rest => return (((key, value) :: read).reverse, rest)
          | _ => throw .malformedJson
        | _ => .error .malformedJson
    | _ => .error .malformedJson

end

/-- The document that a list of characters consists of, if it is exactly one. -/
def parseChars (cs : List Char) : Except Error Json := do
  let (value, rest) ← document (2 * cs.length + 2) mostLevels cs
  if (skipSpaces rest).isEmpty then return value else throw .malformedJson

/-- The document that a text consists of, if it is exactly one. -/
def parse (s : String) : Except Error Json := parseChars s.toList

end OntoTypes.Json
