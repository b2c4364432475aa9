import OntoTypes.Json.Parser

/-!
# Encodings of documents

A document that comes as bytes may be encoded in units of one, two or four bytes. Its first two
characters are of ASCII, so the zeros among its first bytes tell which; a byte order mark in front
of units of one byte is overlooked.

Main definitions: `Encoding.guess`, `Encoding.decode?`, `Json.parseBytes`.
-/

namespace OntoTypes

/-- How bytes stand for characters. Units of several bytes may have the high byte first or last. -/
inductive Encoding where
  | bytes
  | pairs (highFirst : Bool)
  | quadruples (highFirst : Bool)
deriving DecidableEq

namespace Encoding

/-- The encoding that the zeros among the first bytes of a document speak for. -/
def guess : List UInt8 → Encoding
  | 0 :: b :: _ :: _ :: _ => if b = 0 then quadruples true else pairs true
  | _ :: 0 :: c :: d :: _ => if c = 0 && d = 0 then quadruples false else pairs false
  | [0, _] => pairs true
  | [_, 0] => pairs false
  | _ => bytes

/-- The numbers that units of two bytes stand for; nothing if there is a byte too many. -/
def pairUnits? (highFirst : Bool) : List UInt8 → Option (List Nat)
  | [] => some []
  | [_] => none
  | a :: b :: rest =>
    let (high, low) := if highFirst then (a, b) else (b, a)
    (pairUnits? highFirst rest).map ((high.toNat * 256 + low.toNat) :: ·)

/-- The characters of units of two bytes; half of a surrogate pair by itself is the replacement
character. -/
def ofPairUnits : List Nat → List Char
  | high :: low :: rest =>
    if Json.isHighSurrogate high && Json.isLowSurrogate low then
      Json.charOfPair high low :: ofPairUnits rest
    else Json.charOfUnit high :: ofPairUnits (low :: rest)
  | [unit] => [Json.charOfUnit unit]
  | [] => []

/-- The characters of units of four bytes; nothing if a unit is not full or too large. -/
def quadrupleChars? (highFirst : Bool) : List UInt8 → Option (List Char)
  | [] => some []
  | a :: b :: c :: d :: rest =>
    let unit := if highFirst then [a, b, c, d] else [d, c, b, a]
    let code := unit.foldl (fun n byte => 256 * n + byte.toNat) 0
    if 0x10FFFF < code then none
    else (quadrupleChars? highFirst rest).map (Json.charOfUnit code :: ·)
  | _ => none

/-- The characters that bytes stand for. -/
def decode? (encoding : Encoding) (content : ByteArray) : Option (List Char) :=
  match encoding with
  | bytes =>
    (String.fromUTF8? content).map fun s =>
      match s.toList with
      | '\uFEFF' :: rest => rest
      | cs => cs
  | pairs highFirst => (pairUnits? highFirst content.toList).map ofPairUnits
  | quadruples highFirst => quadrupleChars? highFirst content.toList

end Encoding

/-- The document that bytes stand for. -/
def Json.parseBytes (content : ByteArray) : Except Error Json :=
  match (Encoding.guess (content.extract 0 4).toList).decode? content with
  | some cs => Json.parseChars cs
  | none => .error .undecodable

end OntoTypes
