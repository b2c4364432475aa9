import OntoTypes.Text.Quoted
import OntoTypes.Text.Split

/-!
# Bytes in letters

Two notations of a list of bytes: two hexadecimal digits for each byte, and the notation in base 64,
four letters for three bytes. Both are written in one way only and read more freely: hexadecimal
digits may be capitals, and in base 64 whatever is no letter of the notation is overlooked.

Main definitions: `hexadecimal`, `ofHexadecimal?`, `base64`, `ofBase64?`.
-/

namespace OntoTypes.Text

/-- The value of a hexadecimal digit. -/
def hexValue? (c : Char) : Option Nat :=
  if c.isDigit then some (c.toNat - '0'.toNat)
  else if 'a'.toNat ≤ c.toNat ∧ c.toNat ≤ 'f'.toNat then some (c.toNat - 'a'.toNat + 10)
  else if 'A'.toNat ≤ c.toNat ∧ c.toNat ≤ 'F'.toNat then some (c.toNat - 'A'.toNat + 10)
  else none

/-- The value of a list of hexadecimal digits. -/
def hexNumber? (cs : List Char) : Option Nat :=
  cs.foldlM (fun n c => (hexValue? c).map (16 * n + ·)) 0

/-- Bytes in hexadecimal digits. -/
def hexadecimal (bytes : List UInt8) : String :=
  String.ofList (bytes.flatMap fun byte => hexDigits 2 byte.toNat)

/-- The bytes that pairs of hexadecimal digits stand for. -/
def ofHexadecimal? : List Char → Option (List UInt8)
  | [] => some []
  | [_] => none
  | high :: low :: rest => do
    let byte ← hexNumber? [high, low]
    return UInt8.ofNat byte :: (← ofHexadecimal? rest)

/-- The letters of base 64, by value. -/
def base64Letters : List Char :=
  "ABCDEFGHIJKLMNOPQRSTUVWXYZabcdefghijklmnopqrstuvwxyz0123456789+/".toList

/-- The letter for six bits. -/
def base64Letter (value : Nat) : Char := base64Letters.getD (value % 64) '='

/-- Bytes in base 64. Groups that are not full are padded. -/
def base64Chars : List UInt8 → List Char
  | [] => []
  | [a] => [base64Letter (a.toNat / 4), base64Letter (a.toNat * 16), '=', '=']
  | [a, b] =>
    let bits := a.toNat * 256 + b.toNat
    [base64Letter (bits / 1024), base64Letter (bits / 16), base64Letter (bits * 4), '=']
  | a :: b :: c :: rest =>
    let bits := (a.toNat * 256 + b.toNat) * 256 + c.toNat
    base64Letter (bits / 262144) :: base64Letter (bits / 4096) :: base64Letter (bits / 64) ::
      base64Letter bits :: base64Chars rest

/-- Bytes in base 64. -/
def base64 (bytes : List UInt8) : String := String.ofList (base64Chars bytes)

/-- The values of the letters up to the padding of a group, with at least two letters in the last
group; `read` holds the values before, last first, and `pads` counts the padding since the last
letter. Without padding the last group has to be full. -/
def sextets? (read : List Nat) (pads : Nat) : List Char → Option (List Nat)
  | [] => if read.length % 4 = 0 then some read.reverse else none
  | c :: rest =>
    let place := read.length % 4
    if c = '=' then
      if place < 2 then sextets? read pads rest
      else if 4 ≤ place + pads + 1 then some read.reverse
      else sextets? read (pads + 1) rest
    else
      match base64Letters.findIdx? (· = c) with
      | some value => sextets? (value :: read) 0 rest
      | none => sextets? read pads rest

/-- The bytes that groups of six bits make. -/
def ofSextets : List Nat → List UInt8
  | a :: b :: c :: d :: rest =>
    UInt8.ofNat (a * 4 + b / 16) :: UInt8.ofNat (b * 16 + c / 4) :: UInt8.ofNat (c * 64 + d) ::
      ofSextets rest
  | [a, b, c] => [UInt8.ofNat (a * 4 + b / 16), UInt8.ofNat (b * 16 + c / 4)]
  | [a, b] => [UInt8.ofNat (a * 4 + b / 16)]
  | _ => []

/-- The bytes that a text in base 64 stands for. All of its characters have to be of ASCII. -/
def ofBase64? (cs : List Char) : Option (List UInt8) :=
  if cs.all fun c => c.toNat < 128 then (sextets? [] 0 cs).map ofSextets else none

end OntoTypes.Text
