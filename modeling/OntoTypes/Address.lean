import OntoTypes.Text.Path

/-!
# Addresses of requests

How an address is sent: the path is freed of `.` and `..`, and characters that must not stand in an
address are written as the bytes of their encoding. Which ones these are depends on the part of the
address: in the path, in the query behind a question mark, or in the fragment behind a number sign.

Main definitions:

* `Address` — an address, taken apart;
* `Address.sent` — the form in which it is sent.
-/

namespace OntoTypes

/-- An address: where it leads, and what stands behind. -/
structure Address where
  /-- The scheme and the host. -/
  site : String
  /-- The path, with a query and a fragment if there are any. -/
  rest : String

namespace Address

/-- The text of an address. -/
def text (address : Address) : String := address.site ++ address.rest

/-- The most characters that an address may have. -/
def mostChars : Nat := 65536

/-- Whether an address can be sent: it is not too long and has no control characters. -/
def isSendable (address : Address) : Bool :=
  let cs := address.text.toList
  cs.length ≤ mostChars && cs.all fun c => 32 ≤ c.toNat && c.toNat ≠ 127

/-- Characters that stand for themselves in no part of an address: blanks, quotes, angle brackets
and everything beyond ASCII. -/
def isHidden (c : Char) : Bool := [' ', '"', '<', '>'].contains c || 128 ≤ c.toNat

/-- A text with the characters of a class written as the bytes of their encoding. -/
def withBytes (isWritten : Char → Bool) (cs : List Char) : List Char :=
  cs.flatMap fun c =>
    if isWritten c then
      (String.singleton c).toUTF8.toList.flatMap fun byte =>
        let n := byte.toNat
        ['%', (Nat.digitChar (n / 16)).toUpper, (Nat.digitChar (n % 16)).toUpper]
    else [c]

/-- A path without `.` and `..`; what it starts with is never taken back. -/
def withoutDots (path : List Char) : List Char :=
  let parts := Text.segments path
  Text.joinWith '/' (parts.take 1 ++ Text.applyDots (parts.drop 1))

/-- The form in which an address is sent. -/
def sent (address : Address) : String :=
  let (rest, fragment) := Text.cutAt '#' address.rest.toList
  let (path, query) := Text.cutAt '?' rest
  let shownPath := withBytes (fun c => isHidden c || ['\x60', '\x7b', '\x7d'].contains c)
    (withoutDots path)
  let shownQuery := query.elim [] fun query => '?' :: withBytes isHidden query
  let shownFragment := fragment.elim [] fun fragment =>
    '#' :: withBytes (fun c => isHidden c || c = '\x60') fragment
  address.site ++ String.ofList (shownPath ++ shownQuery ++ shownFragment)

end Address

end OntoTypes
