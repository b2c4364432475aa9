import OntoTypes.Number.Written
import OntoTypes.Text.Octets

/-!
# Authorities

The part of a reference between its two slashes and its path names a host, perhaps with a user
before it and a number behind it. A host may be an address of sixteen bytes, which is written
between square brackets because it has colons of its own; it is then checked, and so is that no
character stands for one of the marks that end an authority.

Main definitions:

* `isAddress` — addresses of sixteen bytes, in groups of hexadecimal digits;
* `isAuthority` — whether a text can be an authority.
-/

namespace OntoTypes.LinkedData

/-- A byte in decimal digits, without zeros in front. -/
def isDecimalByte (cs : List Char) : Bool :=
  !cs.isEmpty && cs.length ≤ 3 && cs.all Char.isDigit && (cs = ['0'] || cs.head? ≠ some '0') &&
    Number.ofDigits cs < 256

/-- Two bytes in hexadecimal digits. -/
def isHexGroup (cs : List Char) : Bool :=
  !cs.isEmpty && cs.length ≤ 4 && cs.all fun c => (Text.hexValue? c).isSome

/-- The groups on one side of the place where groups of zeros are left out; a side without groups
is a single empty text. -/
def groupsBeside (side : List (List Char)) : List (List Char) := if side = [[]] then [] else side

/-- Whether the texts between colons are the eight groups of an address, or fewer with an empty one
for those that are left out. -/
def areHexGroups (parts : List (List Char)) : Bool :=
  match ((parts.drop 1).dropLast).findIdx? List.isEmpty with
  | none => parts.length = 8 && parts.all isHexGroup
  | some place =>
    let groups := groupsBeside (parts.take (place + 1)) ++ groupsBeside (parts.drop (place + 2))
    groups.length < 8 && groups.all isHexGroup

/-- Whether a text is an address of sixteen bytes. The last four may be in decimal digits, and the
scope of the address may follow. -/
def isAddress (cs : List Char) : Bool :=
  let (address, scope) := Text.cutAt '%' cs
  let parts := Text.splitOn ':' address
  let last := parts.getLast?.getD []
  let bytes := Text.splitOn '.' last
  let groups := if last.contains '.' then parts.dropLast ++ [['0'], ['0']] else parts
  scope.all (fun scope => !scope.isEmpty && !scope.contains '%') && 3 ≤ parts.length &&
    (!last.contains '.' || bytes.length = 4 && bytes.all isDecimalByte) && areHexGroups groups

/-- What may stand between square brackets: an address of sixteen bytes, or one of a kind that is
yet to come, with its version in front. -/
def isBracketedHost (cs : List Char) : Bool :=
  match cs with
  | 'v' :: rest =>
    let version := rest.takeWhile fun c => (Text.hexValue? c).isSome
    match rest.drop version.length with
    | '.' :: name => !version.isEmpty && !name.isEmpty
    | _ => false
  | _ => isAddress cs

/-- The host of an authority, with its brackets taken off, and whether it stands where a host may
stand. -/
def bracketedHost (authority : List Char) : List Char × Bool :=
  let place := Text.afterLast '@' authority
  match Text.cutAt '[' place with
  | (before, some rest) =>
    let (host, after) := Text.cutAt ']' rest
    let after := after.getD []
    (host, before.isEmpty && (after.isEmpty || after.head? = some ':'))
  | (_, none) => ((Text.cutAt ':' place).1, true)

/-- Characters that are written for a group of others, one of which is a slash, a colon, a question
mark, a number sign or an at sign. -/
def disguisedMarks : List Nat :=
  [0x2047, 0x2048, 0x2049, 0x2100, 0x2101, 0x2105, 0x2106, 0x2A74, 0xFE13, 0xFE16, 0xFE55, 0xFE56,
    0xFE5F, 0xFE6B, 0xFF03, 0xFF0F, 0xFF1A, 0xFF1F, 0xFF20]

/-- Whether a text can be the authority of a reference. -/
def isAuthority (cs : List Char) : Bool :=
  let (host, isPlaced) := bracketedHost cs
  cs.contains '[' == cs.contains ']' &&
    (!cs.contains '[' || isPlaced && isBracketedHost host) &&
    cs.all fun c => !disguisedMarks.contains c.toNat

end OntoTypes.LinkedData
