import OntoTypes.Text.CaseTables
import OntoTypes.Text.CharClass
import OntoTypes.Text.Order

/-!
# Case folding, case swapping and the name order

Names are listed without regard to case, and where two names differ in case alone the lowercase one
comes first. Both halves of that rule are one key: the case-folded text, then the text with its case
swapped (which turns "lowercase first" into the order of code points).

Main definitions:

* `caseFold` — full case folding;
* `swapCase` — uppercase letters to lowercase, lowercase letters to uppercase, a sigma at the end of
  a word to its final form;
* `SortKey` — the two together, compared one after the other.
-/

namespace OntoTypes.Text

/-- The image of a character under a table of runs and expansions; the character itself if the table
does not mention it. -/
def mapThrough (runs : List CaseRun) (expansions : List (Nat × List Nat)) (c : Char) : List Char :=
  match expansions.lookup c.toNat with
  | some image => image.map Char.ofNat
  | none =>
    match runs.findSome? (·.image? c.toNat) with
    | some image => [Char.ofNat image]
    | none => [c]

/-- The folded form of one character. The letters of ASCII need no table. -/
def foldChar (c : Char) : List Char :=
  if c.toNat < 128 then [c.toLower] else mapThrough foldRuns foldExpansions c

/-- The text with all differences of case removed. -/
def caseFold (cs : List Char) : List Char := cs.flatMap foldChar

/-- A capital sigma ends a word when a letter stands before it and none after it, looking past
characters that case ignores. `before` is the text before it, nearest character first. -/
def sigmaEndsWord (before after : List Char) : Bool :=
  let nearest (cs : List Char) : Bool :=
    match cs.dropWhile fun c => caseIgnorables.contains c.toNat with
    | [] => false
    | c :: _ => casedLetters.contains c.toNat
  nearest before && !nearest after

/-- A character with its case swapped, given the text on both sides of it. -/
def swapChar (before : List Char) (c : Char) (after : List Char) : List Char :=
  if c.toNat < 128 then
    if c.isUpper then [c.toLower] else [c.toUpper]
  else if c = 'Σ' then
    if sigmaEndsWord before after then ['ς'] else ['σ']
  else
    match mapThrough lowerRuns lowerExpansions c with
    | [d] => if d = c then mapThrough upperRuns upperExpansions c else [d]
    | ds => ds

/-- `swapCase` for the part of a text that follows `before` (nearest character first). -/
def swapCaseAfter (before : List Char) : List Char → List Char
  | [] => []
  | c :: rest => swapChar before c rest ++ swapCaseAfter (c :: before) rest

/-- The text with uppercase letters made lowercase and lowercase letters made uppercase. -/
def swapCase (cs : List Char) : List Char := swapCaseAfter [] cs

/-- The key names are listed by. -/
structure SortKey where
  folded  : List Char
  swapped : List Char

/-- The key of a text. -/
def SortKey.of (s : String) : SortKey :=
  ⟨caseFold s.toList, swapCase s.toList⟩

/-- Keys compare by the folded text, then by the swapped one. -/
def SortKey.compare (a b : SortKey) : Ordering :=
  (compareChars a.folded b.folded).then (compareChars a.swapped b.swapped)

end OntoTypes.Text
