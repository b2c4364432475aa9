import OntoTypes.Text.CharClass

/-!
# Lines and trailing blanks

How a comment is cut into lines: at every line end any writing system uses, a carriage return and a
line feed together counting once. A line end at the very end of the text opens no further line.

Main definitions:

* `splitLines` — the lines of a text, without their ends;
* `trimEnd` — a text without its trailing whitespace.
-/

namespace OntoTypes.Text

/-- The characters that end a line by themselves. -/
def isLineEnd (c : Char) : Bool :=
  c = '\n' || c = '\r' || c = '\x0b' || c = '\x0c' || c = '\x1c' || c = '\x1d' || c = '\x1e' ||
    c = '\u0085' || c = '\u2028' || c = '\u2029'

/-- The lines of a text, without their ends. -/
def splitLines : List Char → List (List Char)
  | [] => []
  | '\r' :: '\n' :: rest => [] :: splitLines rest
  | c :: rest =>
    if isLineEnd c then [] :: splitLines rest
    else
      match splitLines rest with
      | [] => [[c]]
      | line :: lines => (c :: line) :: lines

/-- Whitespace, in any script. -/
def isBlank (c : Char) : Bool := blanks.contains c.toNat

/-- The text without the whitespace at its end. -/
def trimEnd (cs : List Char) : List Char := (cs.reverse.dropWhile isBlank).reverse

end OntoTypes.Text
