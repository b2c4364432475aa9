import OntoTypes.Triple.Graph

/-!
# Triples as lines of text

The line notation of triples: one triple to a line, an IRI between angle brackets, a literal between
double quotes with its language or datatype behind it, blanks between the parts and a full stop at
the end. Empty lines and lines that start with `#` say nothing; a comment may also follow the full
stop.

A part is made into a term as soon as it has been read, so an escape that stands for no character is
found before a mistake further on in the line.

Main definitions:

* `Line.triple` — reading one line;
* `TripleGraph.parse` — reading a text; the first line that is not a triple is the error.
-/

namespace OntoTypes.Line

/-- A blank inside a line. -/
def isSpace (c : Char) : Bool := c = ' ' || c = '\t'

def skipSpaces (cs : List Char) : List Char := cs.dropWhile isSpace

/-- At least one blank. -/
def spaces? (cs : List Char) : Option (List Char) :=
  match cs with
  | c :: rest => if isSpace c then some (skipSpaces rest) else none
  | [] => none

/-- The character a one-letter escape stands for. -/
def shortEscape? (c : Char) : Option Char :=
  match c with
  | 't' => some '\t'
  | 'b' => some '\x08'
  | 'n' => some '\n'
  | 'r' => some '\r'
  | 'f' => some '\x0c'
  | '"' => some '"'
  | '\'' => some '\''
  | '\\' => some '\\'
  | _ => none

/-- The character with a number. -/
def charNumbered (code : Nat) : Except Error Char :=
  if 0x10FFFF < code then .error (.noSuchCharacter code) else .ok (Char.ofNat code)

/-- A text with its escapes resolved; what is no escape stands for itself. -/
def unescapeChars : List Char → Except Error (List Char)
  | [] => .ok []
  | '\\' :: 'u' :: a :: b :: c :: d :: rest => do
    match Text.hexNumber? [a, b, c, d] with
    | some code => return (← charNumbered code) :: (← unescapeChars rest)
    | none => return '\\' :: 'u' :: (← unescapeChars (a :: b :: c :: d :: rest))
  | '\\' :: 'U' :: a :: b :: c :: d :: e :: f :: g :: h :: rest => do
    match Text.hexNumber? [a, b, c, d, e, f, g, h] with
    | some code => return (← charNumbered code) :: (← unescapeChars rest)
    | none => return '\\' :: 'U' :: (← unescapeChars (a :: b :: c :: d :: e :: f :: g :: h :: rest))
  | '\\' :: c :: rest => do
    match shortEscape? c with
    | some plain => return plain :: (← unescapeChars rest)
    | none => return '\\' :: (← unescapeChars (c :: rest))
  | c :: rest => do return c :: (← unescapeChars rest)

/-- A text with its escapes resolved. -/
def unescape (cs : List Char) : Except Error String := (unescapeChars cs).map String.ofList

/-- Characters an IRI holds behind its first colon. -/
def isIriChar (c : Char) : Bool :=
  !Text.blanks.contains c.toNat && c ≠ '"' && c ≠ '<' && c ≠ '>'

/-- An IRI between angle brackets, with its escapes, and what follows. It has a colon, and something
before the colon. -/
def iri? (cs : List Char) : Option (List Char × List Char) :=
  match cs with
  | '<' :: rest =>
    let scheme := rest.takeWhile (· ≠ ':')
    match rest.dropWhile (· ≠ ':') with
    | ':' :: rest =>
      let body := rest.takeWhile isIriChar
      match rest.dropWhile isIriChar with
      | '>' :: rest =>
        if scheme.isEmpty then none else some (scheme ++ ':' :: body, rest)
      | _ => none
    | _ => none
  | _ => none

/-- The rest of a quoted text, still with its escapes, after the opening quote; `read` holds what
has been read, last character first. -/
def quotedRest (read : List Char) : List Char → Option (List Char × List Char)
  | [] => none
  | '"' :: rest => some (read.reverse, rest)
  | '\\' :: c :: rest => quotedRest (c :: '\\' :: read) rest
  | ['\\'] => none
  | c :: rest => quotedRest (c :: read) rest

/-- The subtags that follow the first part of a language tag, with their hyphens. -/
def subtags (cs : List Char) : List Char :=
  match cs with
  | '-' :: rest =>
    let tag := rest.takeWhile Char.isAlphanum
    if tag.isEmpty then [] else '-' :: tag ++ subtags (rest.dropWhile Char.isAlphanum)
  | _ => []
termination_by cs.length
decreasing_by
  have := (List.dropWhile_suffix (l := rest) Char.isAlphanum).length_le
  simp only [List.length_cons]
  omega

/-- The longest language tag at the start of a text. -/
def languageTag? (cs : List Char) : Option (String × List Char) :=
  let first := cs.takeWhile Char.isAlpha
  if first.isEmpty then none
  else
    let tag := first ++ subtags (cs.drop first.length)
    some (String.ofList tag, cs.drop tag.length)

/-- A literal as it is written, with its escapes. -/
structure Written where
  body     : List Char
  language : Option String := none
  datatype : Option (List Char) := none

/-- A literal as it is written, and what follows. What follows the closing quote belongs to it only
as a language or a datatype. -/
def written? (cs : List Char) : Option (Written × List Char) :=
  match cs with
  | '"' :: rest => do
    let (body, rest) ← quotedRest [] rest
    match rest with
    | '@' :: after =>
      match languageTag? after with
      | some (tag, after) => return ({ body := body, language := some tag }, after)
      | none => return ({ body := body }, rest)
    | '^' :: '^' :: after =>
      match iri? after with
      | some (iri, after) => return ({ body := body, datatype := some iri }, after)
      | none => return ({ body := body }, rest)
    | _ => return ({ body := body }, rest)
  | _ => none

/-- The literal that is written. -/
def Written.literal (w : Written) : Except Error Literal := do
  let datatype ← w.datatype.mapM unescape
  Literal.ofText (← unescape w.body) w.language datatype

/-- Whether nothing but a full stop, blanks and a comment are left. -/
def isEnd (cs : List Char) : Bool :=
  match skipSpaces cs with
  | '.' :: rest =>
    match skipSpaces rest with
    | [] => true
    | c :: _ => c = '#'
  | _ => false

/-- The triple that a line states, of which leading blanks have been skipped. -/
def triple (number : Nat) (line : List Char) : Except Error Triple := do
  let malformed : Error := .malformedTriple number
  let some (subject, rest) := iri? line | throw malformed
  let subject ← unescape subject
  let some (predicate, rest) := (spaces? rest).bind iri? | throw malformed
  let predicate ← unescape predicate
  let some rest := spaces? rest | throw malformed
  let (object, rest) ←
    match iri? rest with
    | some (iri, rest) => do pure (Term.iri (← unescape iri), rest)
    | none => do
      let some (literal, rest) := written? rest | throw malformed
      pure (Term.literal (← literal.literal), rest)
  if isEnd rest then return ⟨.iri subject, predicate, object⟩ else throw malformed

/-- Whether a line says nothing. -/
def isSilent (line : List Char) : Bool :=
  match line with
  | [] => true
  | c :: _ => c = '#'

/-- The lines of a text, ended by a line feed, a carriage return, or the two together. `line` and
`lines` hold what has been read of the current line and the lines before it, the last first. Blanks
behind the last line end are no line. -/
def splitFrom (line : List Char) (lines : List (List Char)) : List Char → List (List Char)
  | [] =>
    let isBlank := line.all fun c => Text.blanks.contains c.toNat
    (if isBlank then lines else line.reverse :: lines).reverse
  | '\r' :: '\n' :: rest => splitFrom [] (line.reverse :: lines) rest
  | c :: rest =>
    if c = '\n' || c = '\r' then splitFrom [] (line.reverse :: lines) rest
    else splitFrom (c :: line) lines rest

/-- The triples of lines, numbered from `number`; `read` holds those before, last first. -/
def triples (read : List Triple) (number : Nat) : List (List Char) → Except Error (List Triple)
  | [] => .ok read.reverse
  | line :: rest => do
    let line := skipSpaces line
    if isSilent line then triples read (number + 1) rest
    else triples ((← triple number line) :: read) (number + 1) rest

end OntoTypes.Line

namespace OntoTypes.TripleGraph

/-- The graph a text describes. -/
def parse (text : String) : Except Error TripleGraph := do
  return ofList (← Line.triples [] 1 (Line.splitFrom [] [] text.toList))

end OntoTypes.TripleGraph
