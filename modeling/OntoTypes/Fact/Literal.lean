import OntoTypes.Fact.Datatype

/-!
# Literals

A literal is a text, tagged with the language it is in or with the datatype it is written for, or
with neither. Numbers and truth values become literals of their datatypes; a text given together
with a datatype is brought into the standard form of its value, if it has one.

Main definitions:

* `Literal`, with `Literal.same` — equality up to the case of language tags;
* `Literal.ofText`, `Literal.ofJson` — how literals are made;
* `Literal.compare` — the order in which literals are listed.
-/

namespace OntoTypes

/-- A tagged text. -/
structure Literal where
  lexical  : String
  language : Option String := none
  datatype : Option String := none
deriving DecidableEq

namespace Literal

def stringType : String := Datatype.schemaIri "string"
def integerType : String := Datatype.schemaIri "integer"
def doubleType : String := Datatype.schemaIri "double"
def booleanType : String := Datatype.schemaIri "boolean"

/-- Equality of literals: the same text and datatype, and the same language whatever its case. -/
def same (a b : Literal) : Bool :=
  a.lexical = b.lexical && a.datatype = b.datatype &&
    a.language.map Text.lowercase = b.language.map Text.lowercase

/-! ## Language tags -/

/-- A language tag is a word of letters, followed by any number of words of letters and digits, with
hyphens between them. A line feed at the end is overlooked. -/
def isLanguageTag (tag : String) : Bool :=
  let cs := tag.toList
  let cs := if cs.getLast? = some '\n' then cs.dropLast else cs
  match Text.splitOn '-' cs with
  | [] => false
  | first :: others =>
    !first.isEmpty && first.all Char.isAlpha &&
      others.all fun tag => !tag.isEmpty && tag.all Char.isAlphanum

/-! ## Making literals -/

/-- A literal made of a text. An empty language counts as none, and only language tags are accepted
as languages. -/
def ofText (text : String) (language datatype : Option String) : Except Error Literal :=
  match language.filter (· ≠ ""), datatype with
  | some tag, none =>
    if isLanguageTag tag then .ok ⟨text, some tag, none⟩ else .error (.badLanguageTag tag)
  | some tag, some iri => .error (.taggedTwice tag iri)
  | none, some iri =>
    match Datatype.ofIri? iri with
    | some datatype => do return ⟨← datatype.standardForm text, none, some iri⟩
    | none => .ok ⟨text, none, some iri⟩
  | none, none => .ok ⟨text, none, none⟩

/-- A literal made of a document. Numbers and truth values take their datatypes and no language;
what has no datatype is taken as the text that diagnostics show for it. -/
def ofJson (value : Json) (language : Option String) : Except Error Literal := do
  let plain ← ofText "" language none
  match value with
  | .text s => return { plain with lexical := s }
  | .integer n => return ⟨toString n, none, some integerType⟩
  | .real x => return ⟨x.text, none, some doubleType⟩
  | .bool b => return ⟨if b then "true" else "false", none, some booleanType⟩
  | .null | .array _ | .object _ => return { plain with lexical := value.display }

/-! ## Order -/

/-- The number that a literal stands for, if it is written for a datatype of numbers and is one. -/
def quantity? (l : Literal) : Option Quantity :=
  (l.datatype.bind Datatype.ofIri?).bind fun datatype => datatype.quantity? l.lexical

/-- What a literal stands for, if its datatype gives it a value. -/
def meaning? (l : Literal) : Option Meaning :=
  (l.datatype.bind Datatype.ofIri?).bind fun datatype => datatype.meaning? l.lexical

/-- Comparison of two literals of one datatype: by value where they have values that can be
compared, else by text. -/
def compareValues (a b : Literal) : Ordering :=
  let byMeaning : Option Ordering := do (← a.meaning?).compare? (← b.meaning?)
  byMeaning.getD (Text.compareText a.lexical b.lexical)

/-- An untagged text goes before every tagged one, and tags go by code point. -/
def compareLanguages : Option String → Option String → Ordering
  | none, none => .eq
  | none, some _ => .lt
  | some _, none => .gt
  | some a, some b => Text.compareText a b

/-- Numbers are listed by size, whatever their datatypes. All other literals are listed by datatype
(a plain text counting as a string), then by language, then by value. -/
def compare (a b : Literal) : Ordering :=
  match a.quantity?, b.quantity? with
  | some x, some y => x.compare y
  | _, _ =>
    (Text.compareText (a.datatype.getD stringType) (b.datatype.getD stringType)).then
      ((compareLanguages a.language b.language).then (compareValues a b))

end Literal

end OntoTypes
