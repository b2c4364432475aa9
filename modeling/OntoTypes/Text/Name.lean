import OntoTypes.Text.Split

/-!
# Names

The names the generated code uses are cut out of identifiers of the ontology. The *local name* of an
IRI is what follows its last `#`, or its last `/` when it has no `#`. A local name becomes an
identifier of the generated code by replacing every character that identifiers cannot hold with an
underscore, and by putting an underscore in front of a leading digit.

Main definitions: `localName`, `memberName` (replacement alone) and `identifier` (both rules).
-/

namespace OntoTypes.Text

/-- The local name of an IRI. -/
def localName (iri : String) : String :=
  let cs := iri.toList
  String.ofList (afterLast (if cs.contains '#' then '#' else '/') cs)

/-- Letters and digits of ASCII, and the underscore: what an identifier is made of. -/
def isWordChar (c : Char) : Bool := c.isAlphanum || c = '_'

/-- Every character outside identifiers replaced by an underscore. -/
def wordChars (cs : List Char) : List Char := cs.map fun c => if isWordChar c then c else '_'

/-- A name for a member of an enumeration. -/
def memberName (name : String) : String := String.ofList (wordChars name.toList)

/-- A name for a type: no digit comes first. -/
def identifierChars (cs : List Char) : List Char :=
  match wordChars cs with
  | [] => []
  | c :: rest => if c.isDigit then '_' :: c :: rest else c :: rest

/-- The identifier made of a local name. -/
def identifier (name : String) : String := String.ofList (identifierChars name.toList)

end OntoTypes.Text
