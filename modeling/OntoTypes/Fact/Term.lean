import OntoTypes.Fact.Literal
import OntoTypes.Text.Name

/-!
# Terms, predicates and facts

An ontology is a stream of facts: a subject, a predicate and an object. Subjects and objects are
terms — IRIs, anonymous nodes and literals. A predicate is either one of the ten that the program
gives a meaning to or any other IRI, which it carries along and reports.

Main definitions:

* `Term`, with its identifier `Term.text` and its equality `Term.same`;
* `Vocabulary`, `Predicate.ofIri` — predicates;
* `Fact`, and `Value` — a fact without its subject.
-/

namespace OntoTypes

/-- What a fact may be about or refer to. -/
inductive Term where
  | iri (value : String)
  | blank (label : String)
  | literal (value : Literal)
deriving DecidableEq

namespace Term

/-- The text of a term, which is also what subjects are identified by. -/
def text : Term → String
  | iri value => value
  | blank label => label
  | literal value => value.lexical

/-- Equality of terms; literals are compared without regard to the case of their language. -/
def same : Term → Term → Bool
  | iri a, iri b => a = b
  | blank a, blank b => a = b
  | literal a, literal b => a.same b
  | _, _ => false

/-- The name a reader knows a term by: the local name of an IRI, the text of any other term. -/
def readableName : Term → String
  | iri value => Text.localName value
  | term => term.text

/-- The language of a literal that has one. -/
def language? : Term → Option String
  | literal value => value.language
  | _ => none

def isLiteral : Term → Bool
  | literal _ => true
  | _ => false

/-- Terms are listed anonymous nodes first, then IRIs, then literals. -/
def compare : Term → Term → Ordering
  | blank a, blank b => Text.compareText a b
  | blank _, _ => .lt
  | _, blank _ => .gt
  | iri a, iri b => Text.compareText a b
  | iri _, _ => .lt
  | _, iri _ => .gt
  | literal a, literal b => a.compare b

end Term

/-- The predicates with a meaning of their own. -/
inductive Vocabulary where
  | type
  | subClassOf
  | domainIncludes
  | rangeIncludes
  | comment
  | label
  | supersededBy
  | equivalentClass
  | closeMatch
  | source
deriving DecidableEq

namespace Vocabulary

/-- All of them. -/
def all : List Vocabulary :=
  [type, subClassOf, domainIncludes, rangeIncludes, comment, label, supersededBy, equivalentClass,
    closeMatch, source]

/-- The word a predicate goes by in messages. -/
def name : Vocabulary → String
  | type => "type"
  | subClassOf => "subClassOf"
  | domainIncludes => "domainIncludes"
  | rangeIncludes => "rangeIncludes"
  | comment => "comment"
  | label => "label"
  | supersededBy => "supersededBy"
  | equivalentClass => "equivalentClass"
  | closeMatch => "closeMatch"
  | source => "source"

/-- The IRIs of a predicate. Predicates of schema.org have one under each of its two schemes. -/
def iris : Vocabulary → List String
  | type => ["http://www.w3.org/1999/02/22-rdf-syntax-ns#type"]
  | subClassOf => ["http://www.w3.org/2000/01/rdf-schema#subClassOf"]
  | domainIncludes => ["http://schema.org/domainIncludes", "https://schema.org/domainIncludes"]
  | rangeIncludes => ["http://schema.org/rangeIncludes", "https://schema.org/rangeIncludes"]
  | comment => ["http://www.w3.org/2000/01/rdf-schema#comment"]
  | label => ["http://www.w3.org/2000/01/rdf-schema#label"]
  | supersededBy => ["http://schema.org/supersededBy", "https://schema.org/supersededBy"]
  | equivalentClass => ["http://www.w3.org/2002/07/owl#equivalentClass"]
  | closeMatch => ["http://www.w3.org/2004/02/skos/core#closeMatch"]
  | source => ["http://purl.org/dc/terms/source"]

/-- The predicate an IRI names, if it is one of the ten. -/
def ofIri? (iri : String) : Option Vocabulary := all.find? fun v => v.iris.contains iri

end Vocabulary

/-- A predicate: one of the vocabulary, or any other IRI. -/
inductive Predicate where
  | known (word : Vocabulary)
  | other (iri : String)
deriving DecidableEq

namespace Predicate

/-- The predicate that an IRI stands for. -/
def ofIri (iri : String) : Predicate :=
  match Vocabulary.ofIri? iri with
  | some word => known word
  | none => other iri

/-- How a predicate is shown in messages. -/
def text : Predicate → String
  | known word => word.name
  | other iri => iri

end Predicate

/-- One assertion. -/
structure Fact where
  subject   : Term
  predicate : Predicate
  object    : Term
deriving DecidableEq

/-- An assertion about a subject that is known from the context. -/
structure Value where
  predicate : Predicate
  object    : Term
deriving DecidableEq

namespace Value

/-- Equality of values, with the equality of terms for their objects. -/
def same (a b : Value) : Bool := a.predicate = b.predicate && a.object.same b.object

/-- A value on one line. -/
def describe (value : Value) : String :=
  "\x7b Predicate: " ++ value.predicate.text ++ " Object: " ++ value.object.text ++ " \x7d"

/-- The text of a value that is a comment in `lang` or in no language. -/
def comment? (lang : String) (value : Value) : Option String :=
  if value.predicate = .known .comment then
    match value.object with
    | .literal l => if l.language.all (· = lang) then some l.lexical else none
    | _ => none
  else none

/-- The node a value refers to, if it is an edge of the given kind. -/
def reference? (word : Vocabulary) (value : Value) : Option Term :=
  if value.predicate = .known word && !value.object.isLiteral then some value.object else none

end Value

end OntoTypes
