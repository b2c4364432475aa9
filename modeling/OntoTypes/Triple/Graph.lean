import OntoTypes.Fact.Term

/-!
# Triple graphs

A graph is a set of triples. Of triples that are equal as terms the first one stays, and the facts
of a graph come in the order of their subjects, then predicates, then objects, so that they do not
depend on the order in which the triples were found (up to terms that the order does not tell
apart).
-/

namespace OntoTypes

/-- A fact as it is written, its predicate not yet interpreted. -/
structure Triple where
  subject   : Term
  predicate : String
  object    : Term
deriving DecidableEq

namespace Triple

/-- Equality of triples, by equality of their terms. -/
def same (a b : Triple) : Bool :=
  a.subject.same b.subject && a.predicate = b.predicate && a.object.same b.object

/-- Triples go by subject, then predicate, then object. -/
def compare (a b : Triple) : Ordering :=
  (a.subject.compare b.subject).then
    ((Text.compareText a.predicate b.predicate).then (a.object.compare b.object))

/-- The fact a triple states. A literal cannot be the subject of a fact. -/
def fact? (triple : Triple) : Option Fact :=
  if triple.subject.isLiteral then none
  else some ⟨triple.subject, .ofIri triple.predicate, triple.object⟩

end Triple

/-- A set of triples, in the order in which they were added. -/
structure TripleGraph where
  triples : List Triple := []

namespace TripleGraph

/-- The graph with one more triple, unless it has an equal one. -/
def add (graph : TripleGraph) (triple : Triple) : TripleGraph :=
  if graph.triples.any (·.same triple) then graph else ⟨graph.triples ++ [triple]⟩

/-- The graph of a list of triples. -/
def ofList (triples : List Triple) : TripleGraph := triples.foldl add {}

/-- The facts of a graph, in the order of its triples. -/
def facts (graph : TripleGraph) : List Fact :=
  (graph.triples.mergeSort fun a b => (a.compare b).isLE).filterMap Triple.fact?

end TripleGraph

end OntoTypes
