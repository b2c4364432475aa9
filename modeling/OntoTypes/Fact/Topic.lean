import OntoTypes.Diagnostic
import OntoTypes.Fact.Term

/-!
# Topics

A topic is everything said about one subject. Values are filed in *slots*: a comment or a label in
the slot of its language, any other value in a slot of its own. A slot holds one value, and slots
stay in the order in which they were first used. In the slot of a comment or label the last value
wins, and a warning says that another one was overwritten; in any other slot the first value stays,
being equal to every later one. Type tags are kept apart, each once.

Main definitions:

* `Topic`, `Topic.insert` — filing one value;
* `Topic.merge` — filing everything another topic says;
* `Topic.isProvenanceOnly` — topics that merely say where a term comes from.
-/

namespace OntoTypes

/-- All that is known about a subject. -/
structure Topic where
  subject : Term
  /-- The type tags, in first seen order. -/
  types   : List Term := []
  /-- The other values, in the order of their slots. -/
  values  : List Value := []
deriving DecidableEq

namespace Predicate

/-- Comments and labels are singular: there is one per language. -/
def isSingular : Predicate → Bool
  | known .comment | known .label => true
  | _ => false

/-- Predicates that only say where a term comes from. -/
def isProvenance : Predicate → Bool
  | known .source | known .closeMatch => true
  | known _ => false
  | other iri =>
    iri = "http://schema.org/softwareVersion" || iri = "https://schema.org/softwareVersion"

end Predicate

namespace Value

/-- Two values that are filed in the same slot. -/
def sameSlot (a b : Value) : Bool :=
  a.predicate = b.predicate &&
    if a.predicate.isSingular then a.object.language? = b.object.language?
    else a.object.same b.object

/-- The values with the first one in the slot of `value` replaced by it. -/
def replaceIn (value : Value) : List Value → List Value
  | [] => []
  | existing :: rest =>
    if existing.sameSlot value then value :: rest else existing :: replaceIn value rest

end Value

namespace Topic

/-- The topic with one more type tag, unless it has the tag already. -/
def addType (topic : Topic) (tag : Term) : Topic :=
  if topic.types.any (·.same tag) then topic else { topic with types := topic.types ++ [tag] }

/-- The topic with one more value, not a type tag, filed in its slot. -/
def addValue (topic : Topic) (value : Value) : Logged Topic :=
  match topic.values.find? (·.sameSlot value) with
  | none => pure { topic with values := topic.values ++ [value] }
  | some existing =>
    -- nothing is overwritten when the same thing is said again
    if existing.object.same value.object then pure topic
    else do
      Logged.note .warn
        ("Two " ++ value.predicate.text ++ "s found for " ++ topic.subject.text ++
          ". Keeping the last one.")
      return { topic with values := value.replaceIn topic.values }

/-- The topic with one more assertion about its subject. -/
def insert (topic : Topic) (predicate : Predicate) (object : Term) : Logged Topic :=
  if predicate = .known .type then pure (topic.addType object)
  else topic.addValue ⟨predicate, object⟩

/-- The topic with everything that `later` says about the same subject. -/
def merge (topic later : Topic) : Logged Topic := do
  -- type tags first, as they are kept apart from other values
  let typed ← later.types.foldlM (fun topic tag => topic.insert (.known .type) tag) topic
  later.values.foldlM (fun topic value => topic.insert value.predicate value.object) typed

/-- A topic without type tags whose values all say where the term comes from. -/
def isProvenanceOnly (topic : Topic) : Bool :=
  topic.types.isEmpty && topic.values.all fun value => value.predicate.isProvenance

end Topic

end OntoTypes
