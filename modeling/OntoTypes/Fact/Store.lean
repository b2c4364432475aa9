import OntoTypes.Fact.Topic
import OntoTypes.Settings

/-!
# The fact store

Facts arrive one by one or as declarations, lists of facts about one subject. Either way they are
grouped into topics by the text of their subject, in first seen order; a repeated declaration is
merged into the topic that is there. Some subjects are left out from the start.

Main definitions:

* `FactStore.addFact`, `FactStore.addFacts`, `FactStore.addDeclaration`;
* `FactStore.topics` — the topics that have a type;
* `FactStore.ofFacts` — the store of a list of facts.
-/

namespace OntoTypes

/-- Topics under the text of their subject, in first seen order. -/
structure FactStore where
  entries : List (String × Topic) := []

/-- The subject of the self-test that published releases contain. -/
def metaTestSubject : String := "http://meta.schema.org/"

/-- Subjects that are left out: local files and the self-test. -/
def isIgnoredSubject (subject : String) : Bool :=
  "file:".toList.isPrefixOf subject.toList || subject = metaTestSubject

namespace FactStore

/-- The topic of a subject. -/
def get? (store : FactStore) (subject : String) : Option Topic := store.entries.lookup subject

/-- How many subjects have a topic. -/
def size (store : FactStore) : Nat := store.entries.length

/-- The store with `topic` as the topic of its subject. -/
def put (store : FactStore) (topic : Topic) : FactStore :=
  ⟨Keyed.set topic.subject.text topic store.entries⟩

/-- The store with one more fact. -/
def addFact (store : FactStore) (fact : Fact) : Logged FactStore :=
  if isIgnoredSubject fact.subject.text then pure store
  else do
    let topic := (store.get? fact.subject.text).getD { subject := fact.subject }
    return store.put (← topic.insert fact.predicate fact.object)

/-- The store with some more facts. -/
def addFacts (store : FactStore) (facts : List Fact) : Logged FactStore :=
  facts.foldlM addFact store

/-- The topic that a declaration amounts to by itself. -/
def declaredTopic (subject : Term) (facts : List Fact) : Logged Topic :=
  facts.foldlM (fun topic fact => topic.insert fact.predicate fact.object) { subject := subject }

/-- The store with one more declaration, whose facts are all about the subject of the first. -/
def addDeclaration (settings : Settings) (store : FactStore) (facts : List Fact) :
    Logged FactStore :=
  match facts with
  | [] => pure store
  | first :: _ =>
    if isIgnoredSubject first.subject.text then pure store
    else do
      -- grouped by itself first, so that its own overwrites are reported before any merge
      let incoming ← declaredTopic first.subject facts
      match store.get? first.subject.text with
      | none => return store.put incoming
      | some existing =>
        Logged.noteIf settings.verbose .log
          ("Merging two items with ID " ++ first.subject.text)
        return ⟨Keyed.set first.subject.text (← existing.merge incoming) store.entries⟩

/-- The message about a topic that has no type. -/
def droppedNote (topic : Topic) : Diagnostic :=
  ⟨.log, "Dropping " ++ topic.subject.text ++ ", which has no type: " ++
    ", ".intercalate (topic.values.map Value.describe)⟩

/-- The topics that have a type, in first seen order. -/
def topics (settings : Settings) (store : FactStore) : Logged (List Topic) :=
  let all := store.entries.map Prod.snd
  -- topics that only say where a term comes from are dropped without a word
  let dropped := all.filter fun topic => topic.types.isEmpty && !topic.isProvenanceOnly
  ⟨all.filter fun topic => !topic.types.isEmpty,
    if settings.verbose then dropped.map droppedNote else []⟩

/-- The store of a list of facts. -/
def ofFacts (facts : List Fact) : Logged FactStore := addFacts {} facts

/-- The store of a list of declarations. -/
def ofDeclarations (settings : Settings) (declarations : List (List Fact)) : Logged FactStore :=
  declarations.foldlM (addDeclaration settings) {}

end FactStore

/-- The topics of a stream of facts. -/
def groupFacts (settings : Settings) (facts : List Fact) : Logged (List Topic) := do
  (← FactStore.ofFacts facts).topics settings

/-- The topics of a list of declarations. -/
def groupDeclarations (settings : Settings) (declarations : List (List Fact)) :
    Logged (List Topic) := do
  (← FactStore.ofDeclarations settings declarations).topics settings

end OntoTypes
