import OntoTypes.Fact.Store
import OntoTypes.Hierarchy.Build

/-!
# Assembling the hierarchy

Topics become classes, properties and enumeration members in three passes over the same list.
Classes are all declared before any reference is followed, so their order does not matter;
properties and enumeration members are attached once all classes are there. A reference that no
registered class answers to ends the run.

A topic may take part in several passes: a class may be a member of an enumeration too. Comments are
chosen alike in all of them — the last one in the preferred language or in none — and values that no
pass has a use for are reported on request.

Main definitions:

* `catalogue`, `seedBuiltins` — the data types that are not read from the ontology;
* `buildClasses`, `resolveProperties`, `resolveMembers` — the three passes;
* `buildRegistry` — all of it, ending with a frozen registry.
-/

namespace OntoTypes

/-! ## Kinds of topics -/

/-- The type whose instances are classes. -/
def classType : String := "http://www.w3.org/2000/01/rdf-schema#Class"

/-- The type whose instances are properties. -/
def propertyType : String := "http://www.w3.org/1999/02/22-rdf-syntax-ns#Property"

/-- The types whose instances are data types, under both schemes of the namespace. -/
def dataTypes : List String := ["http://schema.org/DataType", "https://schema.org/DataType"]

namespace Term

def isClassType (term : Term) : Bool := term = .iri classType

def isPropertyType (term : Term) : Bool := term = .iri propertyType

def isDataType : Term → Bool
  | iri value => dataTypes.contains value
  | _ => false

/-- The types whose instances are classes, properties and data types. -/
def isMetaType (term : Term) : Bool := term.isClassType || term.isPropertyType || term.isDataType

end Term

/-- Whether one of some type tags is the type of an enumeration. -/
def hasMemberType (types : List Term) : Bool := types.any (!·.isMetaType)

namespace Topic

/-- Topics about classes. Data types are not: the catalogue covers them. -/
def isClass (topic : Topic) : Bool :=
  !topic.types.any Term.isDataType && !topic.subject.isDataType && topic.types.any Term.isClassType

/-- Topics about properties. -/
def isProperty (topic : Topic) : Bool := topic.types.any Term.isPropertyType

end Topic

/-! ## Builtin data types -/

/-- The data types of schema.org, with the primitives they stand for. -/
def catalogue : List Primitive := [
  ⟨"Text", "string", "Data type: Text."⟩,
  ⟨"Number", "number", "Data type: Number."⟩,
  ⟨"Time", "string", "DateTime represented in string, e.g. 2017-01-04T17:10:00-05:00."⟩,
  ⟨"Date", "string", "A date value in <a href=\"http://en.wikipedia.org/wiki/ISO_8601\">" ++
    "ISO 8601 date format</a>."⟩,
  ⟨"DateTime", "string", "A combination of date and time of day in the form " ++
    "[-]CCYY-MM-DDThh:mm:ss[Z|(+|-)hh:mm] (see Chapter 5.4 of ISO 8601)."⟩,
  ⟨"Boolean", "boolean", "Boolean: True or False."⟩]

/-- The class that stands for a primitive. -/
def builtinNode (namespaceIri : String) (primitive : Primitive) : ClassNode :=
  { subject := .iri (namespaceIri ++ primitive.name), primitive := some primitive }

namespace Build

/-- Declares the builtin data types under a namespace. -/
def seedBuiltins (namespaceIri : String) : Build Unit :=
  catalogue.forM fun primitive => apply (·.declare (builtinNode namespaceIri primitive))

/-! ## Messages -/

/-- What is reported about values that nothing had a use for. -/
def unusedNote (kind name : String) (values : List Value) : String :=
  "For " ++ kind ++ " " ++ name ++ ", did not process:\n\t" ++
    "\n\t".intercalate (values.map Value.describe)

/-- Reports a missing comment and unused values, if that is asked for. -/
def report (settings : Settings) (isMissing : Bool) (missing : String) (kind name : String)
    (unused : List Value) : Build Unit := do
  if settings.verbose then
    if isMissing then note .log missing
    if !unused.isEmpty then note .log (unusedNote kind name unused)

/-! ## Classes -/

/-- Describes a class by a comment of its topic. A second comment replaces the first one. -/
def describeClass (c : ClassId) (text : String) : Build Unit := do
  let registry ← Build.registry
  if (registry.node? c).any (·.description.isSome) then
    note .warn ("Duplicate comments provided on class " ++ registry.subjectText c ++
      ". It will be overwritten.")
  apply (·.describe c text)

/-- Makes a value of its topic known to a class that may be changed; tells whether the class has a
use for the value. -/
def claimValue (settings : Settings) (c : ClassId) (value : Value) : Build Bool := do
  let subject := (← Build.registry).subjectText c
  -- a comment, a parent or a replacement: what is one of them is not looked at as another
  match value.comment? settings.lang with
  | some text =>
    describeClass c text
    return true
  | none =>
    match value.reference? .subClassOf with
    | some reference =>
      let parent ← resolve reference.text subject "parent"
      apply (·.link c parent)
      return true
    | none =>
      match value.reference? .supersededBy with
      | some reference =>
        let target ← resolve reference.text subject "superseding class"
        apply (·.supersede c target)
        return true
      -- nothing that a class is described by
      | none => return false

/-- Makes a value of its topic known to a class; tells whether the class has a use for the value. A
frozen class refuses every value, useful or not. -/
def addValue (settings : Settings) (c : ClassId) (value : Value) : Build Bool := do
  let registry ← Build.registry
  if registry.isFrozenClass c then throw (.frozenClass (registry.subjectText c))
  else claimValue settings c value

/-- Makes values known to a class, labels aside; the values that the class has no use for. -/
def addValues (settings : Settings) (c : ClassId) : List Value → Build (List Value)
  | [] => return []
  | value :: rest => do
    let unused ←
      if value.predicate = .known .label then pure false
      else do pure (!(← addValue settings c value))
    let later ← addValues settings c rest
    return if unused then value :: later else later

/-- Declares the class of a topic. A builtin data type keeps its place. -/
def declareTopic (topic : Topic) : Build Unit := do
  let registry ← Build.registry
  if (registry.get? topic.subject.text).any registry.isBuiltin then
    note .warn ("Class " ++ topic.subject.text ++
      " is already a builtin data type; keeping the builtin.")
  else
    -- a subject that cannot give a type its name is refused before it is registered
    let _ ← ofExcept (typeName topic.subject)
    apply (·.declare { subject := topic.subject })

/-- Follows the references of a declared class. -/
def completeTopic (settings : Settings) (topic : Topic) : Build Unit := do
  let registry ← Build.registry
  match registry.get? topic.subject.text with
  | none => return
  | some c =>
    if registry.isBuiltin c then return
    let unused ← addValues settings c topic.values
    let isMissing := !((← Build.registry).node? c).any (·.description.isSome)
    report settings isMissing ("Class " ++ topic.subject.text ++ " has no comments.") "class"
      topic.subject.readableName unused

/-- Declares the classes of some topics, then follows their references. -/
def buildClasses (settings : Settings) (topics : List Topic) : Build Unit := do
  let classes := topics.filter Topic.isClass
  if classes.isEmpty then throw .emptyOntology
  -- all classes are there before the first reference is followed
  classes.forM declareTopic
  classes.forM (completeTopic settings)

/-! ## Properties -/

end Build

/-- What has been read of a property: the property, the classes it is to be attached to, and the
values nothing has a use for. -/
structure PropertyDraft where
  property : PropertyNode
  domains  : List ClassId := []
  unused   : List Value := []

namespace PropertyDraft

/-- Reads one more value of the topic of a property. -/
def readValue (settings : Settings) (registry : Registry) (subject : String)
    (draft : PropertyDraft) (value : Value) : Attempt PropertyDraft := do
  let property := draft.property
  if value.predicate = .known .label then return draft
  else
    match value.comment? settings.lang with
    | some text =>
      if property.description.isSome then
        Attempt.note .warn ("Duplicate comments provided on property " ++ subject ++ ".")
      return { draft with property := { property with description := some text } }
    | none =>
      match value.reference? .rangeIncludes with
      | some reference =>
        let c ← Attempt.ofExcept (registry.resolve reference.text subject "range class")
        return { draft with property := { property with range := property.range ++ [c] } }
      | none =>
        match value.reference? .domainIncludes with
        | some reference =>
          let c ← Attempt.ofExcept (registry.resolve reference.text subject "domain class")
          return { draft with domains := draft.domains ++ [c] }
        | none =>
          match value.reference? .supersededBy with
          | some replacement =>
            let replacements := property.supersededBy ++ [replacement]
            return { draft with property := { property with supersededBy := replacements } }
          | none => return { draft with unused := draft.unused ++ [value] }

/-- Reads the topic of a property. -/
def ofTopic (settings : Settings) (registry : Registry) (topic : Topic) : Attempt PropertyDraft :=
  topic.values.foldlM (readValue settings registry topic.subject.text)
    { property := { subject := topic.subject } }

end PropertyDraft

namespace Build

/-- Records a new property and attaches it to some classes, one after another. -/
def addProperty (property : PropertyNode) (owners : List ClassId) : Build PropertyId := do
  let id := (← Build.registry).properties.size
  -- owned first and recorded last: if an owner refuses, the property itself is not there
  owners.forM fun owner => apply (·.attachProperty id owner)
  apply fun registry => .ok (registry.pushProperty property)
  return id

/-- Attaches the property of a topic to the classes that own it. -/
def resolveProperty (settings : Settings) (topic : Topic) : Build PropertyId := do
  let draft ← ofAttempt (PropertyDraft.ofTopic settings (← Build.registry) topic)
  let id ← addProperty { draft.property with owners := draft.domains } draft.domains
  report settings draft.property.description.isNone
    ("Property " ++ topic.subject.text ++ " has no comments.") "property"
    topic.subject.readableName draft.unused
  return id

/-- Attaches the properties of some topics. -/
def resolveProperties (settings : Settings) (topics : List Topic) : Build (List PropertyId) :=
  (topics.filter Topic.isProperty).mapM (resolveProperty settings)

/-! ## Members of enumerations -/

/-- The class that a topic is a member of: the one its first type tag names, not counting the types
of classes, properties and data types. -/
def memberOwner? (topic : Topic) : Build (Option ClassId) := do
  match topic.types.find? (!·.isMetaType) with
  | none => return none
  | some tag => return some (← resolve tag.text topic.subject.text "enumeration type")

end Build

/-- What has been read of a member: its comment, and the values nothing has a use for. -/
structure MemberDraft where
  comment : Option String := none
  unused  : List Value := []

namespace MemberDraft

/-- Reads one more value of the topic of a member. -/
def readValue (settings : Settings) (subject : String) (draft : MemberDraft) (value : Value) :
    Logged MemberDraft := do
  if value.predicate = .known .label then return draft
  else
    match value.comment? settings.lang with
    | some text =>
      Logged.noteIf draft.comment.isSome .warn ("Duplicate comments found in " ++ subject ++ ".")
      return { draft with comment := some text }
    | none => return { draft with unused := draft.unused ++ [value] }

/-- Reads the topic of a member. -/
def ofTopic (settings : Settings) (topic : Topic) : Logged MemberDraft :=
  topic.values.foldlM (readValue settings topic.subject.text) {}

end MemberDraft

namespace Build

/-- Attaches the member that a topic describes to its class, if the topic describes a member. -/
def resolveMember (settings : Settings) (topic : Topic) : Build (Option MemberNode) := do
  match ← memberOwner? topic with
  | none => return none
  | some owner =>
    let draft ← ofAttempt (ExceptT.lift (MemberDraft.ofTopic settings topic))
    -- the comment is reported on even if the class then refuses the member
    report settings draft.comment.isNone ("No comments found in " ++ topic.subject.text ++ ".")
      "enum item" topic.subject.readableName draft.unused
    let member : MemberNode := ⟨topic.subject, draft.comment⟩
    apply (·.attachMember member owner)
    return some member

/-- Attaches the members that some topics describe. -/
def resolveMembers (settings : Settings) (topics : List Topic) : Build (List MemberNode) := do
  let members ← (topics.filter fun topic => hasMemberType topic.types).mapM (resolveMember settings)
  return members.filterMap id

/-! ## All of it -/

/-- Builds the hierarchy of some topics and makes it read-only. -/
def buildRegistry (settings : Settings) (topics : List Topic) : Build Unit := do
  seedBuiltins settings.namespaceIri
  buildClasses settings topics
  let _ ← resolveProperties settings topics
  let _ ← resolveMembers settings topics
  apply fun registry => .ok registry.freeze

end Build

end OntoTypes
