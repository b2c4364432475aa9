import OntoTypes.Attempt
import OntoTypes.Fact.Store
import OntoTypes.LinkedData.Context

/-!
# Members of a graph

A member is an object that describes one subject: its identifier, its type tags, and under every
other key the values of one predicate. Keys that start with `@` or name the identifier or the type
are no predicates; a key that the context cannot map to an IRI is reported and dropped.

Main definitions:

* `nodeTerm`, `typeTag`, `objectTerm` — the terms that parts of a member stand for;
* `isSkippable` — members that only say where a term comes from;
* `memberFacts` — the facts a member states.
-/

namespace OntoTypes.LinkedData

namespace Context

/-- What the context says that a key stands for; a term may be declared without an IRI. -/
def keyIri (context : Context) (key : String) : Except Error Part := do
  match context.terms.lookup key with
  | some term => return term.iri
  | none => return some (nonEmpty? (← context.expand key).join)

/-- The IRI of the predicate that a key stands for; nothing if the context does not map the key. -/
def predicateIri (context : Context) (key : String) : Except Error (Option String) := do
  match ← context.keyIri key with
  | some iri => return iri
  | none => throw (.termWithoutIri key)

/-- The node that a reference stands for. -/
def nodeTerm (context : Context) (reference : String) : Except Error Term :=
  match reference.toList with
  | '_' :: ':' :: label => .ok (.blank (String.ofList label))
  | _ => (context.resolve reference).map Term.iri

/-- The node that an identifier stands for. -/
def nodeOf (context : Context) (value : Json) : Except Error Term :=
  match value with
  | .text reference => context.nodeTerm reference
  | _ => .error .identifierNotText

/-- The IRI that the name of a type stands for. -/
def typeIriOf (context : Context) (name : String) : Except Error String := do
  match nonEmpty? (← context.expand name).join with
  | some iri => return iri
  | none => context.resolveIri name

/-- The type that a type tag stands for. A list or an object that is not empty counts as the text
that diagnostics show for it. -/
def typeTag (context : Context) (value : Json) : Except Error Term :=
  match value with
  | .text name => (context.typeIriOf name).map Term.iri
  | .array (_ :: _) | .object (_ :: _) => .ok (.iri value.display)
  | _ => .error .typeTagNotIri

/-- The language that a part of a document names. -/
def readLanguage : Json → Except Error (Option String)
  | .null => .ok none
  | .text tag => .ok (some tag)
  | _ => .error .languageNotText

/-- The literal that a value object stands for. -/
def valueObject (fields : List (String × Json)) (value : Json) : Except Error Term := do
  let language ← readLanguage ((fields.lookup "@language").getD .null)
  return .literal (← Literal.ofJson value language)

/-- The datatype that the coercion of a term stands for. -/
def datatypeOf (context : Context) (coercion : Json) : Except Error (Option String) := do
  match coercion with
  | .text name =>
    match ← context.expand name with
    | some iri => return iri
    | none => throw (.termWithoutIri name)
  | .null => return none
  | .array _ | .object _ => return some coercion.display
  | _ => throw .typeTagNotIri

/-- The literal or node that a text under `key` stands for, by the declaration of the key. A term
that has no coercion may have a language of its own. -/
def textObject (context : Context) (key text : String) : Except Error Term := do
  let term := context.terms.lookup key
  match term.bind (·.coercion) with
  | some (.text "@id") => context.nodeTerm text
  | some (.text "@vocab") => return .iri (← context.typeIriOf text)
  | some coercion => return .literal (← Literal.ofText text none (← context.datatypeOf coercion))
  | none =>
    -- the language of the term, unless it has none worth the name
    let own := (term.map (·.language)).getD .null
    let language ← readLanguage (if own.isVoid then context.language else own)
    return .literal (← Literal.ofText text language none)

/-- The object that a value under `key` stands for. -/
def objectTerm (context : Context) (key : String) (value : Json) : Except Error Term :=
  match value with
  | .object fields =>
    -- looked up by the keywords themselves, not by their aliases
    match fields.lookup "@id" with
    | some reference => context.nodeOf reference
    | none =>
      match fields.lookup "@value" with
      | some given => valueObject fields given
      | none => .error (.unsupportedValue key value)
  | .text text => context.textObject key text
  | _ => (Literal.ofJson value none).map Term.literal

/-- The error of something that is no object where a keyword is looked for. In what has no parts
not even the aliases of the keyword can be looked for, if it has any. -/
def notObject (context : Context) (keyword : String) (value : Json) : Error :=
  match value with
  | .text _ | .array _ | .object _ => .memberNotObject
  | _ =>
    if ((context.aliases.lookup keyword).getD []).isEmpty then .memberNotObject
    else .memberNotSearchable

end Context

/-- A key of the notation itself. -/
def isReserved (key : String) : Bool := "@".toList.isPrefixOf key.toList

/-- Predicates that say where a term comes from. -/
def provenanceIris : List String :=
  ["http://purl.org/dc/terms/source", "http://www.w3.org/2004/02/skos/core#closeMatch",
    "http://schema.org/softwareVersion", "https://schema.org/softwareVersion"]

/-- Whether a key occurs in a member as a predicate when it is decided whether the member is left
out. -/
def isTelling (context : Context) (key : String) : Bool :=
  !isReserved key && !(context.namesFor "@id").contains key

/-- Whether a member is left out: the self-test, and members without a type all of whose keys (at
least one) say where the term comes from. -/
def isSkippable (context : Context) (fields : List (String × Json)) : Except Error Bool := do
  if ((context.get? "@id" fields).bind Json.asText?) = some metaTestSubject then return true
  else if (context.get? "@type" fields).isSome then return false
  else
    -- what is left has no type, and only its predicates can speak for it
    let iris ← ((fields.map Prod.fst).filter (isTelling context)).mapM context.keyIri
    return !iris.isEmpty && iris.all fun iri => iri.join.any provenanceIris.contains

/-- The facts that one entry of a member states about its subject. -/
def entryFacts (context : Context) (subject : Term) (key : String) (value : Json) :
    Attempt (List Fact) := do
  if isReserved key || (context.namesFor "@id").contains key
      || (context.namesFor "@type").contains key then
    return []
  else
    match ← Attempt.ofExcept (context.predicateIri key) with
    | none =>
      Attempt.note .warn
        ("Could not expand key " ++ key ++ " on " ++ subject.text ++ "; its values are dropped.")
      return []
    | some iri =>
      value.elements.mapM fun element => do
        return ⟨subject, .ofIri iri, ← Attempt.ofExcept (context.objectTerm key element)⟩

/-- The facts that a member states, its type tags first, then its entries in order. -/
def memberFacts (context : Context) (fields : List (String × Json)) : Attempt (List Fact) := do
  -- the subject is read first, so a member without a usable identifier states nothing
  let subject ← Attempt.ofExcept (context.nodeOf ((context.get? "@id" fields).getD .null))
  let tags := ((context.get? "@type" fields).getD .null).elements
  let types ← tags.mapM fun tag => do
    return (⟨subject, .known .type, ← Attempt.ofExcept (context.typeTag tag)⟩ : Fact)
  let others ← fields.mapM fun (key, value) => entryFacts context subject key value
  return types ++ others.flatten

end OntoTypes.LinkedData
