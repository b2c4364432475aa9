import OntoTypes.Error
import OntoTypes.LinkedData.Iri

/-!
# Contexts

A context says what the short names in a document stand for. It is read from a list of definitions,
each of which declares terms on top of those before it; a null definition forgets all of them. A
term may stand for an IRI, for a keyword of the notation (it is then an *alias*), or for nothing;
and it may say how the texts under it are to be read.

Some parts of a context are kept as they are written and only looked at where they are needed, so
that a part that is no text does no harm before that. What is void counts as left out there.

Not all that the notation allows in a context is read. Of a definition as a whole, `@version`,
`@protected` and `@import` are passed over, and so is `@propagate` with a truth value: every
definition is read by the same rules, and no term is kept from being declared again. Of the
declaration of a term, only `@id`, `@type`, `@language` and `@prefix` are read, and of `@container`
only whether its entries are plain. What is not read has no effect: `@reverse`, so that no term
stands for an edge that is followed backwards, `@protected`, `@index`, `@nest`, and a `@context`
that the values of a single term would bring along. A context that is given by its address is
refused, not fetched.

Main definitions:

* `Context`, `TermDeclaration` — what has been declared;
* `Context.load` — reading definitions;
* `Context.expand`, `Context.resolve` — the IRI that a name or a reference stands for;
* `Context.get?` — a field of an object, found by the aliases of a keyword or by the keyword itself.
-/

namespace OntoTypes.LinkedData

/-- A part of a declaration: left out, given as null, or given. -/
abbrev Part := Option (Option String)

/-- What a name has been declared to stand for. -/
structure TermDeclaration where
  iri       : Part
  /-- How a text under this term is to be read: as a reference, or as a literal of a datatype. Only
  something void is kept that is no text. -/
  coercion  : Option Json := none
  /-- The language of a text under this term, as it is written. -/
  language  : Json := .null
  /-- Whether the term may stand before the colon of a compact IRI. -/
  isPrefix : Bool

/-- What the names of a document stand for. -/
structure Context where
  /-- What bare names follow, as it is written. -/
  vocab    : Json := .null
  /-- The language of texts, as it is written. -/
  language : Json := .null
  /-- What relative references are resolved against. -/
  base     : String := ""
  terms    : List (String × TermDeclaration) := []
  /-- The names that stand for a keyword, by keyword, in the order of their declaration. -/
  aliases  : List (String × List String) := []

/-- The keywords of the notation. -/
def keywords : List String :=
  ["@graph", "@id", "@included", "@json", "@list", "@nest", "@none", "@reverse", "@set", "@type",
    "@value", "@language"]

/-- Names that look like a keyword without being one. -/
def isUnknownKeyword (name : String) : Bool :=
  match name.toList with
  | '@' :: c :: _ => Text.alphanumerics.contains c.toNat && !keywords.contains name
  | _ => false

/-- The IRI of the predicate that states a type. -/
def typeIri : String := "http://www.w3.org/1999/02/22-rdf-syntax-ns#type"

/-- How a name is written: without a colon, with a scheme and `//`, or as two parts with a colon
between them. -/
inductive NameForm where
  | bare
  | absolute
  | compact (before after : String)

/-- The form of a name. -/
def NameForm.of (name : String) : NameForm :=
  match Text.cutAt ':' name.toList with
  | (_, none) => bare
  | (before, some after) =>
    if "//".toList.isPrefixOf after then absolute
    else compact (String.ofList before) (String.ofList after)

/-- A text that is there and is not empty. -/
def nonEmpty? (s : Option String) : Option String := s.filter (· ≠ "")

/-- What has been said about a name: nothing, the text it stands for, or something else that cannot
be built on, void or not. -/
inductive Standing where
  | nothing
  | text (s : String)
  | other (isVoid : Bool)

namespace Standing

/-- What a definition says about a name. -/
def ofJson : Json → Standing
  | .null => nothing
  | .text s => text s
  | value => other value.isVoid

/-- What a declaration says about its term. -/
def ofPart : Part → Standing
  | none => other true
  | some none => nothing
  | some (some s) => text s

end Standing

namespace Context

/-- The context without what has been declared; only the base stays. -/
def clear (context : Context) : Context := { base := context.base }

/-- What bare names follow, if anything. -/
def vocabulary? (context : Context) : Except Error (Option String) :=
  match context.vocab with
  | .text s => .ok (nonEmpty? s)
  | value => if value.isVoid then .ok none else .error (.declarationNotText "@vocab")

/-! ## Reading definitions -/

/-- What has been declared about a name. -/
def declared (context : Context) (name : String) : Standing :=
  match context.terms.lookup name with
  | some term => .ofPart term.iri
  | none => .nothing

/-- What a name stands for while a definition is read: what the definition itself says, or else what
has been declared before. -/
def standing (context : Context) (definition : List (String × Json)) (name : String) : Standing :=
  match definition.lookup name with
  | some (.object fields) => .ofJson ((fields.lookup "@id").getD .null)
  | some .null | none => context.declared name
  | some value => .ofJson value

/-- One step of the expansion of a name; whether more steps are to follow. -/
def expandOnce (context : Context) (definition : List (String × Json)) (name : String) :
    Except Error (String × Bool) := do
  -- a name as a whole: what has been declared about it, else the vocabulary
  let throughTerms (name : String) : Except Error (String × Bool) := do
    let meant ←
      match context.standing definition name with
      | .text s => pure (if s = "" then name else s)
      | .nothing | .other true => pure name
      | .other false => throw (.declarationNotText name)
    if meant.toList.contains ':' then return (meant, true)
    else
      match ← context.vocabulary? with
      | some vocab => return (vocab ++ meant, false)
      | none => return (meant, true)
  match NameForm.of name with
  | .bare | .absolute => throughTerms name
  | .compact "" after => throughTerms after
  | .compact before after =>
    -- where nothing is said, what was declared before is asked, but not for the vocabulary itself
    let isVocab := context.vocab.asText? = some (before ++ ":")
    let found : Standing :=
      match context.standing definition before with
      | .nothing => if isVocab then .nothing else context.declared before
      | found => found
    match found with
    | .text iri => return (iri ++ after, true)
    | .nothing => return (name, false)
    | .other _ => throw (.declarationNotText before)

/-- The number of steps after which an expansion is given up. -/
def mostSteps : Nat := 1000

/-- The IRI or keyword that a name stands for while a definition is read: names are replaced by what
they stand for until nothing changes. -/
def expandDeclared (context : Context) (definition : List (String × Json)) :
    Nat → String → Except Error String
  | 0, _ => .error .circularContext
  | steps + 1, name => do
    if keywords.contains name then return name
    else
      -- a name that stands for itself is done, however it is written
      let (next, more) ← context.expandOnce definition name
      if !more || next = name then return next else expandDeclared context definition steps next

/-- The characters an IRI ends with if compact IRIs may be built on it. -/
def prefixEnds : List Char := [':', '/', '?', '#', '[', ']', '@']

/-- Whether a term may stand before a colon, when its declaration does not say so itself. -/
def endsLikePrefix (iri : Part) : Bool :=
  match iri.join with
  | some s =>
    match s.toList.getLast? with
    | some c => prefixEnds.contains c
    | none => false
  | none => false

/-- The context with one more term. A name for a keyword becomes one of its aliases; any other one
stops being an alias. Names that look like a keyword do not become terms. -/
def declareTerm (context : Context) (name : String) (term : TermDeclaration) : Context :=
  let aliases :=
    match term.iri.join.filter keywords.contains with
    | some keyword =>
      Keyed.set keyword ((context.aliases.lookup keyword).getD [] ++ [name]) context.aliases
    | none => context.aliases.map fun (keyword, names) => (keyword, names.erase name)
  -- such a name still counts among the aliases
  let terms := if isUnknownKeyword name then context.terms else Keyed.set name term context.terms
  { context with terms := terms, aliases := aliases }

/-- The coercion that a declaration asks for. -/
def readCoercion (context : Context) (definition : List (String × Json)) (name : String) :
    Option Json → Except Error (Option Json)
  | none => .ok none
  | some (.text s) =>
    if s = "" || s = "@id" || s = "@type" || s = "@vocab" then .ok (some (.text s))
    else (context.expandDeclared definition mostSteps s).map fun iri => some (.text iri)
  | some value => if value.isVoid then .ok (some value) else .error (.declarationNotText name)

/-- The IRI that the declaration of a term gives it. -/
def readIri (context : Context) (definition : List (String × Json)) (name : String) :
    Option Json → Except Error Part
  | some (.text s) => (context.expandDeclared definition mostSteps s).map fun iri => some (some iri)
  | some .null => .ok (some none)
  | some _ => .error (.declarationNotText name)
  | none =>
    if name.toList.contains ':' then
      (context.expandDeclared definition mostSteps name).map fun iri => some (some iri)
    else
      context.vocabulary?.map fun vocab => vocab.map fun vocab => some (vocab ++ name)

/-- Whether a document has no parts. -/
def isPlain : Json → Bool
  | .array _ | .object _ => false
  | _ => true

/-- Whether terms can be told apart by a declaration: its containers have no parts, and neither has
its language if there is no coercion. -/
def isDistinct (fields : List (String × Json)) (coercion : Option Json) : Bool :=
  let containers :=
    match fields.lookup "@container" with
    | some (.array items) => items
    | container => container.toList
  containers.all isPlain &&
    (!(coercion.getD .null).isVoid || isPlain ((fields.lookup "@language").getD .null))

/-- The declaration of a term by an object. -/
def readTerm (context : Context) (definition : List (String × Json)) (name : String)
    (fields : List (String × Json)) : Except Error TermDeclaration := do
  let coercion ← context.readCoercion definition name (fields.lookup "@type")
  let (iri, coercion) ←
    match fields.lookup "@id" with
    | some (.text "@type") => pure (some (some typeIri), some (.text "@vocab"))
    | given => do pure (← context.readIri definition name given, coercion)
  if isDistinct fields coercion then
    return {
      iri := iri
      coercion := coercion
      language := (fields.lookup "@language").getD .null
      isPrefix :=
        match fields.lookup "@prefix" with
        | none | some .null => endsLikePrefix iri
        | some value => !value.isVoid }
  else throw (.declarationNotText name)

/-- The context with another base, which is cut at its fragment and resolved against the one
before. -/
def readBase (context : Context) (value : Json) : Except Error Context :=
  match value with
  | .null => .ok { context with base := "" }
  | .text s => do
    let reference := (Text.cutAt '#' s.toList).1
    let base ← resolveReference context.base (String.ofList reference)
    let _ ← IriParts.ofChars reference
    return { context with base := base }
  | value => .error (if value.isVoid then .declarationNotText "@base" else .baseNotText)

/-- The context with one more entry of a definition. -/
def readEntry (definition : List (String × Json)) (context : Context) (name : String)
    (value : Json) : Except Error Context := do
  match name, value with
  | "@version", _ | "@vocab", _ | "@protected", _ | "@import", _ | "@propagate", .bool _ =>
    return context
  | "@language", _ => return { context with language := value }
  | "@base", _ => context.readBase value
  | _, .object fields => return context.declareTerm name (← context.readTerm definition name fields)
  | _, .text s =>
    if isUnknownKeyword s then return context
    else
      let iri := some (some (← context.expandDeclared definition mostSteps s))
      return context.declareTerm name { iri := iri, isPrefix := endsLikePrefix iri }
  | _, _ => return context.declareTerm name { iri := some none, isPrefix := false }

/-- The context with one more definition. -/
def readDefinition (context : Context) (value : Json) : Except Error Context :=
  match value with
  | .object fields =>
    fields.foldlM (fun context (name, value) => readEntry fields context name value)
      -- the vocabulary is in force for all entries, wherever in the definition it stands
      { context with vocab := (fields.lookup "@vocab").getD context.vocab }
  | .null => .ok context.clear
  | _ => .error .contextNotObject

/-- The definitions that a context is made of: lists are gone through in order, and an object that
holds a context stands for it. -/
def definitions (value : Json) : List Json :=
  match value with
  | .array items => items.attach.flatMap fun ⟨item, _⟩ => definitions item
  | .object fields =>
    match _h : fields.lookup "@context" with
    | some inner => definitions inner
    | none => [value]
  | _ => [value]
termination_by value
decreasing_by
  · have := List.sizeOf_lt_of_mem ‹_›
    simp only [Json.array.sizeOf_spec]
    omega
  · exact Json.sizeOf_lookup _h

/-- The context that some definitions amount to. -/
def load (given : List Json) : Except Error Context :=
  (given.flatMap definitions).foldlM readDefinition {}

/-- The context that a definition by itself amounts to; nothing is declared by one that is void. -/
def ofJson (definition : Json) : Except Error Context :=
  if definition.isVoid then .ok {} else load [definition]

/-! ## Using a context -/

/-- A reference resolved against the base. -/
def resolveIri (context : Context) (reference : String) : Except Error String :=
  resolveReference context.base reference

/-- What a compact or absolute name stands for. -/
def expandCompact (context : Context) (name : String) : Except Error String :=
  match NameForm.of name with
  | .compact before after =>
    if before = "_" then .ok name
    else
      match context.terms.lookup before with
      | some term =>
        match nonEmpty? term.iri.join with
        | some iri => if term.isPrefix then .ok (iri ++ after) else context.resolveIri name
        | none => context.resolveIri name
      | none => context.resolveIri name
  | _ => context.resolveIri name

/-- The IRI that the name of a predicate, a type or a datatype stands for; null if the context does
not say, and left out for a term without an IRI. -/
def expand (context : Context) (name : String) : Except Error Part := do
  -- a name that looks like a keyword stands for nothing, which is not the same as null
  if isUnknownKeyword name then return some (some "")
  else
    match context.terms.lookup name with
    | some term => return term.iri
    | none =>
      match NameForm.of name with
      | .bare => return some ((← context.vocabulary?).map (· ++ name))
      | _ => return some (some (← context.expandCompact name))

/-- The IRI that a reference to a node stands for. -/
def resolve (context : Context) (reference : String) : Except Error String := do
  let expanded ← if isUnknownKeyword reference then pure "" else context.expandCompact reference
  let cs := expanded.toList
  -- blank nodes are kept, and what holds a blank is no reference
  if "_:".toList.isPrefixOf cs then return expanded
  else if cs.contains ' ' then return ""
  else context.resolveIri expanded

/-- The names under which a keyword may appear. -/
def namesFor (context : Context) (keyword : String) : List String :=
  (context.aliases.lookup keyword).getD [] ++ [keyword]

/-- The value of a keyword in an object: under the first of its names that occurs. Null counts as no
value. -/
def get? (context : Context) (keyword : String) (fields : List (String × Json)) : Option Json :=
  ((context.namesFor keyword).findSome? fun name => fields.lookup name).filter (!·.isNull)

end Context

end OntoTypes.LinkedData
