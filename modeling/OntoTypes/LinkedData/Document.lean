import OntoTypes.LinkedData.Member

/-!
# Documents and their declarations

A document holds the members of a graph, and members may hold graphs of their own. The members are
visited in order, nested graphs in their place, and each member states one declaration: the list of
its facts. A context counts for the graph or the member it stands in and for everything nested
there, on top of the contexts around it.

Visiting stops at the first error. What was found before it is kept, with the messages that arose,
so that a reader can take declarations in one by one.

Main definitions:

* `Harvest` — the declarations of a document, and the error that ended the visit, if one did;
* `harvest` — visiting a document;
* `Harvest.group` — the topics of the declarations.
-/

namespace OntoTypes.LinkedData

/-- Declarations in the order in which they were found. -/
structure Harvest where
  declarations : List (Logged (List Fact)) := []
  /-- The error that ended the visit, with the messages of the member it arose in. -/
  failure      : Option (Logged Error) := none

namespace Harvest

/-- A visit that fails at once. -/
def failed (e : Error) : Harvest := { failure := some ⟨e, []⟩ }

/-- What one member states. -/
def single (facts : Attempt (List Fact)) : Harvest :=
  match facts.run with
  | ⟨.ok found, notes⟩ => { declarations := [⟨found, notes⟩] }
  | ⟨.error e, notes⟩ => { failure := some ⟨e, notes⟩ }

/-- One visit after another; after a failure there is no other. -/
def append (first second : Harvest) : Harvest :=
  if first.failure.isSome then first
  else ⟨first.declarations ++ second.declarations, second.failure⟩

/-- Several visits one after another. -/
def concat (visits : List Harvest) : Harvest := visits.foldr append {}

/-- The facts of the declarations, one list for each. -/
def facts (h : Harvest) : List (List Fact) := h.declarations.map (·.value)

/-- The messages of all members visited. -/
def notes (h : Harvest) : List Diagnostic :=
  h.declarations.flatMap (·.notes) ++ (h.failure.map (·.notes)).getD []

/-- The topics of the declarations, each declaration filed before the next member is visited. -/
def group (settings : Settings) (h : Harvest) : Attempt (List Topic) := do
  let store ← ExceptT.lift <| h.declarations.foldlM (fun store declaration => do
    store.addDeclaration settings (← declaration)) ({} : FactStore)
  -- what was found before the failure has been filed, and its messages stay
  match h.failure with
  | some ⟨e, notes⟩ => ExceptT.mk ⟨.error e, notes⟩
  | none => ExceptT.lift (store.topics settings)

end Harvest

/-- The definitions in force inside an object: those around it, and its own. -/
def definitionsWithin (around : List Json) (fields : List (String × Json)) : List Json :=
  around ++ ((fields.lookup "@context").getD .null).elements

/-- A field found under one of the names of a keyword is smaller than the object it stands in. -/
theorem sizeOf_get? {context : Context} {keyword : String} {fields : List (String × Json)}
    {value : Json} (h : context.get? keyword fields = some value) :
    sizeOf value < sizeOf (Json.object fields) := by
  obtain ⟨found, -⟩ := Option.filter_eq_some_iff.mp h
  -- it stands under one of the names, and is a part of the object like any field
  obtain ⟨name, -, found⟩ := List.exists_of_findSome?_eq_some found
  exact Json.sizeOf_lookup found

/-- The members of a graph under the context in force there. -/
def graphMembers (context : Context) (fields : List (String × Json)) :
    List { member : Json // sizeOf member < sizeOf (Json.object fields) } :=
  match h : context.get? "@graph" fields with
  | none => []
  | some graph => graph.elements.attach.map fun ⟨member, mem⟩ =>
      ⟨member, Nat.lt_of_le_of_lt (Json.sizeOf_elements mem) (sizeOf_get? h)⟩

/-- What a member that holds no graph of its own states, if it is not left out. -/
def visitMember (around : List Json) (context : Context) (fields : List (String × Json)) :
    Harvest :=
  -- a context of the member itself goes on top of those around it
  let own :=
    if (fields.lookup "@context").isSome then Context.load (definitionsWithin around fields)
    else .ok context
  match own with
  | .error e => .failed e
  | .ok context =>
    if (context.get? "@id" fields).isNone then {}
    else
      match isSkippable context fields with
      | .error e => .failed e
      | .ok true => {}
      | .ok false => .single (memberFacts context fields)

/-- The declarations of a document, with the definitions around it in force. -/
def harvest (around : List Json) (document : Json) : Harvest :=
  match document with
  | .object fields =>
    match Context.load (definitionsWithin around fields) with
    | .error e => .failed e
    | .ok context =>
      .concat <| (graphMembers context fields).map fun ⟨member, _⟩ =>
        match member with
        | .object inner =>
          -- a nested graph is visited in its place, anything else is a member
          if (context.get? "@graph" inner).isSome then
            harvest (definitionsWithin around fields) (.object inner)
          else visitMember (definitionsWithin around fields) context inner
        | member => .failed (context.notObject "@graph" member)
  | .array items =>
    match Context.load around with
    | .error e => .failed e
    | .ok context =>
      .concat <| items.attach.map fun ⟨member, _⟩ =>
        match member with
        | .object inner =>
          if (context.get? "@graph" inner).isSome then harvest around (.object inner)
          else visitMember around context inner
        | member => .failed (context.notObject "@graph" member)
  | .text "" => {}
  | .text _ => .failed .memberNotObject
  | _ => .failed .documentNotGraph
termination_by document
decreasing_by
  · assumption
  · have := List.sizeOf_lt_of_mem ‹_›
    simp only [Json.array.sizeOf_spec]
    omega

end OntoTypes.LinkedData
