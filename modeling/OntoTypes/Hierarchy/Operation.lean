import OntoTypes.Hierarchy.Assembly

/-!
# Operations on a registry

The registry as it is worked on from outside, one operation after another, each of which either
succeeds or is refused. Classes are named by their identifiers, or they are held on to: a class can
be worked on before it is registered and after another one has taken its place. What has been
registered under an identifier can be replaced, but not removed.

Main definitions:

* `ClassRef`, `Operation` — what can be asked of a registry;
* `Operation.run` — doing it;
* `runAll` — a sequence of operations, each done whatever became of those before it.
-/

namespace OntoTypes

/-- A class that is to be worked on. -/
inductive ClassRef where
  /-- The class registered under an identifier. -/
  | named (identifier : String)
  /-- A class that is there, whether it is registered or not. -/
  | held (c : ClassId)

instance : Coe String ClassRef := ⟨.named⟩

/-- What can be asked of a registry. -/
inductive Operation where
  /-- Declares the builtin data types under a namespace. -/
  | seed (namespaceIri : String)
  | declare (subject : Term)
  /-- Makes a class, or a builtin data type, without registering it. It is the last one there is. -/
  | create (subject : Term) (primitive : Option Primitive)
  /-- Registers a class that is there. -/
  | declareAgain (reference : ClassRef)
  | link (child parent : ClassRef)
  /-- Makes a value known to a class. -/
  | add (reference : ClassRef) (value : Value)
  /-- Gives a class a property of its own; the property does not count the class as an owner. -/
  | property (owner : ClassRef) (subject : Term) (description : Option String)
      (range : List String)
  /-- Gives a class a property that is there. -/
  | share (owner : ClassRef) (id : PropertyId)
  | member (owner : ClassRef) (subject : Term) (comment : Option String)
  /-- Attaches the property of a topic. -/
  | propertyTopic (topic : Topic)
  /-- Attaches the enumeration member that a topic describes. -/
  | memberTopic (topic : Topic)
  | freeze

/-- What comes back from an operation. -/
inductive Reply where
  | done
  /-- Whether the class had a use for the value. -/
  | claimed (isClaimed : Bool)
  | property (id : PropertyId)
  | member (node : Option MemberNode)

namespace Operation

/-- The class that is referred to. -/
def named : ClassRef → Build ClassId
  | .named identifier => Build.resolve identifier identifier "node"
  | .held c => do
    if c < (← Build.registry).classes.size then return c
    else throw (.unresolvedReference (toString c) (toString c) "node")

/-- Does what is asked for. -/
def run (settings : Settings) : Operation → Build Reply
  | seed namespaceIri => do
    Build.seedBuiltins namespaceIri
    return .done
  | declare subject => do
    Build.apply (·.declare { subject := subject })
    return .done
  | create subject primitive => do
    -- not registered, so that nothing finds it by its identifier yet
    Build.apply fun registry =>
      .ok (registry.pushClass { subject := subject, primitive := primitive })
    return .done
  | declareAgain reference => do
    let c ← named reference
    Build.apply (·.declareAgain c)
    return .done
  | link child parent => do
    let child ← named child
    let parent ← named parent
    Build.apply (·.link child parent)
    return .done
  | add reference value => do
    let c ← named reference
    return .claimed (← Build.addValue settings c value)
  | property owner subject description range => do
    -- the range is resolved before the owner, and the first that is missing is reported
    let range ← range.mapM fun identifier => named (.named identifier)
    let owner ← named owner
    let node : PropertyNode := { subject := subject, description := description, range := range }
    return .property (← Build.addProperty node [owner])
  | share owner id => do
    let owner ← named owner
    Build.apply (·.attachProperty id owner)
    return .done
  | member owner subject comment => do
    let owner ← named owner
    Build.apply (·.attachMember ⟨subject, comment⟩ owner)
    return .done
  | propertyTopic topic => return .property (← Build.resolveProperty settings topic)
  | memberTopic topic => return .member (← Build.resolveMember settings topic)
  | freeze => do
    Build.apply fun registry => .ok registry.freeze
    return .done

/-- The workspace after an operation, whether it was refused or not. -/
def after (w : Workspace) (step : Settings × Operation) : Workspace :=
  match step.2.run step.1 w with
  | .ok _ w' => w'
  | .error _ w' => w'

end Operation

/-- The workspace after some operations, each with settings of its own. -/
def runAll (w : Workspace) (steps : List (Settings × Operation)) : Workspace :=
  steps.foldl Operation.after w

end OntoTypes
