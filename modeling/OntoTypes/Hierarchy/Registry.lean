import OntoTypes.Fact.Term

/-!
# The class registry

Classes, properties and enumeration members, and how they hang together. Classes refer to one
another by position in a table that only grows: declaring a class under an identifier that is in use
puts a new class in the place of the old one, while classes that referred to the old one still do.
The same holds for properties, which several classes may share.

Main definitions:

* `ClassNode`, `PropertyNode`, `MemberNode` — what is recorded about each;
* `Registry` — the tables, and which class is registered under which identifier;
* `typeName` — the name of the type made for a class.
-/

namespace OntoTypes

/-- A primitive of the target type system that stands in for a data type. -/
structure Primitive where
  name   : String
  /-- The primitive type itself. -/
  target : String
  doc    : String
deriving DecidableEq

/-- A class, by position in the table of classes. -/
abbrev ClassId := Nat

/-- A property, by position in the table of properties. -/
abbrev PropertyId := Nat

/-- A member of an enumeration. -/
structure MemberNode where
  subject : Term
  comment : Option String := none
deriving DecidableEq

/-- A property, as shared by the classes that own it. -/
structure PropertyNode where
  subject      : Term
  description  : Option String := none
  /-- The classes of its values; empty if none is known. -/
  range        : List ClassId := []
  owners       : List ClassId := []
  supersededBy : List Term := []
deriving DecidableEq

/-- A class and what has been found out about it. -/
structure ClassNode where
  subject      : Term
  /-- The primitive that a builtin data type stands for; other classes have none. -/
  primitive    : Option Primitive := none
  description  : Option String := none
  parents      : List ClassId := []
  children     : List ClassId := []
  properties   : List PropertyId := []
  members      : List MemberNode := []
  supersededBy : List ClassId := []
deriving DecidableEq

/-- All classes of a run. -/
structure Registry where
  classes    : Array ClassNode := #[]
  properties : Array PropertyNode := #[]
  /-- The class registered under each identifier, in the order of registration. -/
  index      : List (String × ClassId) := []
  /-- Neither the index nor what is recorded about registered classes can be changed any more. -/
  isFrozen   : Bool := false

namespace MemberNode

/-- The value of a member: the text of its subject. -/
def value (member : MemberNode) : String := member.subject.text

/-- The name of a member inside its enumeration. -/
def name (member : MemberNode) : String := Text.memberName member.subject.readableName

end MemberNode

/-- What a comment says about something superseded. -/
def deprecationNotice (replacements : List String) (verb : String) : String :=
  "@deprecated " ++ verb ++ " " ++ " or ".intercalate replacements ++ " instead."

/-- A description with a notice after it, on a line of its own. -/
def withNotice (description : Option String) (notice : String) : String :=
  match description with
  | none | some "" => notice
  | some text => text ++ "\n" ++ notice

namespace PropertyNode

def isDeprecated (property : PropertyNode) : Bool := !property.supersededBy.isEmpty

/-- The comment on a property, with a notice if the property is superseded. -/
def comment (property : PropertyNode) : Option String :=
  if property.isDeprecated then
    some (withNotice property.description
      (deprecationNotice (property.supersededBy.map Term.readableName) "Consider using"))
  else property.description

end PropertyNode

namespace ClassNode

def isBuiltin (node : ClassNode) : Bool := node.primitive.isSome

def isDeprecated (node : ClassNode) : Bool := !node.supersededBy.isEmpty

/-- A class as diagnostics show it. -/
def display (node : ClassNode) : String :=
  (if node.isBuiltin then "BuiltinNode(" else "ClassNode(") ++ node.subject.text ++ ")"

end ClassNode

/-- The name of the type made for a class. -/
def typeName (subject : Term) : Except Error String :=
  match subject with
  | .iri iri =>
    let name := Text.localName iri
    if name = "" then .error (.namelessClass iri) else .ok (Text.identifier name)
  | _ => .error (.anonymousClass subject.text)

namespace Registry

/-- The class registered under an identifier. -/
def get? (registry : Registry) (identifier : String) : Option ClassId :=
  registry.index.lookup identifier

/-- The registered classes, in the order of registration. -/
def registered (registry : Registry) : List ClassId := registry.index.map Prod.snd

/-- What is recorded about a class. -/
def node? (registry : Registry) (c : ClassId) : Option ClassNode := registry.classes[c]?

/-- What is recorded about some classes. -/
def nodes (registry : Registry) (ids : List ClassId) : List ClassNode :=
  ids.filterMap registry.node?

/-- What is recorded about some properties. -/
def propertyNodes (registry : Registry) (ids : List PropertyId) : List PropertyNode :=
  ids.filterMap (registry.properties[·]?)

/-- The parents of a class. -/
def parents (registry : Registry) (c : ClassId) : List ClassId :=
  ((registry.node? c).map (·.parents)).getD []

/-- Whether a class is a builtin data type. -/
def isBuiltin (registry : Registry) (c : ClassId) : Bool :=
  ((registry.node? c).map (·.isBuiltin)).getD false

/-- The text of the subject of a class. -/
def subjectText (registry : Registry) (c : ClassId) : String :=
  ((registry.node? c).map (·.subject.text)).getD ""

/-- The class that `subject` refers to as `reference`, wanted for `role`. -/
def resolve (registry : Registry) (reference subject role : String) : Except Error ClassId :=
  match registry.get? reference with
  | some c => .ok c
  | none => .error (.unresolvedReference subject reference role)

/-- The registry with one class changed. -/
def modify (registry : Registry) (c : ClassId) (change : ClassNode → ClassNode) : Registry :=
  { registry with classes := registry.classes.modify c change }

/-- Whether a class is frozen. Freezing a registry freezes the classes that are registered; those
that are not, or not any more, can still be changed. -/
def isFrozenClass (registry : Registry) (c : ClassId) : Bool :=
  registry.isFrozen && registry.registered.contains c

/-- The registry with one more class, not registered yet. -/
def pushClass (registry : Registry) (node : ClassNode) : Registry :=
  { registry with classes := registry.classes.push node }

/-- The registry with a class registered under the text of its subject, in the place of any other
class there. -/
def enter (registry : Registry) (c : ClassId) : Registry :=
  { registry with index := Keyed.set (registry.subjectText c) c registry.index }

/-- The registry with one more class, under the text of its subject. -/
def register (registry : Registry) (node : ClassNode) : Registry :=
  { registry with
    classes := registry.classes.push node
    index := Keyed.set node.subject.text registry.classes.size registry.index }

/-- The registry with one more property, not attached to any class. -/
def pushProperty (registry : Registry) (property : PropertyNode) : Registry :=
  { registry with properties := registry.properties.push property }

/-- The registry with one more subclass edge, recorded on both of its ends. -/
def addEdge (registry : Registry) (child parent : ClassId) : Registry :=
  (registry.modify child fun node => { node with parents := node.parents ++ [parent] }).modify
    parent fun node => { node with children := node.children ++ [child] }

end Registry

end OntoTypes
