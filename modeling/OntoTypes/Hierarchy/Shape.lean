import OntoTypes.Declaration.Type
import OntoTypes.Hierarchy.Ancestry
import OntoTypes.Settings
import OntoTypes.Text.Case

/-!
# Shapes of classes

The declarations that a class is given. A class `C` has up to three:

* `CEnum` — the enumeration of its members, if it has any;
* `CBase` — the class by itself: a record of its own properties, intersected with the bases of its
  parents;
* `C` — the class with everything below it: a closed union over the class and the types of its
  children. Its alternatives are told apart by a field `@type` that holds the name of the class an
  alternative comes from.

The distinguishing field is part of the base of a leaf, and for any other class it is added where
the class stands beside its children. Classes above which there is a builtin data type have none. A
builtin data type is an alias for its primitive.

Main definitions:

* `Registry.emissionOrder` — the order in which classes are listed;
* `Registry.declarations` — the declarations of a class;
* `Registry.synthesize` — those of all registered classes.
-/

namespace OntoTypes

/-! ## Order -/

/-- What subjects are listed by: their names, then their identifiers. -/
structure SubjectKey where
  name       : Text.SortKey
  identifier : Text.SortKey

namespace SubjectKey

/-- The key of a subject. -/
def of (subject : Term) : SubjectKey := ⟨.of subject.readableName, .of subject.text⟩

def compare (a b : SubjectKey) : Ordering :=
  (a.name.compare b.name).then (a.identifier.compare b.identifier)

end SubjectKey

/-- Some items in the order of their subjects. -/
def sortBySubject (subject : α → Term) (items : List α) : List α :=
  Text.sortOn SubjectKey.compare (fun item => SubjectKey.of (subject item)) items

/-- What classes are listed by: builtin data types first, then by subject. -/
structure EmissionKey where
  isBuiltin : Bool
  subject   : SubjectKey

/-- Emission keys put builtin data types before all other classes. -/
def EmissionKey.compare (a b : EmissionKey) : Ordering :=
  match a.isBuiltin, b.isBuiltin with
  | true, false => .lt
  | false, true => .gt
  | _, _ => a.subject.compare b.subject

/-! ## Names -/

/-- The key of the field that tells the alternatives of a union apart. -/
def discriminantKey : String := "@type"

namespace ClassNode

/-- The name of the type for the class by itself. -/
def baseName (node : ClassNode) : Except Error String := do
  let name ← typeName node.subject
  return if node.isBuiltin then name else name ++ "Base"

/-- The name of the enumeration of a class's members. -/
def enumName (node : ClassNode) : Except Error String := do
  return (← typeName node.subject) ++ "Enum"

/-- The field that tells a class from others. -/
def discriminant (node : ClassNode) : Field :=
  .mk discriminantKey (.literal node.subject.readableName) false none

/-- The enumeration of a class's members, if it has any. -/
def enumeration? (node : ClassNode) : Except Error (Option Declaration) := do
  if node.members.isEmpty then return none
  else
    let name ← node.enumName
    let sorted := Text.sortOn Text.SortKey.compare (fun member => Text.SortKey.of member.value)
      node.members
    let members := sorted.map fun member => ⟨member.name, member.value, member.comment⟩
    return some (.enumeration name members none true)

end ClassNode

/-! ## Fields -/

/-- Keys of the notation itself, whose fields have a single value. -/
def isMarker (key : String) : Bool := "@".toList.isPrefixOf key.toList

/-- The type of a field: one value or several, unless the key is a marker. -/
def fieldType (key : String) (scalar : TypeExpr) : TypeExpr :=
  if isMarker key then scalar else .union [scalar, .array scalar]

namespace Registry

/-- What is recorded about the registered classes, in the order of registration. -/
def registeredNodes (registry : Registry) : List ClassNode := registry.nodes registry.registered

/-- The registered classes in the order in which they are listed. -/
def emissionOrder (registry : Registry) : List ClassId :=
  Text.sortOn EmissionKey.compare
    (fun c => ⟨registry.isBuiltin c,
      SubjectKey.of (((registry.node? c).map (·.subject)).getD (.iri ""))⟩)
    registry.registered

/-- References to the types of some classes. -/
def typeReferences (nodes : List ClassNode) : Except Error (List TypeExpr) :=
  nodes.mapM fun node => do return .reference (← typeName node.subject)

/-- The field for a property. -/
def propertyField (registry : Registry) (property : PropertyNode) : Except Error Field := do
  let name := property.subject.readableName
  let scalar := TypeExpr.unionOf (← typeReferences (registry.nodes property.range))
  return .mk name (fieldType name scalar) (!isMarker name) property.comment

/-- The properties of a class that are given a field, in the order of their subjects. -/
def shownProperties (registry : Registry) (settings : Settings) (node : ClassNode) :
    List PropertyNode :=
  (sortBySubject PropertyNode.subject (registry.propertyNodes node.properties)).filter
    fun property => settings.includeDeprecated || !property.isDeprecated

/-- The fields of a class's own record: the distinguishing one, if the class is a leaf, then those
for its properties. -/
def ownFields (registry : Registry) (settings : Settings) (c : ClassId) (node : ClassNode) :
    Except Error (List Field) := do
  let fields ← (registry.shownProperties settings node).mapM registry.propertyField
  return if registry.isLeaf c then node.discriminant :: fields else fields

/-! ## Shapes -/

/-- The bases of the parents of a class, intersected with the record of its own fields. -/
def baseShape (registry : Registry) (settings : Settings) (c : ClassId) (node : ClassNode) :
    Except Error TypeExpr := do
  let names ← (registry.nodes node.parents).mapM ClassNode.baseName
  let inherited := TypeExpr.intersectionOf? (names.map TypeExpr.reference)
  let fields ← registry.ownFields settings c node
  let own := if fields.isEmpty then none else some (TypeExpr.record fields)
  -- a half that is empty is left out; without either half there is nothing to describe
  return match inherited, own with
    | some parents, some record => .intersection [parents, record]
    | some parents, none => parents
    | none, some record => record
    | none, none => .never

/-- A class and everything below it, its enumeration aside. -/
def closedShape (registry : Registry) (node : ClassNode) : Except Error TypeExpr := do
  let base := TypeExpr.reference (← node.baseName)
  if node.children.isEmpty then return base
  else
    let children := sortBySubject ClassNode.subject (registry.nodes node.children)
    -- the class itself is one alternative, told apart from those of its children
    let itself := TypeExpr.intersection [.record [node.discriminant], base]
    return .union (itself :: (← typeReferences children))

/-- A class and everything below it. -/
def totalShape (registry : Registry) (node : ClassNode) : Except Error TypeExpr := do
  let shape ← registry.closedShape node
  if node.members.isEmpty then return shape
  else return .union [.reference (← node.enumName), shape]

/-- The comment on a class: for a builtin data type the one of the catalogue, for any other its own,
with a notice if the class is superseded. -/
def comment (registry : Registry) (node : ClassNode) : Except Error (Option String) :=
  match node.primitive with
  | some primitive => .ok (some primitive.doc)
  | none =>
    if node.isDeprecated then do
      let names ← (registry.nodes node.supersededBy).mapM fun target => typeName target.subject
      return some (withNotice node.description (deprecationNotice names "Use"))
    else .ok node.description

/-! ## Declarations -/

/-- The alias for a builtin data type. Members of an enumeration that is typed as one widen it. -/
def builtinAlias (node : ClassNode) (primitive : Primitive) (enumeration : Option Declaration) :
    Except Error Declaration := do
  let keyword := TypeExpr.keyword primitive.target
  -- without members the alias is the bare primitive
  let value :=
    match enumeration with
    | none => keyword
    | some declaration => .union [.reference declaration.name, keyword]
  return .typeAlias (← node.baseName) value (some primitive.doc) true

/-- The declarations for what is recorded about a class. -/
def nodeDeclarations (registry : Registry) (settings : Settings) (c : ClassId) (node : ClassNode) :
    Except Error (List Declaration) := do
  let enumeration ← node.enumeration?
  match node.primitive with
  -- a builtin data type has an alias only, and no base of its own
  | some primitive => return enumeration.toList ++ [← builtinAlias node primitive enumeration]
  | none =>
    let baseName ← node.baseName
    let base := Declaration.typeAlias baseName (← registry.baseShape settings c node) none false
    let name ← typeName node.subject
    let total ← registry.totalShape node
    return enumeration.toList ++ [base, .typeAlias name total (← registry.comment node) true]

/-- The declarations for a class. -/
def declarations (registry : Registry) (settings : Settings) (c : ClassId) :
    Except Error (List Declaration) :=
  match registry.node? c with
  | some node => registry.nodeDeclarations settings c node
  | none => .ok []

/-- The declarations for all registered classes, in the order in which classes are listed. -/
def synthesize (registry : Registry) (settings : Settings) :
    Except Error (List (List Declaration)) :=
  registry.emissionOrder.mapM (registry.declarations settings)

end Registry

end OntoTypes
