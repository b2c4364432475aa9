import OntoTypes.Proofs.Linked

/-!
# Outlines of classes

What the declarations of a class are made of, with subjects in place of classes: two hierarchies
that number their classes differently, or meet them in another order, give the same declarations to
classes of the same outline. Children, properties and members stand in an outline as they stand in
the module, sorted; parents, ranges and replacements keep the order in which they were recorded.

Main definitions and results:

* `Outline`, `Outline.declarations` — outlines, and the declarations that they determine;
* `declarationsOf_eq_outline` — the declarations of a class are those of its outline;
* `groups_eq_outlines` — a module is made of the outlines of its classes, sorted.
-/

namespace OntoTypes

/-- What the field for a property is made of. -/
structure PropertyOutline where
  subject      : Term
  description  : Option String
  /-- The subjects of the classes of its values. -/
  range        : List Term
  supersededBy : List Term

/-- What the declarations of a class are made of. -/
structure Outline where
  subject      : Term
  primitive    : Option Primitive
  description  : Option String
  /-- The subjects of the parents, and which of them are builtin data types. -/
  parents      : List (Term × Bool)
  /-- The subjects of the children, in order. -/
  children     : List Term
  isLeaf       : Bool
  /-- The properties, in order. -/
  properties   : List PropertyOutline
  /-- The members, in order. -/
  members      : List MemberNode
  supersededBy : List Term

namespace PropertyOutline

/-- The comment on a property, with a notice if the property is superseded. -/
def comment (property : PropertyOutline) : Option String :=
  if property.supersededBy.isEmpty then property.description
  else
    some (withNotice property.description
      (deprecationNotice (property.supersededBy.map Term.readableName) "Consider using"))

/-- The field for a property. -/
def field (property : PropertyOutline) : Field :=
  .mk property.subject.readableName
    (fieldType property.subject.readableName
      (.unionOf (property.range.map fun subject => .reference (givenName subject))))
    (!isMarker property.subject.readableName) property.comment

end PropertyOutline

/-- The name of the type for a class by itself. -/
def baseNameFor (subject : Term) (isBuiltin : Bool) : String :=
  if isBuiltin then givenName subject else givenName subject ++ "Base"

namespace Outline

/-- The fields of a class's own record. -/
def fields (settings : Settings) (outline : Outline) : List Field :=
  let shown := outline.properties.filter fun property =>
    settings.includeDeprecated || property.supersededBy.isEmpty
  if outline.isLeaf then
    .mk discriminantKey (.literal outline.subject.readableName) false none ::
      shown.map PropertyOutline.field
  else shown.map PropertyOutline.field

/-- The class by itself. -/
def base (settings : Settings) (outline : Outline) : TypeExpr :=
  let inherited := TypeExpr.intersectionOf? (outline.parents.map fun (subject, isBuiltin) =>
    .reference (baseNameFor subject isBuiltin))
  let fields := outline.fields settings
  match inherited, if fields.isEmpty then none else some (TypeExpr.record fields) with
  | some parents, some record => .intersection [parents, record]
  | some parents, none => parents
  | none, some record => record
  | none, none => .never

/-- The class and everything below it, its enumeration aside. -/
def closed (outline : Outline) : TypeExpr :=
  let itself := TypeExpr.reference (baseNameFor outline.subject outline.primitive.isSome)
  if outline.children.isEmpty then itself
  else
    .union (.intersection [.record [.mk discriminantKey (.literal outline.subject.readableName)
        false none], itself] ::
      outline.children.map fun subject => .reference (givenName subject))

/-- A type beside the enumeration of the members of a class, if there are any. -/
def beside (outline : Outline) (shape : TypeExpr) : TypeExpr :=
  if outline.members.isEmpty then shape
  else .union [.reference (givenName outline.subject ++ "Enum"), shape]

/-- The comment on a class. -/
def comment (outline : Outline) : Option String :=
  match outline.primitive with
  | some primitive => some primitive.doc
  | none =>
    if outline.supersededBy.isEmpty then outline.description
    else
      some (withNotice outline.description
        (deprecationNotice (outline.supersededBy.map givenName) "Use"))

/-- The enumeration of the members of a class, if there are any. -/
def enumeration? (outline : Outline) : Option Declaration :=
  if outline.members.isEmpty then none
  else
    some (.enumeration (givenName outline.subject ++ "Enum")
      (outline.members.map fun member => ⟨member.name, member.value, member.comment⟩) none true)

/-- The declarations of a class. -/
def declarations (settings : Settings) (outline : Outline) : List Declaration :=
  outline.enumeration?.toList ++
    match outline.primitive with
    | some primitive =>
      [.typeAlias (givenName outline.subject) (outline.beside (.keyword primitive.target))
        outline.comment true]
    | none =>
      [.typeAlias (givenName outline.subject ++ "Base") (outline.base settings) none false,
       .typeAlias (givenName outline.subject) (outline.beside outline.closed) outline.comment true]

/-- What outlines are listed by. -/
def emissionKey (outline : Outline) : EmissionKey :=
  ⟨outline.primitive.isSome, SubjectKey.of outline.subject⟩

end Outline

namespace Registry

/-- The outline of a property. -/
def propertyOutline (registry : Registry) (property : PropertyNode) : PropertyOutline :=
  { subject := property.subject
    description := property.description
    range := property.range.map registry.subjectOf
    supersededBy := property.supersededBy }

/-- The outline of a class. -/
def outline (registry : Registry) (c : ClassId) : Outline :=
  let node := registry.nodeOf c
  { subject := node.subject
    primitive := node.primitive
    description := node.description
    parents := node.parents.map fun p => (registry.subjectOf p, registry.isBuiltin p)
    children := sortBySubject id (node.children.map registry.subjectOf)
    isLeaf := registry.isLeaf c
    properties := sortBySubject PropertyOutline.subject
      ((registry.propertyNodes node.properties).map registry.propertyOutline)
    members := Text.sortOn Text.SortKey.compare (fun member => Text.SortKey.of member.value)
      node.members
    supersededBy := node.supersededBy.map registry.subjectOf }

variable {registry : Registry} {settings : Settings} {c : ClassId} {node : ClassNode}

/-- The field for a property is that of its outline. -/
theorem fieldOf_eq_outline (property : PropertyNode) :
    registry.fieldOf property = (registry.propertyOutline property).field := by
  have hcomment : property.comment = (registry.propertyOutline property).comment := by
    unfold PropertyNode.comment PropertyOutline.comment PropertyNode.isDeprecated
    cases hs : property.supersededBy.isEmpty <;> simp [propertyOutline, hs]
  rw [fieldOf, PropertyOutline.field, ← hcomment]
  simp [propertyOutline, nameOf, Function.comp_def]

/-- The own fields of a class are those of its outline. -/
theorem ownEntries_map_entryField :
    (registry.ownEntries settings c (registry.nodeOf c)).map registry.entryField =
      (registry.outline c).fields settings := by
  -- an outline sorts what the registry sorts before it selects
  have hshown : (registry.shownProperties settings (registry.nodeOf c)).map registry.fieldOf =
      ((registry.outline c).properties.filter fun property =>
        settings.includeDeprecated || property.supersededBy.isEmpty).map PropertyOutline.field := by
    have hproperties : (registry.outline c).properties =
        (sortBySubject PropertyNode.subject
          (registry.propertyNodes (registry.nodeOf c).properties)).map registry.propertyOutline :=
      sortBySubject_map ..
    rw [hproperties, List.filter_map, List.map_map, shownProperties]
    simp only [PropertyNode.isDeprecated, Bool.not_not, funext fieldOf_eq_outline]
    rfl
  rw [ownEntries, Outline.fields, ← hshown]
  have hsubject : registry.subjectOf c = (registry.outline c).subject :=
    (subject_nodeOf registry c).symm
  have hleaf : registry.isLeaf c = (registry.outline c).isLeaf := rfl
  rw [hleaf]
  split <;> simp [entryField, hsubject]

/-- The base of a class is that of its outline. -/
theorem erase_linkedBase :
    (registry.linkedBase settings c (registry.nodeOf c)).erase registry =
      (registry.outline c).base settings := by
  -- an outline knows the parents by their subjects
  have hinherited : TypeExpr.intersectionOf? ((registry.outline c).parents.map
      fun (subject, isBuiltin) => .reference (baseNameFor subject isBuiltin)) =
        (Shape.intersectionOf? ((registry.nodeOf c).parents.map fun p => .link (.base p))).map
          (Shape.erase registry) := by
    rw [← Shape.intersectionOf?_map_erase, List.map_map, outline, List.map_map]
    rfl
  rw [linkedBase, Outline.base, hinherited, ← ownEntries_map_entryField]
  cases Shape.intersectionOf? ((registry.nodeOf c).parents.map fun p => Shape.link (.base p)) <;>
    cases registry.ownEntries settings c (registry.nodeOf c) <;>
      simp [Shape.erase, Shape.eraseAll, TypeExpr.never]

/-- Whether a class is builtin is on its record. -/
theorem isBuiltin_eq_nodeOf (registry : Registry) (c : ClassId) :
    registry.isBuiltin c = (registry.nodeOf c).primitive.isSome := by
  rw [isBuiltin, nodeOf]
  cases registry.node? c <;> rfl

/-- Sorting empties nothing. -/
theorem isEmpty_sortOn (compareKeys : κ → κ → Ordering) (key : α → κ) (items : List α) :
    (Text.sortOn compareKeys key items).isEmpty = items.isEmpty := by
  have hlength := (Text.sortOn_perm compareKeys key items).length_eq
  cases hsorted : Text.sortOn compareKeys key items <;> cases items <;> simp_all

/-- What a class is closed over is what its outline is closed over. -/
theorem erase_linkedClosed :
    (registry.linkedClosed c (registry.nodeOf c)).erase registry =
      (registry.outline c).closed := by
  -- and the children likewise, already sorted
  have hchildren : (registry.outline c).children =
      (registry.sortedChildren (registry.nodeOf c)).map registry.subjectOf := sortBySubject_map ..
  have hempty : (registry.outline c).children.isEmpty =
      (registry.nodeOf c).children.isEmpty := by
    rw [hchildren, List.isEmpty_map]
    exact isEmpty_sortOn ..
  -- the base is called alike by both
  have hitself : TypeExpr.reference (baseNameFor (registry.outline c).subject
      (registry.outline c).primitive.isSome) =
        (Shape.link (.base c)).erase registry := by
    rw [Shape.erase, linkName, isBuiltin_eq_nodeOf, nameOf, ← subject_nodeOf]
    rfl
  rw [linkedClosed, Outline.closed, hempty, hitself]
  split
  · rfl
  · rw [hchildren]
    simp [Shape.erase, Shape.eraseAll, Shape.eraseAll_eq_map, entryField, linkName, nameOf,
      Function.comp_def, outline, subject_nodeOf]

/-- Members put an enumeration beside a type. -/
theorem beside_eq (shape : TypeExpr) :
    (registry.outline c).beside shape =
      if (registry.nodeOf c).members.isEmpty then shape
      else .union [.reference (registry.linkName (.enumeration c)), shape] := by
  have hempty : (registry.outline c).members.isEmpty = (registry.nodeOf c).members.isEmpty :=
    isEmpty_sortOn ..
  rw [Outline.beside, hempty, linkName, nameOf, ← subject_nodeOf]
  rfl

/-- The type of a class is that of its outline. -/
theorem erase_linkedTotal :
    (registry.linkedTotal c (registry.nodeOf c)).erase registry =
      (registry.outline c).beside (registry.outline c).closed := by
  rw [beside_eq, ← erase_linkedClosed, linkedTotal]
  split
  · rfl
  · rfl

/-- So is the type of a builtin data type. -/
theorem erase_linkedBuiltin (primitive : Primitive) :
    (linkedBuiltin c (registry.nodeOf c) primitive).erase registry =
      (registry.outline c).beside (.keyword primitive.target) := by
  rw [beside_eq, linkedBuiltin]
  split
  · rfl
  · rfl

/-- The comment on a class is that of its outline. -/
theorem commentOf_eq_outline :
    registry.commentOf (registry.nodeOf c) = (registry.outline c).comment := by
  have hprimitive : (registry.outline c).primitive = (registry.nodeOf c).primitive := rfl
  rw [commentOf, Outline.comment, hprimitive, ClassNode.isDeprecated]
  cases (registry.nodeOf c).primitive with
  | some primitive => rfl
  | none =>
    -- what supersedes the class, by name
    have htargets : (registry.outline c).supersededBy.map givenName =
        (registry.nodeOf c).supersededBy.map registry.nameOf := by
      simp [outline, nameOf, Function.comp_def]
    have hempty : (registry.outline c).supersededBy.isEmpty =
        (registry.nodeOf c).supersededBy.isEmpty := List.isEmpty_map ..
    rw [hempty, htargets]
    cases (registry.nodeOf c).supersededBy.isEmpty <;> rfl

/-- Its enumeration is, too. -/
theorem enumerationOf_eq_outline :
    enumerationOf (registry.nodeOf c) = (registry.outline c).enumeration? := by
  have hempty : (registry.outline c).members.isEmpty = (registry.nodeOf c).members.isEmpty :=
    isEmpty_sortOn ..
  rw [enumerationOf, Outline.enumeration?, hempty]
  rfl

/-- The declarations of a class are those of its outline. -/
theorem declarationsOf_eq_outline (h : registry.WellFormed) (hc : c ∈ registry.registered) :
    registry.declarationsOf settings c = (registry.outline c).declarations settings := by
  -- the names are made of the subject
  have hwhole : registry.linkName (.whole c) = givenName (registry.outline c).subject := by
    rw [linkName, nameOf, ← subject_nodeOf]
    rfl
  rw [declarationsOf, h.node?_nodeOf hc]
  dsimp only
  rw [enumerationOf_eq_outline, Outline.declarations, aliasesOf, hwhole, commentOf_eq_outline]
  have hprimitive : (registry.outline c).primitive = (registry.nodeOf c).primitive := rfl
  rw [hprimitive]
  cases hp : (registry.nodeOf c).primitive with
  | some primitive =>
    dsimp only
    rw [erase_linkedBuiltin]
  | none =>
    have hbase : registry.linkName (.base c) =
        givenName (registry.outline c).subject ++ "Base" := by
      rw [linkName, isBuiltin_eq_nodeOf, hp, ← hwhole]
      rfl
    dsimp only
    rw [erase_linkedBase, erase_linkedTotal, hbase]

/-- A module is made of the outlines of its classes, in the order in which they are listed. -/
theorem groups_eq_outlines (h : registry.WellFormed) :
    registry.emissionOrder.map (registry.declarationsOf settings) =
      (Text.sortOn EmissionKey.compare Outline.emissionKey
        (registry.registered.map registry.outline)).map (Outline.declarations settings) := by
  -- an outline is listed by what its class is listed by
  have hkey : ∀ c, (registry.outline c).emissionKey =
      ⟨registry.isBuiltin c, SubjectKey.of (registry.subjectOf c)⟩ := by
    intro c
    rw [isBuiltin_eq_nodeOf, ← subject_nodeOf]
    rfl
  rw [Text.sortOn_map, List.map_map, funext hkey]
  refine List.map_congr_left fun c hc => ?_
  exact declarationsOf_eq_outline h (mem_emissionOrder.mp hc)

end Registry

end OntoTypes
