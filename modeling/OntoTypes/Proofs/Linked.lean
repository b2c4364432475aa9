import OntoTypes.Generation
import OntoTypes.Proofs.Sorting
import OntoTypes.Proofs.WellFormed

/-!
# Declarations with links

Declarations refer to one another by name, and names may coincide. To say which declaration a
reference is meant for, this module writes the shapes of classes down with links to classes in place
of names, and with properties in place of their fields. Erasing the links gives back the types that
are emitted, so that whatever is said about linked shapes is said about the module.

In a well-formed hierarchy no name is ever missing. The declarations of a class are therefore plain
functions of what is recorded about it, and synthesis succeeds.

Main definitions and results:

* `Shape`, `Shape.erase` — shapes with links, and the types they stand for;
* `Registry.shapeOf` — what a link leads to;
* `declarations_eq`, `synthesize_eq` — the emitted declarations are erased shapes.
-/

namespace OntoTypes

/-- What a reference in a declaration is meant for. -/
inductive Link where
  /-- The type for the class by itself. -/
  | base (c : ClassId)
  /-- The type for the class and everything below it. -/
  | whole (c : ClassId)
  /-- The enumeration of the members of a class. -/
  | enumeration (c : ClassId)

/-- What a field of a record is for. -/
inductive Entry where
  /-- Telling a class from others. -/
  | discriminant (c : ClassId)
  | property (property : PropertyNode)

/-- A type whose references are links. -/
inductive Shape where
  | link (target : Link)
  | keyword (name : String)
  | record (entries : List Entry)
  | union (members : List Shape)
  | intersection (members : List Shape)

/-- The name of the type made for a subject that can be named. -/
def givenName (subject : Term) : String := Text.identifier subject.readableName

/-- A subject that can be named has its name. -/
theorem typeName_eq_ok {subject : Term} (h : IsNameable subject) :
    typeName subject = .ok (givenName subject) := by
  obtain ⟨iri, rfl, hne⟩ := h
  simp [typeName, hne, givenName, Term.readableName]

/-- The intersection of some shapes: the only one if there is just one; nothing if there is none. -/
def Shape.intersectionOf? : List Shape → Option Shape
  | [] => none
  | [member] => some member
  | members => some (.intersection members)

namespace Registry

/-- The subject of a class. -/
def subjectOf (registry : Registry) (c : ClassId) : Term :=
  ((registry.node? c).map (·.subject)).getD (.iri "")

/-- The name of the type for a class and everything below it. -/
def nameOf (registry : Registry) (c : ClassId) : String := givenName (registry.subjectOf c)

/-- The name that a link is written as. -/
def linkName (registry : Registry) : Link → String
  | .base c => if registry.isBuiltin c then registry.nameOf c else registry.nameOf c ++ "Base"
  | .whole c => registry.nameOf c
  | .enumeration c => registry.nameOf c ++ "Enum"

/-- The field for a property. -/
def fieldOf (registry : Registry) (property : PropertyNode) : Field :=
  .mk property.subject.readableName
    (fieldType property.subject.readableName
      (.unionOf (property.range.map fun c => .reference (registry.nameOf c))))
    (!isMarker property.subject.readableName) property.comment

/-- The field that an entry is written as. -/
def entryField (registry : Registry) : Entry → Field
  | .discriminant c =>
    .mk discriminantKey (.literal (registry.subjectOf c).readableName) false none
  | .property property => registry.fieldOf property

end Registry

mutual

/-- The type that a shape is written as. -/
def Shape.erase (registry : Registry) : Shape → TypeExpr
  | .link target => .reference (registry.linkName target)
  | .keyword name => .keyword name
  | .record entries => .record (entries.map registry.entryField)
  | .union members => .union (eraseAll registry members)
  | .intersection members => .intersection (eraseAll registry members)

/-- The types that some shapes are written as. -/
def Shape.eraseAll (registry : Registry) : List Shape → List TypeExpr
  | [] => []
  | shape :: shapes => shape.erase registry :: eraseAll registry shapes

end

/-- The recursion over shapes, as a list operation. -/
theorem Shape.eraseAll_eq_map (registry : Registry) (shapes : List Shape) :
    eraseAll registry shapes = shapes.map (erase registry) := by
  induction shapes with
  | nil => rfl
  | cons shape shapes ih => rw [eraseAll, ih, List.map_cons]

/-- Links may be erased before or after shapes are intersected. -/
theorem Shape.intersectionOf?_map_erase (registry : Registry) (shapes : List Shape) :
    TypeExpr.intersectionOf? (shapes.map (erase registry)) =
      (intersectionOf? shapes).map (erase registry) := by
  cases shapes with
  | nil => rfl
  | cons shape shapes =>
    cases shapes with
    | nil => rfl
    | cons other shapes =>
      simp [TypeExpr.intersectionOf?, intersectionOf?, erase, eraseAll_eq_map]

namespace Registry

/-! ## Shapes of classes -/

/-- The record of the own fields of a class, by what they are for. -/
def ownEntries (registry : Registry) (settings : Settings) (c : ClassId) (node : ClassNode) :
    List Entry :=
  let properties := (registry.shownProperties settings node).map Entry.property
  if registry.isLeaf c then .discriminant c :: properties else properties

/-- The bases of the parents of a class, intersected with the record of its own fields. -/
def linkedBase (registry : Registry) (settings : Settings) (c : ClassId) (node : ClassNode) :
    Shape :=
  let inherited := Shape.intersectionOf? (node.parents.map fun p => .link (.base p))
  let entries := registry.ownEntries settings c node
  match inherited, if entries.isEmpty then none else some (Shape.record entries) with
  | some parents, some record => .intersection [parents, record]
  | some parents, none => parents
  | none, some record => record
  | none, none => .keyword "never"

/-- The children of a class in the order of their subjects. -/
def sortedChildren (registry : Registry) (node : ClassNode) : List ClassId :=
  sortBySubject registry.subjectOf node.children

/-- A class and everything below it, its enumeration aside. -/
def linkedClosed (registry : Registry) (c : ClassId) (node : ClassNode) : Shape :=
  if node.children.isEmpty then .link (.base c)
  else
    .union (.intersection [.record [.discriminant c], .link (.base c)] ::
      (registry.sortedChildren node).map fun d => .link (.whole d))

/-- A class and everything below it. -/
def linkedTotal (registry : Registry) (c : ClassId) (node : ClassNode) : Shape :=
  if node.members.isEmpty then registry.linkedClosed c node
  else .union [.link (.enumeration c), registry.linkedClosed c node]

/-- A builtin data type: its primitive, beside the members of an enumeration typed as one. -/
def linkedBuiltin (c : ClassId) (node : ClassNode) (primitive : Primitive) : Shape :=
  if node.members.isEmpty then .keyword primitive.target
  else .union [.link (.enumeration c), .keyword primitive.target]

/-- What a link leads to, if it leads to an alias. -/
def shapeOf (registry : Registry) (settings : Settings) : Link → Option Shape
  | .base c => (registry.node? c).map fun node =>
    match node.primitive with
    | some primitive => linkedBuiltin c node primitive
    | none => registry.linkedBase settings c node
  | .whole c => (registry.node? c).map fun node =>
    match node.primitive with
    | some primitive => linkedBuiltin c node primitive
    | none => registry.linkedTotal c node
  | .enumeration _ => none

/-! ## Declarations of classes -/

/-- The comment on a class. -/
def commentOf (registry : Registry) (node : ClassNode) : Option String :=
  match node.primitive with
  | some primitive => some primitive.doc
  | none =>
    if node.isDeprecated then
      some (withNotice node.description
        (deprecationNotice (node.supersededBy.map registry.nameOf) "Use"))
    else node.description

/-- The enumeration of a class's members, if it has any. -/
def enumerationOf (node : ClassNode) : Option Declaration :=
  if node.members.isEmpty then none
  else
    let sorted := Text.sortOn Text.SortKey.compare (fun member => Text.SortKey.of member.value)
      node.members
    some (.enumeration (givenName node.subject ++ "Enum")
      (sorted.map fun member => ⟨member.name, member.value, member.comment⟩) none true)

/-- The aliases for what is recorded about a class. -/
def aliasesOf (registry : Registry) (settings : Settings) (c : ClassId) (node : ClassNode) :
    List Declaration :=
  match node.primitive with
  | some primitive =>
    [.typeAlias (registry.linkName (.whole c)) ((linkedBuiltin c node primitive).erase registry)
      (registry.commentOf node) true]
  | none =>
    [.typeAlias (registry.linkName (.base c))
      ((registry.linkedBase settings c node).erase registry) none false,
     .typeAlias (registry.linkName (.whole c)) ((registry.linkedTotal c node).erase registry)
      (registry.commentOf node) true]

/-- The declarations for a class. -/
def declarationsOf (registry : Registry) (settings : Settings) (c : ClassId) :
    List Declaration :=
  match registry.node? c with
  | none => []
  | some node => (enumerationOf node).toList ++ registry.aliasesOf settings c node

/-! ## What is emitted -/

/-- Steps that all succeed succeed together. -/
theorem mapM_eq_ok {f : α → Except Error β} {g : α → β} {items : List α}
    (hf : ∀ a ∈ items, f a = .ok (g a)) : items.mapM f = .ok (items.map g) := by
  induction items with
  | nil => rfl
  | cons a items ih =>
    obtain ⟨ha, hrest⟩ := List.forall_mem_cons.mp hf
    rw [List.mapM_cons, ha, ih hrest]
    rfl

/-- What is recorded about a class; the class itself is given by its position. -/
def nodeOf (registry : Registry) (c : ClassId) : ClassNode :=
  (registry.node? c).getD { subject := .iri "" }

/-- A class has one subject, registered or not. -/
theorem subject_nodeOf (registry : Registry) (c : ClassId) :
    (registry.nodeOf c).subject = registry.subjectOf c := by
  rw [nodeOf, subjectOf]
  cases registry.node? c <;> rfl

/-- The subject of a class is on its record. -/
theorem subjectOf_eq {registry : Registry} {c : ClassId} {node : ClassNode}
    (hnode : registry.node? c = some node) : registry.subjectOf c = node.subject := by
  rw [subjectOf, hnode]
  rfl

variable {registry : Registry} {settings : Settings} {c : ClassId} {node : ClassNode}

/-- The record of a class, where there is one. -/
theorem nodeOf_eq (hnode : registry.node? c = some node) : registry.nodeOf c = node := by
  rw [nodeOf, hnode]
  rfl

/-- A class with a primitive is a builtin data type. -/
theorem isBuiltin_of_primitive (hnode : registry.node? c = some node) {primitive : Primitive}
    (hprimitive : node.primitive = some primitive) : registry.isBuiltin c = true := by
  rw [isBuiltin_of_node? hnode, ClassNode.isBuiltin, hprimitive]
  rfl

/-- The field that tells a class from others holds the name of its subject. -/
theorem discriminant_eq (hnode : registry.node? c = some node) :
    node.discriminant = registry.entryField (.discriminant c) := by
  rw [ClassNode.discriminant, entryField, subjectOf_eq hnode]

/-- Sorting what is recorded about classes is sorting classes. -/
theorem sortBySubject_map_nodeOf (ids : List ClassId) :
    sortBySubject ClassNode.subject (ids.map registry.nodeOf) =
      (sortBySubject registry.subjectOf ids).map registry.nodeOf := by
  rw [sortBySubject_map, funext (subject_nodeOf registry)]

/-- The classes that are listed are the registered ones. -/
theorem mem_emissionOrder {d : ClassId} :
    d ∈ registry.emissionOrder ↔ d ∈ registry.registered :=
  (Text.sortOn_perm ..).mem_iff

/-- Properties of a class that are shown are recorded. -/
theorem shown_recorded {property : PropertyNode}
    (hp : property ∈ registry.shownProperties settings node) : property ∈ registry.properties := by
  have hmem := List.mem_of_mem_filter hp
  rw [sortBySubject, (Text.sortOn_perm ..).mem_iff, propertyNodes, List.mem_filterMap] at hmem
  obtain ⟨id, -, hid⟩ := hmem
  exact Array.mem_of_getElem? hid

namespace WellFormed

variable (h : registry.WellFormed)
include h

/-- Of a registered class there is a record. -/
theorem node?_nodeOf (hc : c ∈ registry.registered) :
    registry.node? c = some (registry.nodeOf c) := by
  obtain ⟨node, hnode, -⟩ := h.named c hc
  rw [nodeOf, hnode]
  rfl

/-- A registered class can be named. -/
theorem isNameable_nodeOf (hc : c ∈ registry.registered) :
    IsNameable (registry.nodeOf c).subject := by
  obtain ⟨node, hnode, hn, -⟩ := h.named c hc
  rwa [nodeOf, hnode]

/-- So its name is found without a failure. -/
theorem typeName_nodeOf (hc : c ∈ registry.registered) :
    typeName (registry.nodeOf c).subject = .ok (registry.nameOf c) := by
  rw [typeName_eq_ok (h.isNameable_nodeOf hc), nameOf, subject_nodeOf]

/-- And so is that of its base. -/
theorem baseName_nodeOf (hc : c ∈ registry.registered) :
    (registry.nodeOf c).baseName = .ok (registry.linkName (.base c)) := by
  rw [ClassNode.baseName, h.typeName_nodeOf hc, linkName, isBuiltin_of_node? (h.node?_nodeOf hc)]
  rfl

/-- The name of a class is what a link to its type is written as. -/
theorem typeName_eq (hc : c ∈ registry.registered) (hnode : registry.node? c = some node) :
    typeName node.subject = .ok (registry.linkName (.whole c)) := by
  rw [← nodeOf_eq hnode]
  exact h.typeName_nodeOf hc

/-- The name of its base is what a link to the base is written as. -/
theorem baseName_eq (hc : c ∈ registry.registered) (hnode : registry.node? c = some node) :
    node.baseName = .ok (registry.linkName (.base c)) := by
  rw [← nodeOf_eq hnode]
  exact h.baseName_nodeOf hc

/-- All classes that something refers to are there. -/
theorem nodes_eq_map {ids : List ClassId} (hids : ∀ c ∈ ids, c ∈ registry.registered) :
    registry.nodes ids = ids.map registry.nodeOf := by
  rw [nodes, ← List.filterMap_eq_map]
  apply List.filterMap_congr
  intro c hc
  exact h.node?_nodeOf (hids c hc)

/-- References to classes are written by their names. -/
theorem typeReferences_eq {ids : List ClassId} (hids : ∀ c ∈ ids, c ∈ registry.registered) :
    typeReferences (ids.map registry.nodeOf) =
      .ok (ids.map fun c => .reference (registry.linkName (.whole c))) := by
  rw [typeReferences, List.mapM_map]
  refine mapM_eq_ok fun c hc => ?_
  rw [Function.comp_apply, h.typeName_nodeOf (hids c hc)]
  rfl

/-- The field for a property that is on record is made without a failure. -/
theorem propertyField_eq {property : PropertyNode} (hp : property ∈ registry.properties) :
    registry.propertyField property = .ok (registry.fieldOf property) := by
  have hrange := h.range property hp
  rw [propertyField, h.nodes_eq_map hrange, h.typeReferences_eq hrange]
  rfl

/-- So are all the own fields of a class. -/
theorem ownFields_eq (hnode : registry.node? c = some node) :
    registry.ownFields settings c node =
      .ok ((registry.ownEntries settings c node).map registry.entryField) := by
  -- what is shown is on record
  have hfields : (registry.shownProperties settings node).mapM registry.propertyField =
      .ok ((registry.shownProperties settings node).map registry.fieldOf) :=
    mapM_eq_ok fun property hp => h.propertyField_eq (shown_recorded hp)
  rw [ownFields, hfields, ownEntries]
  change Except.ok _ = _
  split
  · simp [discriminant_eq hnode, entryField]
  · simp [entryField]

/-- The base of a class is its linked base without the links. -/
theorem baseShape_eq (hnode : registry.node? c = some node) :
    registry.baseShape settings c node =
      .ok ((registry.linkedBase settings c node).erase registry) := by
  -- parents are registered, so their names are found
  have hparents : ∀ p ∈ node.parents, p ∈ registry.registered := by
    intro p hp
    rw [← parents_of_node? hnode] at hp
    exact (h.edge c p hp).2
  have hnames : (registry.nodes node.parents).mapM ClassNode.baseName =
      .ok (node.parents.map fun p => registry.linkName (.base p)) := by
    rw [h.nodes_eq_map hparents, List.mapM_map]
    exact mapM_eq_ok fun p hp => h.baseName_nodeOf (hparents p hp)
  -- and intersecting names is intersecting links
  have hinherited : TypeExpr.intersectionOf?
      ((node.parents.map fun p => registry.linkName (.base p)).map TypeExpr.reference) =
        (Shape.intersectionOf? (node.parents.map fun p => .link (.base p))).map
          (Shape.erase registry) := by
    rw [← Shape.intersectionOf?_map_erase, List.map_map, List.map_map]
    rfl
  rw [baseShape, hnames, h.ownFields_eq hnode, linkedBase]
  -- no step that is left can fail
  change Except.ok _ = _
  rw [hinherited]
  cases Shape.intersectionOf? (node.parents.map fun p => Shape.link (.base p)) <;>
    cases registry.ownEntries settings c node <;> simp [Shape.erase, Shape.eraseAll, TypeExpr.never]

/-- What a class is closed over is the linked shape without the links. -/
theorem closedShape_eq (hc : c ∈ registry.registered) (hnode : registry.node? c = some node) :
    registry.closedShape node = .ok ((registry.linkedClosed c node).erase registry) := by
  -- children are registered, too
  have hchildren : ∀ d ∈ node.children, d ∈ registry.registered := by
    intro d hd
    rw [← children_of_node? hnode, h.mem_children_iff] at hd
    exact (h.edge d c hd).1
  -- children are sorted after they are looked up, which is the same as before
  have hsorted : ∀ d ∈ registry.sortedChildren node, d ∈ registry.registered := by
    intro d hd
    exact hchildren d ((Text.sortOn_perm ..).mem_iff.mp hd)
  -- so a reference to each of them is found
  have hrefs : typeReferences (sortBySubject ClassNode.subject (registry.nodes node.children)) =
      .ok ((registry.sortedChildren node).map fun d =>
        .reference (registry.linkName (.whole d))) := by
    rw [h.nodes_eq_map hchildren, sortBySubject_map_nodeOf]
    exact h.typeReferences_eq hsorted
  rw [closedShape, h.baseName_eq hc hnode, linkedClosed]
  dsimp only
  rw [hrefs]
  change (if _ then _ else _) = _
  split
  · rfl
  · simp [Shape.erase, Shape.eraseAll, Shape.eraseAll_eq_map, discriminant_eq hnode,
      Function.comp_def]

/-- The name of an enumeration is what a link to it is written as. -/
theorem enumName_eq (hc : c ∈ registry.registered) (hnode : registry.node? c = some node) :
    node.enumName = .ok (registry.linkName (.enumeration c)) := by
  rw [ClassNode.enumName, h.typeName_eq hc hnode]
  rfl

/-- The type of a class is its linked shape without the links. -/
theorem totalShape_eq (hc : c ∈ registry.registered) (hnode : registry.node? c = some node) :
    registry.totalShape node = .ok ((registry.linkedTotal c node).erase registry) := by
  rw [totalShape, h.closedShape_eq hc hnode, h.enumName_eq hc hnode, linkedTotal]
  change (if _ then _ else _) = _
  split
  · rfl
  · rfl

/-- The comment on a class names the classes that supersede it, which are registered. -/
theorem comment_eq (hc : c ∈ registry.registered) (hnode : registry.node? c = some node) :
    registry.comment node = .ok (registry.commentOf node) := by
  -- what supersedes a registered class is registered
  have hnames : (registry.nodes node.supersededBy).mapM (fun target => typeName target.subject) =
      .ok (node.supersededBy.map registry.nameOf) := by
    have htargets := h.superseding c hc node hnode
    rw [h.nodes_eq_map htargets, List.mapM_map]
    exact mapM_eq_ok fun d hd => h.typeName_nodeOf (htargets d hd)
  rw [comment, commentOf]
  cases node.primitive with
  | some primitive => rfl
  | none =>
    dsimp only
    split
    · rw [hnames]
      rfl
    · rfl

/-- A builtin data type has one alias, whether it is taken by itself or with what is below it. -/
theorem builtinAlias_eq (hc : c ∈ registry.registered) (hnode : registry.node? c = some node)
    {primitive : Primitive} (hprimitive : node.primitive = some primitive) :
    builtinAlias node primitive (enumerationOf node) =
      .ok (.typeAlias (registry.linkName (.whole c))
        ((linkedBuiltin c node primitive).erase registry) (some primitive.doc) true) := by
  -- a data type is called the same by itself
  have hname : node.baseName = .ok (registry.linkName (.whole c)) := by
    rw [h.baseName_eq hc hnode, linkName, linkName,
      if_pos (isBuiltin_of_primitive hnode hprimitive)]
  unfold builtinAlias enumerationOf linkedBuiltin
  rw [hname, ← subjectOf_eq hnode]
  by_cases hmembers : node.members.isEmpty = true
  · rw [if_pos hmembers, if_pos hmembers]
    rfl
  · rw [if_neg hmembers, if_neg hmembers]
    rfl

/-- The declarations of a class are its linked shapes without the links. -/
theorem declarations_eq (hc : c ∈ registry.registered) :
    registry.declarations settings c = .ok (registry.declarationsOf settings c) := by
  obtain ⟨node, hnode, -⟩ := h.named c hc
  -- the enumeration needs a name only if there are members
  have henum : node.enumeration? = .ok (enumerationOf node) := by
    rw [ClassNode.enumeration?, h.enumName_eq hc hnode, enumerationOf, ← subjectOf_eq hnode]
    split
    · rfl
    · rfl
  rw [declarations, declarationsOf, hnode]
  dsimp only
  rw [nodeDeclarations, henum, aliasesOf, commentOf]
  -- builtin data types have one alias, all other classes two
  cases hprimitive : node.primitive with
  | some primitive =>
    dsimp only
    change (do let declaration ← builtinAlias node primitive (enumerationOf node); _) = _
    rw [h.builtinAlias_eq hc hnode hprimitive]
    rfl
  | none =>
    rw [h.baseShape_eq hnode, h.totalShape_eq hc hnode, h.comment_eq hc hnode,
      h.typeName_eq hc hnode, h.baseName_eq hc hnode, commentOf, hprimitive]
    rfl

/-- **A well-formed hierarchy has a module**: the declarations of its classes, in order. -/
theorem synthesize_eq (settings : Settings) :
    registry.synthesize settings =
      .ok (registry.emissionOrder.map (registry.declarationsOf settings)) :=
  mapM_eq_ok fun _ hc => h.declarations_eq (mem_emissionOrder.mp hc)

end WellFormed

end Registry

/-! ## What is generated -/

/-- What is generated for some topics, if they are admissible. -/
def generation (settings : Settings) (topics : List Topic) : Generation :=
  { groups := (hierarchy settings topics).emissionOrder.map
      ((hierarchy settings topics).declarationsOf settings)
    statistics := Statistics.ofRegistry (hierarchy settings topics) }

/-- The declarations of a module are those of the registered classes. -/
theorem mem_flatten_groups_iff {settings : Settings} {topics : List Topic}
    {declaration : Declaration} :
    declaration ∈ (generation settings topics).groups.flatten ↔
      ∃ c ∈ (hierarchy settings topics).registered,
        declaration ∈ (hierarchy settings topics).declarationsOf settings c := by
  rw [generation, ← List.flatMap_def, List.mem_flatMap]
  simp only [Registry.mem_emissionOrder]

/-- The hierarchy of some topics comes about exactly if they are admissible. -/
theorem outcome_registryOf_eq_ok_iff {settings : Settings} {topics : List Topic}
    {registry : Registry} :
    (registryOf settings topics).outcome = .ok registry ↔
      Admissible settings topics ∧ registry = hierarchy settings topics := by
  rw [outcome_registryOf, Registry.ofTopics_eq_ok_iff]

/-- The module for some topics comes about exactly if they are admissible, and then it is
`generation`. What is proved of modules starts from here: the hierarchy is well-formed, and no later
step can fail. -/
theorem outcome_generate_eq_ok_iff {settings : Settings} {topics : List Topic} {g : Generation} :
    (generate settings topics).outcome = .ok g ↔
      Admissible settings topics ∧ g = generation settings topics := by
  -- the messages aside, a run is the hierarchy and then the module
  have hbind : (generate settings topics).outcome =
      (registryOf settings topics).outcome.bind fun registry =>
        (registry.synthesize settings).bind fun groups =>
          .ok ⟨groups, Statistics.ofRegistry registry⟩ := by
    simp only [generate, Attempt.outcome_bind, Attempt.outcome_ofExcept, Attempt.outcome_pure]
  rw [hbind, bind_eq_ok_iff]
  constructor
  · -- once there is a hierarchy it is well-formed, and then it has a module
    rintro ⟨registry, hregistry, hg⟩
    obtain ⟨hadmissible, rfl⟩ := outcome_registryOf_eq_ok_iff.mp hregistry
    rw [(Registry.wellFormed_hierarchy hadmissible).synthesize_eq] at hg
    exact ⟨hadmissible, (Except.ok.inj hg).symm⟩
  · rintro ⟨hadmissible, rfl⟩
    refine ⟨_, outcome_registryOf_eq_ok_iff.mpr ⟨hadmissible, rfl⟩, ?_⟩
    rw [(Registry.wellFormed_hierarchy hadmissible).synthesize_eq]
    rfl

/-- **When a module is generated.** Building the hierarchy of some topics succeeds exactly if the
topics are admissible, and so does generating and writing their module: nothing that comes after the
hierarchy can fail.

`Admissible` is about identifiers and types only: what is referred to is declared, names can be made
of subjects, and no class is above itself. The functions that make shapes and comments may fail too,
but only over a class that cannot be named, and in the hierarchy of admissible topics there is none.
-/
theorem succeeds_iff_admissible (settings : Settings) (topics : List Topic) :
    ((∃ registry, (registryOf settings topics).outcome = .ok registry) ↔
      Admissible settings topics) ∧
    ((∃ text, (generate settings topics).outcome.map Generation.render = .ok text) ↔
      Admissible settings topics) := by
  constructor
  · simp [outcome_registryOf_eq_ok_iff]
  · constructor
    · -- a text was written, so there was a module
      rintro ⟨text, htext⟩
      cases hg : (generate settings topics).outcome with
      | error e =>
        rw [hg] at htext
        cases htext
      | ok g => exact (outcome_generate_eq_ok_iff.mp hg).1
    · intro h
      rw [outcome_generate_eq_ok_iff.mpr ⟨h, rfl⟩]
      exact ⟨_, rfl⟩

end OntoTypes
