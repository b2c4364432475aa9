import OntoTypes.Proofs.Linked

/-!
# Expanding the types of classes

A public type is a union over a class and everything below it, spread over many declarations. This
module follows the links: the base of a class is expanded by following the links to bases, which go
up, and the alternatives of a public type are collected by following the links to the public types
of children, which go down. Both end because the graph is acyclic.

What makes the alternatives tell themselves apart is that every parent has a child. A class with
children adds its distinguishing field beside its base and not in it, and hence no base that is
inherited carries a second one.

Main definitions and results:

* `Registry.Expands`, `Registry.Unfolds` — expansion of bases, and the alternatives of a type;
* `Shape.joined`, `WellFormed.exists_expands_base_of` — what a base is made of, and how something is
  proved of all expansions;
* `TypeExpr.discriminants` — the distinguishing fields of a type, at any depth;
* `Generation.Resolves` — what links lead to is declared;
* `publicType_exhaustive` — the alternatives of a public type and their distinguishing fields.
-/

namespace OntoTypes

/-- The text by which a field tells an alternative from others, if it holds nothing but one. -/
def discriminantText (key : String) : TypeExpr → List String
  | .literal text => if key = discriminantKey then [text] else []
  | _ => []

mutual

/-- The texts of the distinguishing fields in a type, at any depth. -/
def TypeExpr.discriminants : TypeExpr → List String
  | .reference _ | .keyword _ | .literal _ => []
  | .array element => element.discriminants
  | .union members => memberDiscriminants members
  | .intersection members => memberDiscriminants members
  | .record fields => fieldDiscriminants fields

/-- The texts of the distinguishing fields in some types. -/
def memberDiscriminants : List TypeExpr → List String
  | [] => []
  | member :: members => member.discriminants ++ memberDiscriminants members

/-- The texts of the distinguishing fields among some fields and inside them. -/
def fieldDiscriminants : List Field → List String
  | [] => []
  | field :: fields => field.discriminants ++ fieldDiscriminants fields

/-- The text of a distinguishing field, and those inside the field. -/
def Field.discriminants : Field → List String
  | .mk key value _ _ => discriminantText key value ++ value.discriminants

end

/-- Shapes that are an alternative of their own in a union. -/
def Shape.isAlternative : Shape → Bool
  | .union _ | .link (.whole _) | .link (.enumeration _) => false
  | _ => true

namespace Registry

/-- Expanding the links to bases, in some shapes one after another. -/
inductive Expands (registry : Registry) (settings : Settings) : List Shape → List Shape → Prop where
  | nil : Expands registry settings [] []
  | base {c : ClassId} {shape : Shape} {rest expanded : List Shape}
      (leads : registry.shapeOf settings (.base c) = some shape)
      (more : Expands registry settings (shape :: rest) expanded) :
      Expands registry settings (.link (.base c) :: rest) expanded
  | enumeration {c : ClassId} {rest expanded : List Shape}
      (more : Expands registry settings rest expanded) :
      Expands registry settings (.link (.enumeration c) :: rest)
        (.link (.enumeration c) :: expanded)
  | keyword {name : String} {rest expanded : List Shape}
      (more : Expands registry settings rest expanded) :
      Expands registry settings (.keyword name :: rest) (.keyword name :: expanded)
  | record {entries : List Entry} {rest expanded : List Shape}
      (more : Expands registry settings rest expanded) :
      Expands registry settings (.record entries :: rest) (.record entries :: expanded)
  | union {members inner rest expanded : List Shape}
      (inside : Expands registry settings members inner)
      (more : Expands registry settings rest expanded) :
      Expands registry settings (.union members :: rest) (.union inner :: expanded)
  | intersection {members inner rest expanded : List Shape}
      (inside : Expands registry settings members inner)
      (more : Expands registry settings rest expanded) :
      Expands registry settings (.intersection members :: rest) (.intersection inner :: expanded)

/-- Collecting the alternatives of some shapes that stand in the type of the class `c`: what is
below it comes from other classes, enumerations aside, and everything else is an alternative that
comes from `c`, with the links to bases expanded. -/
inductive Unfolds (registry : Registry) (settings : Settings) :
    ClassId → List Shape → List (ClassId × Shape) → Prop where
  | nil {c : ClassId} : Unfolds registry settings c [] []
  | whole {c d : ClassId} {shape : Shape} {rest : List Shape} {below more : List (ClassId × Shape)}
      (leads : registry.shapeOf settings (.whole d) = some shape)
      (down : Unfolds registry settings d [shape] below)
      (along : Unfolds registry settings c rest more) :
      Unfolds registry settings c (.link (.whole d) :: rest) (below ++ more)
  | enumeration {c d : ClassId} {rest : List Shape} {more : List (ClassId × Shape)}
      (along : Unfolds registry settings c rest more) :
      Unfolds registry settings c (.link (.enumeration d) :: rest) more
  | union {c : ClassId} {members rest : List Shape} {inside more : List (ClassId × Shape)}
      (down : Unfolds registry settings c members inside)
      (along : Unfolds registry settings c rest more) :
      Unfolds registry settings c (.union members :: rest) (inside ++ more)
  | alternative {c : ClassId} {shape expanded : Shape} {rest : List Shape}
      {more : List (ClassId × Shape)} (alone : shape.isAlternative = true)
      (up : Expands registry settings [shape] [expanded])
      (along : Unfolds registry settings c rest more) :
      Unfolds registry settings c (shape :: rest) ((c, expanded) :: more)

variable {registry : Registry} {settings : Settings}

/-! ## Expansion is a function -/

/-- Shapes are expanded one after another, so two rows of them can be put together. -/
theorem Expands.append {shapes others expanded expanded' : List Shape}
    (h : registry.Expands settings shapes expanded)
    (h' : registry.Expands settings others expanded') :
    registry.Expands settings (shapes ++ others) (expanded ++ expanded') := by
  induction h with
  | nil => exact h'
  | base leads _ ih => exact .base leads ih
  | enumeration _ ih => exact .enumeration ih
  | keyword _ ih => exact .keyword ih
  | record _ ih => exact .record ih
  | union inside _ _ ih => exact .union inside ih
  | intersection inside _ _ ih => exact .intersection inside ih

/-- There is at most one expansion. -/
theorem Expands.unique {shapes expanded expanded' : List Shape}
    (h : registry.Expands settings shapes expanded)
    (h' : registry.Expands settings shapes expanded') : expanded = expanded' := by
  -- the first shape decides which rule applies
  induction h generalizing expanded' with
  | nil => cases h'; rfl
  | base leads _ ih =>
    cases h' with
    | base leads' more' =>
      rw [leads] at leads'
      cases leads'
      exact ih more'
  | enumeration _ ih => cases h' with | enumeration more' => rw [ih more']
  | keyword _ ih => cases h' with | keyword more' => rw [ih more']
  | record _ ih => cases h' with | record more' => rw [ih more']
  | union _ _ ihi ih => cases h' with | union inside' more' => rw [ihi inside', ih more']
  | intersection _ _ ihi ih =>
    cases h' with | intersection inside' more' => rw [ihi inside', ih more']

/-- There is at most one way to collect alternatives. -/
theorem Unfolds.unique {c : ClassId} {shapes : List Shape} {found found' : List (ClassId × Shape)}
    (h : registry.Unfolds settings c shapes found)
    (h' : registry.Unfolds settings c shapes found') : found = found' := by
  -- the first shape decides which rule applies
  induction h generalizing found' with
  | nil => cases h'; rfl
  | whole leads _ _ ihd iha =>
    cases h' with
    | whole leads' down' along' =>
      rw [leads] at leads'
      cases leads'
      rw [ihd down', iha along']
    | alternative alone => cases alone
  | enumeration _ ih =>
    cases h' with
    | enumeration along' => exact ih along'
    | alternative alone => cases alone
  | union _ _ ihd iha =>
    cases h' with
    | union down' along' => rw [ihd down', iha along']
    | alternative alone => cases alone
  | alternative alone up _ ih =>
    cases h' with
    | alternative _ up' along' =>
      cases Expands.unique up up'
      rw [ih along']
    | _ => cases alone

/-- Each shape has one expansion. -/
theorem Expands.length_eq {shapes expanded : List Shape}
    (h : registry.Expands settings shapes expanded) : shapes.length = expanded.length := by
  induction h with
  | nil => rfl
  | base _ _ ih => exact ih
  | enumeration _ ih => exact congrArg Nat.succ ih
  | keyword _ ih => exact congrArg Nat.succ ih
  | record _ ih => exact congrArg Nat.succ ih
  | union _ _ _ ih => exact congrArg Nat.succ ih
  | intersection _ _ _ ih => exact congrArg Nat.succ ih

end Registry

/-! ## What is inherited and what is own -/

/-- What is inherited, intersected with the record of the own entries; either may be missing. -/
def Shape.joined (inherited : List Shape) (entries : List Entry) : Shape :=
  match intersectionOf? inherited, if entries.isEmpty then none else some (.record entries) with
  | some parents, some own => .intersection [parents, own]
  | some parents, none => parents
  | none, some own => own
  | none, none => .keyword "never"

/-- What is read off the members of an intersection one by one, and off neither `never` nor an empty
record, is read off what is inherited and the own record one by one. -/
theorem Shape.flatMap_joined {read : Shape → List α} (never : read (.keyword "never") = [])
    (empty : read (.record []) = [])
    (intersection : ∀ members, read (.intersection members) = members.flatMap read)
    (inherited : List Shape) (entries : List Entry) :
    read (joined inherited entries) = inherited.flatMap read ++ read (.record entries) := by
  -- the six forms in which a base is written
  match inherited, entries with
  | [], [] => exact never.trans empty.symm
  | [], _ :: _ => rfl
  | [shape], [] => simp [joined, intersectionOf?, empty]
  | [shape], _ :: _ => simp [joined, intersectionOf?, intersection]
  | _ :: _ :: _, [] => simp [joined, intersectionOf?, intersection, empty]
  | _ :: _ :: _, _ :: _ => simp [joined, intersectionOf?, intersection]

namespace Registry

variable {registry : Registry} {settings : Settings}

/-- The base of a class joins what it inherits and what it adds. -/
theorem linkedBase_eq_joined (registry : Registry) (settings : Settings) (c : ClassId)
    (node : ClassNode) : registry.linkedBase settings c node =
      .joined (node.parents.map fun p => .link (.base p)) (registry.ownEntries settings c node) :=
  rfl

/-- What is inherited is expanded in its place. -/
theorem Expands.joined {shapes expanded : List Shape}
    (h : registry.Expands settings shapes expanded) (entries : List Entry) :
    registry.Expands settings [.joined shapes entries] [.joined expanded entries] := by
  -- which form it takes depends on how many shapes there are, and expanding does not change that
  match shapes, expanded, entries, h, h.length_eq with
  | [], [], [], _, _ => exact .keyword .nil
  | [], [], _ :: _, _, _ => exact .record .nil
  | [_], [_], [], h, _ => exact h
  | [_], [_], _ :: _, h, _ => exact .intersection (h.append (.record .nil)) .nil
  | _ :: _ :: _, _ :: _ :: _, [], h, _ => exact .intersection h .nil
  | _ :: _ :: _, _ :: _ :: _, _ :: _, h, _ =>
    exact .intersection (.intersection h (.record .nil)) .nil

/-- A builtin data type refers to no base. -/
theorem expands_linkedBuiltin (c : ClassId) (node : ClassNode) (primitive : Primitive) :
    registry.Expands settings [linkedBuiltin c node primitive]
      [linkedBuiltin c node primitive] := by
  unfold linkedBuiltin
  split
  · exact .keyword .nil
  · exact .union (.enumeration (.keyword .nil)) .nil

/-! ## Distinguishing fields of shapes -/

end Registry

/-- The texts of the distinguishing fields in a shape. -/
def Shape.discriminants (registry : Registry) (shape : Shape) : List String :=
  (shape.erase registry).discriminants

/-- The recursion over members, as a list operation. -/
theorem memberDiscriminants_eq_flatMap (members : List TypeExpr) :
    memberDiscriminants members = members.flatMap TypeExpr.discriminants := by
  induction members with
  | nil => rfl
  | cons member members ih => rw [memberDiscriminants, ih, List.flatMap_cons]

/-- The recursion over fields, likewise. -/
theorem fieldDiscriminants_eq_flatMap (fields : List Field) :
    fieldDiscriminants fields = fields.flatMap Field.discriminants := by
  induction fields with
  | nil => rfl
  | cons field fields ih => rw [fieldDiscriminants, ih, List.flatMap_cons]

namespace Registry

variable {registry : Registry} {settings : Settings}

/-- An intersection has the distinguishing fields of its members. -/
theorem discriminants_intersection (members : List Shape) :
    (Shape.intersection members).discriminants registry =
      members.flatMap (Shape.discriminants registry) := by
  rw [Shape.discriminants, Shape.erase, TypeExpr.discriminants, memberDiscriminants_eq_flatMap,
    Shape.eraseAll_eq_map, List.flatMap_map]
  rfl

/-- A union has those of its members, too. -/
theorem discriminants_union (members : List Shape) :
    (Shape.union members).discriminants registry =
      members.flatMap (Shape.discriminants registry) := by
  rw [Shape.discriminants, Shape.erase, TypeExpr.discriminants, memberDiscriminants_eq_flatMap,
    Shape.eraseAll_eq_map, List.flatMap_map]
  rfl

/-- A class is told from others by what tells apart what it inherits, and by its own record. -/
theorem discriminants_joined (inherited : List Shape) (entries : List Entry) :
    (Shape.joined inherited entries).discriminants registry =
      inherited.flatMap (Shape.discriminants registry) ++
        (Shape.record entries).discriminants registry :=
  Shape.flatMap_joined rfl rfl discriminants_intersection inherited entries

/-- The field for a property never tells a class from others, whatever the property is called. -/
theorem discriminants_fieldOf (property : PropertyNode) :
    (registry.fieldOf property).discriminants = [] := by
  -- the type of a field is made of names, and a name is no literal
  have hscalar : ∀ (ids : List ClassId) (key : String),
      (TypeExpr.unionOf (ids.map fun c => .reference (registry.nameOf c))).discriminants = [] ∧
      discriminantText key
        (TypeExpr.unionOf (ids.map fun c => .reference (registry.nameOf c))) = [] := by
    intro ids key
    match ids with
    | [] => exact ⟨rfl, rfl⟩
    | [_] => exact ⟨rfl, rfl⟩
    | c :: d :: ids =>
      refine ⟨?_, rfl⟩
      simp [TypeExpr.unionOf, TypeExpr.discriminants, memberDiscriminants_eq_flatMap]
  obtain ⟨hdeep, htext⟩ := hscalar property.range property.subject.readableName
  rw [fieldOf, Field.discriminants, fieldType]
  by_cases hm : isMarker property.subject.readableName = true
  · rw [if_pos hm, hdeep, htext, List.append_nil]
  · rw [if_neg hm]
    simp [discriminantText, TypeExpr.discriminants, memberDiscriminants, hdeep]

/-- The field that is made to tell a class from others does. -/
theorem discriminants_entryField (c : ClassId) :
    (registry.entryField (.discriminant c)).discriminants =
      [(registry.subjectOf c).readableName] := by
  simp [entryField, Field.discriminants, discriminantText, TypeExpr.discriminants]

/-- What tells no class from others tells the class apart that marks it. -/
theorem discriminants_marked (c : ClassId) {shape : Shape}
    (hshape : shape.discriminants registry = []) :
    (Shape.intersection [.record [.discriminant c], shape]).discriminants registry =
      [(registry.subjectOf c).readableName] := by
  have hmark : (Shape.record [.discriminant c]).discriminants registry =
      [(registry.subjectOf c).readableName] := by
    rw [Shape.discriminants, Shape.erase, TypeExpr.discriminants, fieldDiscriminants_eq_flatMap,
      List.map_singleton, List.flatMap_singleton, discriminants_entryField]
  rw [discriminants_intersection, List.flatMap_cons, List.flatMap_cons, hmark, hshape]
  rfl

/-- The own record of a class tells it from others exactly if it is a leaf. -/
theorem discriminants_ownEntries (c : ClassId) (node : ClassNode) :
    (Shape.record (registry.ownEntries settings c node)).discriminants registry =
      if registry.isLeaf c then [(registry.subjectOf c).readableName] else [] := by
  -- so only the field for the class itself can tell it from others
  have hproperties : ((registry.shownProperties settings node).map Entry.property).flatMap
      (fun entry => (registry.entryField entry).discriminants) = [] := by
    rw [List.flatMap_eq_nil_iff]
    intro entry hentry
    obtain ⟨property, -, rfl⟩ := List.mem_map.mp hentry
    exact discriminants_fieldOf property
  rw [Shape.discriminants, Shape.erase, TypeExpr.discriminants, fieldDiscriminants_eq_flatMap,
    List.flatMap_map, ownEntries]
  split
  · rw [List.flatMap_cons, hproperties, discriminants_entryField, List.append_nil]
  · exact hproperties

/-! ## Expanding bases -/

/-- A class that is no builtin data type, nor below one. -/
def IsFree (registry : Registry) (c : ClassId) : Prop :=
  registry.isBuiltin c = false ∧ ∀ a, registry.HasAncestor c a → registry.isBuiltin a = false

/-- What is above a class that is free of data types is free of them. -/
theorem IsFree.parent {c p : ClassId} (hfree : registry.IsFree c)
    (hp : registry.HasParent c p) : registry.IsFree p :=
  ⟨hfree.2 p (.single hp), fun a ha => hfree.2 a (.head hp ha)⟩

/-- A class that is not builtin has no primitive on record. -/
theorem primitive_eq_none_of_node? {c : ClassId} {node : ClassNode}
    (hnode : registry.node? c = some node) (hb : registry.isBuiltin c = false) :
    node.primitive = none := by
  rwa [isBuiltin_of_node? hnode, ClassNode.isBuiltin, Option.isSome_eq_false_iff,
    Option.isNone_iff_eq_none] at hb

/-- The public type of such a class. -/
theorem shapeOf_whole_of_node? {c : ClassId} {node : ClassNode}
    (hnode : registry.node? c = some node) (hb : registry.isBuiltin c = false) :
    registry.shapeOf settings (.whole c) = some (registry.linkedTotal c node) := by
  rw [shapeOf, hnode, Option.map_some, primitive_eq_none_of_node? hnode hb]

/-- The bases of some classes are expanded one by one. -/
theorem expands_links {parents : List ClassId} {expansion : ClassId → Shape}
    (hparents : ∀ p ∈ parents, registry.Expands settings [.link (.base p)] [expansion p]) :
    registry.Expands settings (parents.map fun p => .link (.base p)) (parents.map expansion) := by
  induction parents with
  | nil => exact .nil
  | cons p parents ih =>
    obtain ⟨hp, hrest⟩ := List.forall_mem_cons.mp hparents
    exact hp.append (ih hrest)

/-- Some alternatives that come from the classes in `origins`, each class at least once, and are
told apart by the names of the classes they come from. -/
structure Distinguishes (registry : Registry) (origins : ClassId → Prop)
    (found : List (ClassId × Shape)) : Prop where
  origin : ∀ d, (∃ e, (d, e) ∈ found) ↔ origins d
  discriminants : ∀ d e, (d, e) ∈ found →
    e.discriminants registry = [(registry.subjectOf d).readableName]

/-- The alternatives of some public types, given those of each. -/
theorem exists_unfolds_links {c : ClassId} {below : List ClassId}
    {origins : ClassId → ClassId → Prop}
    (hbelow : ∀ b ∈ below, ∃ shape found, registry.shapeOf settings (.whole b) = some shape ∧
      registry.Unfolds settings b [shape] found ∧ registry.Distinguishes (origins b) found) :
    ∃ found, registry.Unfolds settings c (below.map fun b => .link (.whole b)) found ∧
      registry.Distinguishes (fun d => ∃ b ∈ below, origins b d) found := by
  induction below with
  | nil => exact ⟨[], .nil, by simp, by simp⟩
  | cons b below ih =>
    obtain ⟨⟨shape, inner, hleads, hdown, hinner⟩, hrest⟩ := List.forall_mem_cons.mp hbelow
    -- the alternatives of the first one, and then those of the others
    obtain ⟨more, halong, hmore⟩ := ih hrest
    refine ⟨inner ++ more, .whole hleads hdown halong, fun d => ?_, fun d e hmem => ?_⟩
    · simp only [List.mem_append, exists_or, hinner.origin, hmore.origin, List.mem_cons,
        or_and_right, exists_eq_left]
    · rcases List.mem_append.mp hmem with hmem | hmem
      · exact hinner.discriminants d e hmem
      · exact hmore.discriminants d e hmem

namespace WellFormed

variable (h : registry.WellFormed)
include h

/-- A class is told from others by the local name of its subject. -/
theorem readableName_subjectOf {c : ClassId} (hc : c ∈ registry.registered) :
    (registry.subjectOf c).readableName = Text.localName (registry.subjectText c) := by
  obtain ⟨node, hnode, hnamed, -⟩ := h.named c hc
  rw [subjectOf_eq hnode, subjectText, hnode, hnamed.eq_iri]
  rfl

/-- A class that something inherits from is no leaf. -/
theorem isLeaf_of_hasParent {c p : ClassId} (hp : registry.HasParent c p) :
    registry.isLeaf p = false := by
  have hmem : c ∈ registry.children p := h.mem_children_iff.mpr hp
  have hne : (registry.children p).isEmpty = false := by
    rw [List.isEmpty_eq_false_iff]
    exact List.ne_nil_of_mem hmem
  rw [isLeaf_eq, hne, Bool.false_and]

/-- Builtin data types have nothing above them. -/
theorem isBuiltin_of_hasAncestor {c a : ClassId} (ha : registry.HasAncestor c a) :
    registry.isBuiltin c = false := by
  rw [← Bool.not_eq_true]
  intro hbuiltin
  obtain ⟨p, hp, -⟩ := Relation.TransGen.head'_iff.mp ha
  rw [HasParent, h.builtin c hbuiltin] at hp
  cases hp

/-- What is below a builtin data type is no leaf. -/
theorem isLeaf_of_belowBuiltin {c b : ClassId} (hb : registry.HasAncestor c b)
    (hbuiltin : registry.isBuiltin b = true) : registry.isLeaf c = false := by
  rw [isLeaf_eq, (aliasesBuiltin_iff h.parentsInRange h.acyclic).mpr ⟨b, hb, hbuiltin⟩,
    Bool.not_true, Bool.and_false]

/-- A class that is free of builtin data types and has no children is a leaf. -/
theorem isLeaf_of_isEmpty_children {c : ClassId} (hfree : registry.IsFree c)
    (hempty : registry.children c = []) : registry.isLeaf c = true := by
  have haliases : registry.aliasesBuiltin c = false := by
    rw [← Bool.not_eq_true, aliasesBuiltin_iff h.parentsInRange h.acyclic]
    rintro ⟨b, hcb, hb⟩
    rw [hfree.2 b hcb] at hb
    cases hb
  rw [isLeaf_eq, hempty, haliases]
  rfl

/-- **Bases can be expanded**, and what holds of the expansions is proved upwards: it has to hold of
builtin data types, and of the own entries of a class joined with the expansions it inherits. -/
theorem exists_expands_base_of {P : ClassId → Shape → Prop}
    (builtin : ∀ c node primitive, registry.node? c = some node →
      node.primitive = some primitive → P c (linkedBuiltin c node primitive))
    (joined : ∀ c node (expansion : ClassId → Shape), registry.node? c = some node →
      node.primitive = none → (∀ p ∈ node.parents, P p (expansion p)) →
        P c (.joined (node.parents.map expansion) (registry.ownEntries settings c node)))
    (c : ClassId) (hc : c ∈ registry.registered) :
    ∃ e, registry.Expands settings [.link (.base c)] [e] ∧ P c e := by
  -- induction from the top of the hierarchy down, where the expansions of the parents are there
  -- already
  induction c using induction_up h.parentsInRange h.acyclic with | step c ih
  obtain ⟨node, hnode, -⟩ := h.named c hc
  cases hprimitive : node.primitive with
  | some primitive =>
    have hleads : registry.shapeOf settings (.base c) = some (linkedBuiltin c node primitive) := by
      rw [shapeOf, hnode, Option.map_some, hprimitive]
    exact ⟨_, .base hleads (expands_linkedBuiltin c node primitive),
      builtin c node primitive hnode hprimitive⟩
  | none =>
    have hleads : registry.shapeOf settings (.base c) =
        some (registry.linkedBase settings c node) := by
      rw [shapeOf, hnode, Option.map_some, hprimitive]
    -- parents are registered, and so they have records
    have hparents : ∀ p ∈ node.parents,
        ∃ e, registry.Expands settings [.link (.base p)] [e] ∧ P p e := by
      intro p hp
      rw [← parents_of_node? hnode] at hp
      exact ih p hp (h.edge c p hp).2
    have : Nonempty Shape := ⟨.keyword "never"⟩
    -- one expansion for each parent
    choose! expansion hexpansion hholds using hparents
    have hexpands := (expands_links hexpansion).joined (registry.ownEntries settings c node)
    exact ⟨_, .base hleads hexpands, joined c node expansion hnode hprimitive hholds⟩

/-- Without builtin data types above a class, only what is inherited has to be joined. -/
theorem exists_expands_base_of_isFree {P : ClassId → Shape → Prop}
    (joined : ∀ c node (expansion : ClassId → Shape), registry.node? c = some node →
      (∀ p ∈ node.parents, P p (expansion p)) →
        P c (.joined (node.parents.map expansion) (registry.ownEntries settings c node)))
    (c : ClassId) (hc : c ∈ registry.registered) (hfree : registry.IsFree c) :
    ∃ e, registry.Expands settings [.link (.base c)] [e] ∧ P c e := by
  -- what is above a free class is free, so the property may ask for that
  suffices hall : ∃ e, registry.Expands settings [.link (.base c)] [e] ∧
      (registry.IsFree c → P c e) by
    obtain ⟨e, he, hholds⟩ := hall
    exact ⟨e, he, hholds hfree⟩
  refine h.exists_expands_base_of (P := fun c e => registry.IsFree c → P c e) ?_ ?_ c hc
  · intro c node primitive hnode hprimitive hfree
    -- a free class is no data type
    have hbuiltin := isBuiltin_of_primitive hnode hprimitive
    rw [hfree.1] at hbuiltin
    cases hbuiltin
  · intro c node expansion hnode _ hparents hfree
    refine joined c node expansion hnode fun p hp => hparents p hp (hfree.parent ?_)
    rwa [HasParent, parents_of_node? hnode]

/-- The base of a class that is free of builtin data types has an expansion, which tells the class
from others exactly if the class is a leaf. -/
theorem exists_expands_base (c : ClassId) (hc : c ∈ registry.registered)
    (hfree : registry.IsFree c) :
    ∃ e, registry.Expands settings [.link (.base c)] [e] ∧
      e.discriminants registry =
        if registry.isLeaf c then [(registry.subjectOf c).readableName] else [] := by
  refine h.exists_expands_base_of_isFree (P := fun c e => e.discriminants registry =
    if registry.isLeaf c then [(registry.subjectOf c).readableName] else []) ?_ c hc hfree
  intro c node expansion hnode hparents
  -- no parent is a leaf, hence none contributes a distinguishing field
  have hnone : (node.parents.map expansion).flatMap (Shape.discriminants registry) = [] := by
    rw [List.flatMap_map, List.flatMap_eq_nil_iff]
    intro p hp
    have hparent : registry.HasParent c p := by rwa [HasParent, parents_of_node? hnode]
    rw [hparents p hp, h.isLeaf_of_hasParent hparent]
    rfl
  rw [discriminants_joined, hnone, List.nil_append, discriminants_ownEntries]

/-! ## Collecting alternatives -/

/-- A class is above the classes below its children, and above its children. -/
theorem hasAncestor_iff_child {c d : ClassId} :
    registry.HasAncestor d c ↔
      ∃ child ∈ registry.children c, d = child ∨ registry.HasAncestor d child := by
  unfold HasAncestor
  rw [Relation.TransGen.tail'_iff]
  constructor
  · -- the last step to the class is made by one of its children
    rintro ⟨child, hd, hchild⟩
    refine ⟨child, h.mem_children_iff.mpr hchild, ?_⟩
    rcases Relation.reflTransGen_iff_eq_or_transGen.mp hd with rfl | hd
    · exact Or.inl rfl
    · exact Or.inr hd
  · rintro ⟨child, hchild, hd⟩
    refine ⟨child, ?_, h.mem_children_iff.mp hchild⟩
    rcases hd with rfl | hd
    · exact .refl
    · exact hd.to_reflTransGen

/-- The alternatives of the public type of a class below which nothing has to do with builtin data
types: they come from the class and what is below it, and each of them is told apart by the name of
the class it comes from. -/
theorem exists_unfolds_whole (c : ClassId) (hc : c ∈ registry.registered)
    (hfree : ∀ d, d = c ∨ registry.HasAncestor d c → registry.IsFree d) :
    ∃ shape found, registry.shapeOf settings (.whole c) = some shape ∧
      registry.Unfolds settings c [shape] found ∧
      registry.Distinguishes (fun d => d = c ∨ registry.HasAncestor d c) found := by
  -- induction from the bottom of the hierarchy up, where the types of the children have been
  -- unfolded
  induction c using induction_down h.acyclic with | step c ih
  obtain ⟨node, hnode, -⟩ := h.named c hc
  have hself : registry.IsFree c := hfree c (Or.inl rfl)
  obtain ⟨e, he, hd⟩ : ∃ e, registry.Expands settings [.link (.base c)] [e] ∧ _ :=
    h.exists_expands_base c hc hself
  suffices hclosed : ∃ found, registry.Unfolds settings c [registry.linkedClosed c node] found ∧
      registry.Distinguishes (fun d => d = c ∨ registry.HasAncestor d c) found by
    -- an enumeration beside the rest adds no alternative
    obtain ⟨found, hunfolds, hfound⟩ := hclosed
    refine ⟨_, found, shapeOf_whole_of_node? hnode hself.1, ?_, hfound⟩
    unfold linkedTotal
    split
    · exact hunfolds
    · exact List.append_nil found ▸ .union (.enumeration hunfolds) .nil
  have hchildren : registry.children c = node.children := children_of_node? hnode
  unfold linkedClosed
  by_cases hempty : node.children.isEmpty = true
  · -- a leaf is its own and only alternative
    have hnone : registry.children c = [] := hchildren.trans (List.isEmpty_iff.mp hempty)
    rw [h.isLeaf_of_isEmpty_children hself hnone, if_pos rfl] at hd
    refine ⟨[(c, e)], ?_, fun d => ?_, ?_⟩
    · rw [if_pos hempty]
      exact .alternative rfl he .nil
    · rw [h.hasAncestor_iff_child, hnone]
      simp
    · rintro d e' hmem
      obtain ⟨rfl, rfl⟩ := Prod.mk.inj (List.mem_singleton.mp hmem)
      exact hd
  · -- a class with children stands beside them, its own alternative marked there
    obtain ⟨child, hchild⟩ := List.exists_mem_of_ne_nil _ (mt List.isEmpty_iff.mpr hempty)
    have hleaf : registry.isLeaf c = false :=
      h.isLeaf_of_hasParent (h.mem_children_iff.mp (hchildren ▸ hchild))
    rw [hleaf, if_neg Bool.false_ne_true] at hd
    -- children are listed in another order
    have hsorted : ∀ d, d ∈ registry.sortedChildren node ↔ d ∈ registry.children c := by
      intro d
      rw [hchildren]
      exact (Text.sortOn_perm ..).mem_iff
    -- what is below a child is below the class, and free as well
    have hbelow : ∀ b ∈ registry.sortedChildren node, ∃ shape found,
        registry.shapeOf settings (.whole b) = some shape ∧
          registry.Unfolds settings b [shape] found ∧
            registry.Distinguishes (fun d => d = b ∨ registry.HasAncestor d b) found := by
      intro b hb
      have hparent : registry.HasParent b c := h.mem_children_iff.mp ((hsorted b).mp hb)
      refine ih b hparent (h.edge b c hparent).1 fun d hdb => hfree d (Or.inr ?_)
      exact h.hasAncestor_iff_child.mpr ⟨b, (hsorted b).mp hb, hdb⟩
    obtain ⟨more, halong, hmore⟩ := exists_unfolds_links (c := c) hbelow
    let itself : Shape := .intersection [.record [.discriminant c], e]
    have hitself : registry.Expands settings
        [.intersection [.record [.discriminant c], .link (.base c)]] [itself] :=
      .intersection (.record he) .nil
    -- the class comes first, and then what its children contribute
    refine ⟨(c, itself) :: more, ?_, fun d => ?_, ?_⟩
    · rw [if_neg hempty]
      exact List.append_nil ((c, itself) :: more) ▸ .union (.alternative rfl hitself halong) .nil
    · rw [h.hasAncestor_iff_child]
      simp only [List.mem_cons, Prod.mk.injEq, exists_or, hmore.origin, hsorted,
        exists_and_left, exists_eq, and_true]
    · rintro d e' hmem
      rcases List.mem_cons.mp hmem with heq | hmem
      · obtain ⟨rfl, rfl⟩ := Prod.mk.inj heq
        exact discriminants_marked d hd
      · exact hmore.discriminants d e' hmem

end WellFormed

end Registry

/-! ## The module of some topics -/

/-- The class whose declarations a link leads to. -/
def Link.owner : Link → ClassId
  | .base c | .whole c | .enumeration c => c

namespace Registry

variable {registry : Registry} {settings : Settings}

/-- What a link leads to is declared, under the name that the link is written as. -/
theorem exists_mem_declarationsOf {target : Link} {shape : Shape}
    (hleads : registry.shapeOf settings target = some shape) :
    ∃ comment isExported, .typeAlias (registry.linkName target) (shape.erase registry) comment
      isExported ∈ registry.declarationsOf settings target.owner := by
  cases target with
  | base c =>
    obtain ⟨node, hnode, rfl⟩ := Option.map_eq_some_iff.mp hleads
    rw [Link.owner, declarationsOf, hnode]
    -- a builtin data type has one alias, which both links lead to
    cases hprimitive : node.primitive with
    | some primitive =>
      have hname : registry.linkName (.base c) = registry.linkName (.whole c) := by
        rw [linkName, linkName, if_pos (isBuiltin_of_primitive hnode hprimitive)]
      exact ⟨registry.commentOf node, true, by simp [aliasesOf, hprimitive, hname]⟩
    | none => exact ⟨none, false, by simp [aliasesOf, hprimitive]⟩
  | whole c =>
    obtain ⟨node, hnode, rfl⟩ := Option.map_eq_some_iff.mp hleads
    rw [Link.owner, declarationsOf, hnode]
    cases hprimitive : node.primitive with
    | some primitive => exact ⟨registry.commentOf node, true, by simp [aliasesOf, hprimitive]⟩
    | none => exact ⟨registry.commentOf node, true, by simp [aliasesOf, hprimitive]⟩
  | enumeration c => cases hleads

end Registry

/-- What links lead to is declared in a module: under the name that the link is written as, among
the declarations of the class that it leads to. -/
def Generation.Resolves (g : Generation) (registry : Registry) (settings : Settings) : Prop :=
  ∀ target shape, registry.shapeOf settings target = some shape →
    target.owner ∈ registry.registered → ∃ group ∈ g.groups,
      registry.declarations settings target.owner = .ok group ∧ ∃ comment isExported,
        .typeAlias (registry.linkName target) (shape.erase registry) comment isExported ∈ group

/-- The declarations of a registered class are a group of the module. -/
theorem declarationsOf_mem_groups {settings : Settings} {topics : List Topic} {c : ClassId}
    (hc : c ∈ (hierarchy settings topics).registered) :
    (hierarchy settings topics).declarationsOf settings c ∈ (generation settings topics).groups :=
  List.mem_map_of_mem (Registry.mem_emissionOrder.mpr hc)

/-- Where the links of a registered class lead is declared in the module. -/
theorem resolves_generation {settings : Settings} {topics : List Topic}
    (h : Admissible settings topics) :
    (generation settings topics).Resolves (hierarchy settings topics) settings := by
  intro target shape hleads howner
  exact ⟨_, declarationsOf_mem_groups howner,
    (Registry.wellFormed_hierarchy h).declarations_eq howner,
    Registry.exists_mem_declarationsOf hleads⟩

/-- **Public types are exhaustive.** Take any class below which, and above which, there is no
builtin data type, and follow the links of its public type, which are emitted as declarations. The
alternatives that are found come from the class itself and from every class that has it among its
ancestors, and from no other; and each of them has a single distinguishing field, which holds the
local name of the class it comes from.

Data types are excluded because what is below one stands for a primitive, which has no fields.
`Unfolds` is a relation because the links lead through the registry; `Unfolds.unique` says that it
has one outcome. -/
theorem publicType_exhaustive {settings : Settings} {topics : List Topic} {g : Generation}
    {registry : Registry} {c : ClassId}
    (hg : (generate settings topics).outcome = .ok g)
    (hregistry : (registryOf settings topics).outcome = .ok registry)
    (hc : c ∈ registry.registered) (hb : registry.isBuiltin c = false)
    (hfree : ∀ d, d = c ∨ c ∈ registry.ancestors d →
      ∀ a ∈ registry.ancestors d, registry.isBuiltin a = false) :
    (∀ target shape, registry.shapeOf settings target = some shape →
      target.owner ∈ registry.registered → ∃ group ∈ g.groups, ∃ comment isExported,
        .typeAlias (registry.linkName target) (shape.erase registry) comment isExported ∈ group) ∧
    ∃ shape alternatives, registry.shapeOf settings (.whole c) = some shape ∧
      registry.Unfolds settings c [shape] alternatives ∧
      (∀ d, (∃ e, (d, e) ∈ alternatives) ↔ d = c ∨ c ∈ registry.ancestors d) ∧
      ∀ d e, (d, e) ∈ alternatives →
        (e.erase registry).discriminants = [Text.localName (registry.subjectText d)] := by
  obtain ⟨hadmissible, rfl⟩ := outcome_registryOf_eq_ok_iff.mp hregistry
  obtain ⟨-, rfl⟩ := outcome_generate_eq_ok_iff.mp hg
  have hwf := Registry.wellFormed_hierarchy hadmissible
  have hancestor := fun d a => Registry.mem_ancestors (c := d) (a := a) hwf.parentsInRange
  refine ⟨?_, ?_⟩
  · intro target shape hleads howner
    -- the group of a class is where its links lead
    refine ⟨_, List.mem_map_of_mem (Registry.mem_emissionOrder.mpr howner), ?_⟩
    exact Registry.exists_mem_declarationsOf hleads
  · have hfree' : ∀ d, d = c ∨ (hierarchy settings topics).HasAncestor d c →
        (hierarchy settings topics).IsFree d := by
      intro d hd
      refine ⟨?_, fun a ha => hfree d (by rwa [hancestor]) a ((hancestor d a).mpr ha)⟩
      rcases hd with rfl | hd
      · exact hb
      · -- builtin data types have nothing above them
        rw [← Bool.not_eq_true]
        intro hbuiltin
        obtain ⟨p, hp, -⟩ := Relation.TransGen.head'_iff.mp hd
        rw [Registry.HasParent, hwf.builtin d hbuiltin] at hp
        cases hp
    -- what is left is to name the classes by their subjects
    obtain ⟨shape, found, hleads, hunfolds, hfound⟩ := hwf.exists_unfolds_whole c hc hfree'
    refine ⟨shape, found, hleads, hunfolds, fun d => ?_, fun d e hmem => ?_⟩
    · rw [hfound.origin, hancestor]
    · have hd : d ∈ (hierarchy settings topics).registered := by
        rcases (hfound.origin d).mp ⟨e, hmem⟩ with rfl | hd
        · exact hc
        · obtain ⟨p, hp, -⟩ := Relation.TransGen.head'_iff.mp hd
          exact (hwf.edge d p hp).1
      obtain ⟨node, hnode, hnamed, -⟩ := hwf.named d hd
      have hlocal : ((hierarchy settings topics).subjectOf d).readableName =
          Text.localName ((hierarchy settings topics).subjectText d) := by
        rw [Registry.subjectOf_eq hnode, Registry.subjectText, hnode, hnamed.eq_iri]
        rfl
      rw [← hlocal]
      exact hfound.discriminants d e hmem

/-- Two classes, one below the other. -/
def thingAndPlace : List Topic := [
  { subject := .iri "http://schema.org/Thing", types := [.iri classType] },
  { subject := .iri "http://schema.org/Place", types := [.iri classType],
    values := [⟨.known .subClassOf, .iri "http://schema.org/Thing"⟩] }]

theorem isSubclass_thingAndPlace {child parent : String}
    (h : IsSubclass "http://schema.org/" thingAndPlace child parent) :
    child = "http://schema.org/Place" ∧ parent = "http://schema.org/Thing" := by
  obtain ⟨topic, htopic, rfl, node, hnode, rfl⟩ := h
  obtain ⟨hin, -⟩ := mem_classTopics.mp htopic
  obtain ⟨hvalue, -⟩ := Topic.mem_references.mp hnode
  simp only [thingAndPlace, List.mem_cons, List.not_mem_nil, or_false] at hin
  rcases hin with rfl | rfl
  · simp at hvalue
  · obtain rfl : node = .iri "http://schema.org/Thing" := by simpa using hvalue
    exact ⟨rfl, rfl⟩

theorem admissible_thingAndPlace : Admissible {} thingAndPlace where
  nonempty := by decide
  nameable := by decide
  classes := by decide
  acyclic := by
    intro identifier hcycle
    obtain ⟨_, hfirst, -⟩ := Relation.TransGen.head'_iff.mp hcycle
    obtain ⟨_, -, hlast⟩ := Relation.TransGen.tail'_iff.mp hcycle
    have hplace := (isSubclass_thingAndPlace hfirst).1
    have hthing := (isSubclass_thingAndPlace hlast).2
    rw [hplace] at hthing
    exact absurd hthing (by decide)
  properties := by decide
  members := by
    have hnone : ∀ topic ∈ thingAndPlace, topic.memberTag? = none := by decide
    intro topic htopic tag htag
    rw [hnone topic htopic] at htag
    cases htag

/-- In a module of two classes, one below the other, the type of the upper one is exhaustive. -/
theorem publicType_exhaustive_thing :
    ∃ c, classOf {} thingAndPlace "http://schema.org/Thing" = some c ∧
      ∃ shape alternatives, (hierarchy {} thingAndPlace).shapeOf {} (.whole c) = some shape ∧
        (hierarchy {} thingAndPlace).Unfolds {} c [shape] alternatives ∧
        (∀ d, (∃ e, (d, e) ∈ alternatives) ↔
          d = c ∨ c ∈ (hierarchy {} thingAndPlace).ancestors d) ∧
        ∀ d e, (d, e) ∈ alternatives → (e.erase (hierarchy {} thingAndPlace)).discriminants =
          [Text.localName ((hierarchy {} thingAndPlace).subjectText d)] := by
  have hclass : classOf {} thingAndPlace "http://schema.org/Thing" = some 6 := by decide
  have hwf := Registry.wellFormed_hierarchy admissible_thingAndPlace
  have hbuiltin : (hierarchy {} thingAndPlace).isBuiltin 6 = false := by
    rw [← Bool.not_eq_true, Registry.isBuiltin_hierarchy_iff hclass]
    decide
  -- the only ancestor there is in the example is the class itself
  have hfree : ∀ d, ∀ a ∈ (hierarchy {} thingAndPlace).ancestors d,
      (hierarchy {} thingAndPlace).isBuiltin a = false := by
    intro d a ha
    rw [Registry.mem_ancestors hwf.parentsInRange] at ha
    obtain ⟨b, -, hb⟩ := Relation.TransGen.tail'_iff.mp ha
    obtain ⟨child, parent, hsub, -, hparent⟩ := Registry.hasParent_hierarchy_iff.mp hb
    obtain rfl := (isSubclass_thingAndPlace hsub).2
    rw [hclass] at hparent
    obtain rfl := Option.some.inj hparent
    exact hbuiltin
  exact ⟨6, hclass, (publicType_exhaustive
    (outcome_generate_eq_ok_iff.mpr ⟨admissible_thingAndPlace, rfl⟩)
    (outcome_registryOf_eq_ok_iff.mpr ⟨admissible_thingAndPlace, rfl⟩)
    (Registry.mem_registered_iff.mpr ⟨_, hclass⟩) hbuiltin fun d _ => hfree d).2⟩

end OntoTypes
