import OntoTypes.Proofs.Expansion

/-!
# Bases without values

A class that inherits nothing and shows no property of its own has the base `never`, and not the
record without fields, where a class that lacks one of the two simply leaves it out. What is below
such a class has `never` as a member of an intersection, and with it no value, whatever else it
inherits or adds.

Main definitions and results:

* `TypeExpr.collapses`, `Shape.IsVoid` — `never` is a member of an intersection, or stands alone;
* `Registry.IsBare` — a class that inherits nothing and shows nothing;
* `WellFormed.exists_expands_void_iff` — the bases of bare classes and of everything below them are
  void, and no others;
* `leafBase_collapses_iff` — the leaves of a module that this happens to.
-/

namespace OntoTypes

/-- The type without values, by itself. -/
def TypeExpr.isNever : TypeExpr → Bool
  | .keyword name => name = "never"
  | _ => false

mutual

/-- The type without values is a member of an intersection, at any depth of a type. -/
def TypeExpr.collapses : TypeExpr → Bool
  | .reference _ | .keyword _ | .literal _ => false
  | .array element => element.collapses
  | .union members => memberCollapses members
  | .intersection members => members.any TypeExpr.isNever || memberCollapses members
  | .record fields => fieldCollapses fields

/-- The same inside of one of some types. -/
def memberCollapses : List TypeExpr → Bool
  | [] => false
  | member :: members => member.collapses || memberCollapses members

/-- The same inside of one of some fields. -/
def fieldCollapses : List Field → Bool
  | [] => false
  | field :: fields => field.collapses || fieldCollapses fields

/-- The same inside of a field. -/
def Field.collapses : Field → Bool
  | .mk _ value _ _ => value.collapses

end

/-- The recursion over members, as a list operation. -/
theorem memberCollapses_eq_any (members : List TypeExpr) :
    memberCollapses members = members.any TypeExpr.collapses := by
  induction members with
  | nil => rfl
  | cons member members ih => rw [memberCollapses, ih, List.any_cons]

/-- The recursion over fields, likewise. -/
theorem fieldCollapses_eq_any (fields : List Field) :
    fieldCollapses fields = fields.any Field.collapses := by
  induction fields with
  | nil => rfl
  | cons field fields ih => rw [fieldCollapses, ih, List.any_cons]

/-- A shape is written as `never`, or with `never` as a member of an intersection. -/
def Shape.IsVoid (registry : Registry) (shape : Shape) : Prop :=
  (shape.erase registry).isNever = true ∨ (shape.erase registry).collapses = true

namespace Registry

variable {registry : Registry} {settings : Settings} {c : ClassId} {node : ClassNode}

/-! ## Void shapes -/

/-- Standing alone, `never` is void already. -/
theorem isVoid_never : (Shape.keyword "never").IsVoid registry :=
  Or.inl rfl

/-- An intersection is void exactly if a member is. -/
theorem isVoid_intersection_iff {members : List Shape} :
    (Shape.intersection members).IsVoid registry ↔ ∃ member ∈ members, member.IsVoid registry := by
  simp [Shape.IsVoid, Shape.erase, Shape.eraseAll_eq_map, TypeExpr.isNever, TypeExpr.collapses,
    memberCollapses_eq_any, and_or_left, exists_or]

/-- The types that a property ranges over are not intersected. -/
theorem collapses_entryField (entry : Entry) : (registry.entryField entry).collapses = false := by
  -- a union of names has no intersection in it
  have hscalar : ∀ ids : List ClassId,
      (TypeExpr.unionOf (ids.map fun c => .reference (registry.nameOf c))).collapses = false := by
    intro ids
    match ids with
    | [] => rfl
    | [_] => rfl
    | c :: d :: ids =>
      simp [TypeExpr.unionOf, TypeExpr.collapses, memberCollapses_eq_any]
  cases entry with
  | discriminant c => rfl
  | property property =>
    rw [entryField, fieldOf, Field.collapses, fieldType]
    split
    · exact hscalar property.range
    · simp [TypeExpr.collapses, memberCollapses, hscalar]

/-- A record is never void, whatever its fields hold. -/
theorem not_isVoid_record (entries : List Entry) : ¬ (Shape.record entries).IsVoid registry := by
  have hfields : (fieldCollapses (entries.map registry.entryField)) = false := by
    simp [fieldCollapses_eq_any, collapses_entryField]
  simp [Shape.IsVoid, Shape.erase, TypeExpr.isNever, TypeExpr.collapses, hfields]

/-- What is made of nothing at all is void, and so is what inherits something void. -/
theorem isVoid_joined_iff {inherited : List Shape} {entries : List Entry} :
    (Shape.joined inherited entries).IsVoid registry ↔
      inherited = [] ∧ entries = [] ∨ ∃ shape ∈ inherited, shape.IsVoid registry := by
  -- the forms in which what is inherited and what is added are joined: `never` is written for
  -- nothing at all, and for nothing else
  match inherited, entries with
  | [], [] => exact iff_of_true isVoid_never (Or.inl ⟨rfl, rfl⟩)
  | [], _ :: _ => exact iff_of_false (not_isVoid_record _) (by simp)
  | [shape], [] => simp [Shape.joined, Shape.intersectionOf?]
  | [shape], _ :: _ =>
    simp [Shape.joined, Shape.intersectionOf?, isVoid_intersection_iff, not_isVoid_record]
  | _ :: _ :: _, [] => simp [Shape.joined, Shape.intersectionOf?, isVoid_intersection_iff]
  | _ :: _ :: _, _ :: _ =>
    simp [Shape.joined, Shape.intersectionOf?, isVoid_intersection_iff, not_isVoid_record]

/-- What is intersected with own entries is not `never` by itself. -/
theorem eq_nil_of_isNever_joined {inherited : List Shape} {entries : List Entry}
    (h : ((Shape.joined inherited entries).erase registry).isNever = true) : entries = [] := by
  match inherited, entries with
  | _, [] => rfl
  | [], _ :: _ => cases h
  | [_], _ :: _ => cases h
  | _ :: _ :: _, _ :: _ => cases h

/-! ## Bare classes -/

/-- A class inherits nothing and adds nothing to it. -/
def IsBare (registry : Registry) (settings : Settings) (c : ClassId) : Prop :=
  ∃ node, registry.node? c = some node ∧ node.parents = [] ∧
    registry.ownEntries settings c node = []

/-- Whether a class is bare can be read off its record. -/
theorem isBare_iff (hnode : registry.node? c = some node) :
    registry.IsBare settings c ↔ node.parents = [] ∧ registry.ownEntries settings c node = [] := by
  simp [IsBare, hnode]

/-- A class adds nothing if it is no leaf and all of its properties are hidden. -/
theorem ownEntries_eq_nil_iff :
    registry.ownEntries settings c node = [] ↔ registry.isLeaf c = false ∧
      ∀ property ∈ registry.propertyNodes node.properties,
        settings.includeDeprecated = false ∧ property.isDeprecated = true := by
  -- what is shown is all but the hidden ones, in another order
  have hshown : registry.shownProperties settings node = [] ↔
      ∀ property ∈ registry.propertyNodes node.properties,
        settings.includeDeprecated = false ∧ property.isDeprecated = true := by
    simp only [shownProperties, List.filter_eq_nil_iff, sortBySubject,
      (Text.sortOn_perm ..).mem_iff, Bool.or_eq_true, not_or, Bool.not_eq_true,
      Bool.not_eq_eq_eq_not, Bool.not_true, Bool.not_eq_false]
  rw [← hshown, ownEntries]
  cases registry.isLeaf c <;> simp

namespace WellFormed

variable (h : registry.WellFormed)
include h

/-- **Which bases are void**: those of bare classes, and of the classes below them. The base of a
leaf is not `never` itself, since a leaf has a distinguishing field. -/
theorem exists_expands_void_iff (c : ClassId) (hc : c ∈ registry.registered)
    (hfree : registry.IsFree c) :
    ∃ e, registry.Expands settings [.link (.base c)] [e] ∧
      ((e.erase registry).isNever = true → registry.isLeaf c = false) ∧
      (e.IsVoid registry ↔
        ∃ a, Relation.ReflTransGen registry.HasParent c a ∧ registry.IsBare settings a) := by
  -- induction from the top down: it is enough to go from the parents of a class to the class
  refine h.exists_expands_base_of_isFree (P := fun c e =>
    ((e.erase registry).isNever = true → registry.isLeaf c = false) ∧
      (e.IsVoid registry ↔
        ∃ a, Relation.ReflTransGen registry.HasParent c a ∧ registry.IsBare settings a))
    ?_ c hc hfree
  intro c node expansion hnode hparents
  -- what is inherited is void exactly if a parent is bare or below a bare class
  have hinherited : (∃ shape ∈ node.parents.map expansion, shape.IsVoid registry) ↔
      ∃ p ∈ node.parents, ∃ a, Relation.ReflTransGen registry.HasParent p a ∧
        registry.IsBare settings a := by
    simp only [List.mem_map, exists_exists_and_eq_and]
    exact exists_congr fun p => and_congr_right fun hp => (hparents p hp).2
  refine ⟨fun hnever => ?_, ?_⟩
  · -- a base that is `never` adds nothing
    exact (ownEntries_eq_nil_iff.mp (eq_nil_of_isNever_joined hnever)).1
  · -- a bare class is the class itself, or one at a parent or above it
    rw [isVoid_joined_iff, hinherited, exists_reflTransGen_hasParent_iff, isBare_iff hnode,
      parents_of_node? hnode, List.map_eq_nil_iff]

/-- A leaf that is no builtin data type is not below one. -/
theorem isFree_of_isLeaf (hb : registry.isBuiltin c = false) (hleaf : registry.isLeaf c = true) :
    registry.IsFree c := by
  refine ⟨hb, fun a ha => ?_⟩
  rw [← Bool.not_eq_true]
  intro hbuiltin
  rw [h.isLeaf_of_belowBuiltin ha hbuiltin] at hleaf
  cases hleaf

/-- What is bare at a leaf or above it is an ancestor without parents, all of whose properties are
hidden: the leaf has a distinguishing field, and no ancestor has one. -/
theorem exists_isBare_iff_of_isLeaf (hleaf : registry.isLeaf c = true) :
    (∃ a, Relation.ReflTransGen registry.HasParent c a ∧ registry.IsBare settings a) ↔
      ∃ a ∈ registry.ancestors c, ∃ node, registry.node? a = some node ∧ node.parents = [] ∧
        ∀ property ∈ registry.propertyNodes node.properties,
          settings.includeDeprecated = false ∧ property.isDeprecated = true := by
  -- a leaf is not bare, and of what is above it only what is shown matters
  have hself : ¬ registry.IsBare settings c := by
    rintro ⟨node, -, -, hempty⟩
    rw [(ownEntries_eq_nil_iff.mp hempty).1] at hleaf
    cases hleaf
  -- what is above something is no leaf
  have hancestor : ∀ a, registry.HasAncestor c a → registry.isLeaf a = false := by
    intro a ha
    obtain ⟨b, -, hb⟩ := Relation.TransGen.tail'_iff.mp ha
    exact h.isLeaf_of_hasParent hb
  simp only [mem_ancestors h.parentsInRange, IsBare, ownEntries_eq_nil_iff] at hself ⊢
  constructor
  · -- the bare class is not the leaf, so it is above it
    rintro ⟨a, hca, node, hnode, hparents, hinner, hhidden⟩
    rcases Relation.reflTransGen_iff_eq_or_transGen.mp hca with rfl | ha
    · exact absurd ⟨node, hnode, hparents, hinner, hhidden⟩ hself
    · exact ⟨a, ha, node, hnode, hparents, hhidden⟩
  · rintro ⟨a, ha, node, hnode, hparents, hhidden⟩
    exact ⟨a, ha.to_reflTransGen, node, hnode, hparents, hancestor a ha, hhidden⟩

end WellFormed

end Registry

/-- **Which leaves collapse.** Follow the links of the base of a leaf to the bases of its parents,
which are emitted as declarations, all the way up. What is found is not `never`, but it has `never`
as a member of an intersection exactly if some ancestor has no parents, and no properties other than
superseded ones that are hidden. -/
theorem leafBase_collapses_iff {settings : Settings} {topics : List Topic} {g : Generation}
    {registry : Registry} {c : ClassId}
    (hg : (generate settings topics).outcome = .ok g)
    (hregistry : (registryOf settings topics).outcome = .ok registry)
    (hc : c ∈ registry.registered) (hb : registry.isBuiltin c = false)
    (hleaf : registry.isLeaf c = true) :
    g.Resolves registry settings ∧
    ∃ e, registry.Expands settings [.link (.base c)] [e] ∧
      (e.erase registry).isNever = false ∧
      ((e.erase registry).collapses = true ↔
        ∃ a ∈ registry.ancestors c, ∃ node, registry.node? a = some node ∧ node.parents = [] ∧
          ∀ property ∈ registry.propertyNodes node.properties,
            settings.includeDeprecated = false ∧ property.isDeprecated = true) := by
  obtain ⟨hadmissible, rfl⟩ := outcome_registryOf_eq_ok_iff.mp hregistry
  obtain ⟨-, rfl⟩ := outcome_generate_eq_ok_iff.mp hg
  have hwf := Registry.wellFormed_hierarchy hadmissible
  obtain ⟨e, he, hnever, hvoid⟩ : ∃ e, (hierarchy settings topics).Expands settings
      [.link (.base c)] [e] ∧ _ :=
    hwf.exists_expands_void_iff c hc (hwf.isFree_of_isLeaf hb hleaf)
  have hnever : (e.erase (hierarchy settings topics)).isNever = false := by
    -- the base of a leaf has a distinguishing field
    rw [← Bool.not_eq_true]
    intro htrue
    rw [hnever htrue] at hleaf
    cases hleaf
  refine ⟨resolves_generation hadmissible, e, he, hnever, ?_⟩
  rw [← hwf.exists_isBare_iff_of_isLeaf hleaf, ← hvoid, Shape.IsVoid, hnever]
  simp

/-- A class that has only a superseded property, and a class below it. -/
def superseded : List Topic := [
  { subject := .iri "http://schema.org/Thing", types := [.iri classType] },
  { subject := .iri "http://schema.org/Person", types := [.iri classType],
    values := [⟨.known .subClassOf, .iri "http://schema.org/Thing"⟩] },
  { subject := .iri "http://schema.org/old", types := [.iri propertyType],
    values := [⟨.known .domainIncludes, .iri "http://schema.org/Thing"⟩,
      ⟨.known .rangeIncludes, .iri "http://schema.org/Text"⟩,
      ⟨.known .supersededBy, .iri "http://schema.org/new"⟩] }]

/-- Superseded properties are hidden. -/
def currentOnly : Settings := { includeDeprecated := false }

theorem admissible_superseded : Admissible currentOnly superseded where
  nonempty := by decide
  nameable := by decide
  classes := by decide
  acyclic := acyclic_of_rank (fun identifier => if identifier = "http://schema.org/Person" then 1
    else 0) (by decide)
  properties := by decide
  members := by
    have hmembers : ∀ topic ∈ superseded, ∀ tag ∈ topic.memberTag?,
        IsDeclared "http://schema.org/" superseded tag.text := by decide
    exact hmembers

/-- If superseded properties are hidden, the lower class has no values. -/
theorem leafBase_collapses_person :
    ∃ person, classOf currentOnly superseded "http://schema.org/Person" = some person ∧
      (hierarchy currentOnly superseded).isBuiltin person = false ∧
      (hierarchy currentOnly superseded).isLeaf person = true ∧
      (generation currentOnly superseded).Resolves (hierarchy currentOnly superseded) currentOnly ∧
      ∃ e, (hierarchy currentOnly superseded).Expands currentOnly [.link (.base person)] [e] ∧
        (e.erase (hierarchy currentOnly superseded)).collapses = true := by
  have hperson : classOf currentOnly superseded "http://schema.org/Person" = some 7 := by decide
  have hbuiltin : (hierarchy currentOnly superseded).isBuiltin 7 = false := by decide
  have hleaf : (hierarchy currentOnly superseded).isLeaf 7 = true := by decide
  obtain ⟨hresolves, e, he, -, hiff⟩ := leafBase_collapses_iff
    (outcome_generate_eq_ok_iff.mpr ⟨admissible_superseded, rfl⟩)
    (outcome_registryOf_eq_ok_iff.mpr ⟨admissible_superseded, rfl⟩)
    (Registry.mem_registered_iff.mpr ⟨_, hperson⟩) hbuiltin hleaf
  refine ⟨7, hperson, hbuiltin, hleaf, hresolves, e, he, hiff.mpr ⟨6, ?_, ?_⟩⟩
  · -- the class above it is an ancestor
    rw [Registry.mem_ancestors (Registry.wellFormed_hierarchy admissible_superseded).parentsInRange]
    exact .single (by decide : 6 ∈ (hierarchy currentOnly superseded).parents 7)
  · -- which has no parents, and one property that is hidden
    have hbare : ∃ node ∈ (hierarchy currentOnly superseded).node? 6, node.parents = [] ∧
        ∀ property ∈ (hierarchy currentOnly superseded).propertyNodes node.properties,
          currentOnly.includeDeprecated = false ∧ property.isDeprecated = true := by decide
    exact hbare

end OntoTypes
