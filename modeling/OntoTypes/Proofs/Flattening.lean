import OntoTypes.Proofs.Digest
import OntoTypes.Proofs.Expansion

/-!
# Flattening inheritance

The base of a class lists its own properties and refers to the bases of its parents for the rest.
Following these links all the way up gives a type without them, and the fields of that type are the
properties of the class and of everything above it: however the parents meet again further up, no
property gets lost on the way, and none comes in from a class that is not above.

Main definitions and results:

* `TypeExpr.fields`, `Shape.entries` — the fields of a type, those inside of fields aside;
* `Registry.Owns` — the properties of a class that is not builtin;
* `WellFormed.exists_expands_entries` — the properties in the expansion of a base;
* `base_flattens` — the same for a module in which deprecated properties are shown.
-/

namespace OntoTypes

mutual

/-- The fields of the records that a type is made of. -/
def TypeExpr.fields : TypeExpr → List Field
  | .reference _ | .keyword _ | .literal _ | .array _ => []
  | .union members => memberFields members
  | .intersection members => memberFields members
  | .record fields => fields

/-- The fields of the records that some types are made of. -/
def memberFields : List TypeExpr → List Field
  | [] => []
  | member :: members => member.fields ++ memberFields members

end

mutual

/-- The entries of the records that a shape is made of. -/
def Shape.entries : Shape → List Entry
  | .link _ | .keyword _ => []
  | .union members => memberEntries members
  | .intersection members => memberEntries members
  | .record entries => entries

/-- The entries of the records that some shapes are made of. -/
def memberEntries : List Shape → List Entry
  | [] => []
  | member :: members => member.entries ++ memberEntries members

end

/-- The recursion over members, as a list operation. -/
theorem memberEntries_eq_flatMap (members : List Shape) :
    memberEntries members = members.flatMap Shape.entries := by
  induction members with
  | nil => rfl
  | cons member members ih => rw [memberEntries, ih, List.flatMap_cons]

mutual

/-- The fields of a type are what the entries of its shape are written as. -/
theorem Shape.fields_erase (registry : Registry) :
    ∀ shape : Shape, (shape.erase registry).fields = shape.entries.map registry.entryField
  | .link _ | .keyword _ => rfl
  | .record _ => rfl
  | .union members => memberFields_eraseAll registry members
  | .intersection members => memberFields_eraseAll registry members

/-- The fields of some members are what their entries are written as. -/
theorem memberFields_eraseAll (registry : Registry) :
    ∀ members : List Shape,
      memberFields (Shape.eraseAll registry members) =
        (memberEntries members).map registry.entryField
  | [] => rfl
  | member :: members => by
    rw [Shape.eraseAll, memberFields, memberEntries, List.map_append,
      Shape.fields_erase registry member, memberFields_eraseAll registry members]

end

/-- What a class inherits comes before its own entries. -/
theorem Shape.entries_joined (inherited : List Shape) (entries : List Entry) :
    (Shape.joined inherited entries).entries = inherited.flatMap Shape.entries ++ entries :=
  flatMap_joined rfl rfl memberEntries_eq_flatMap inherited entries

namespace Registry

variable {registry : Registry} {settings : Settings} {c : ClassId} {node : ClassNode}

/-- A property is attached to a class, and the class is no builtin data type. -/
def Owns (registry : Registry) (c : ClassId) (id : PropertyId) : Prop :=
  ∃ node, registry.node? c = some node ∧ node.isBuiltin = false ∧ id ∈ node.properties

instance (registry : Registry) (c : ClassId) (id : PropertyId) :
    Decidable (registry.Owns c id) :=
  decidable_of_iff
    (∃ node ∈ registry.node? c, node.isBuiltin = false ∧ id ∈ node.properties) Iff.rfl

/-- What owns a property is a class of the registry. -/
theorem Owns.lt_size {id : PropertyId} (h : registry.Owns c id) : c < registry.classes.size := by
  obtain ⟨node, hnode, -⟩ := h
  exact lt_size_of_node? hnode

/-- A property is attached to a class or to something above it, and is not hidden. -/
def Shows (registry : Registry) (settings : Settings) (c : ClassId) (property : PropertyNode) :
    Prop :=
  ∃ d, Relation.ReflTransGen registry.HasParent c d ∧
    ∃ id, registry.Owns d id ∧ registry.properties[id]? = some property ∧
      (settings.includeDeprecated || !property.isDeprecated) = true

/-- A class shows its own properties and those that its parents show. -/
theorem shows_iff {property : PropertyNode} :
    registry.Shows settings c property ↔
      (∃ id, registry.Owns c id ∧ registry.properties[id]? = some property ∧
        (settings.includeDeprecated || !property.isDeprecated) = true) ∨
      ∃ p ∈ registry.parents c, registry.Shows settings p property :=
  exists_reflTransGen_hasParent_iff

/-- The properties that are given a field, among those of a class. -/
theorem property_mem_ownEntries_iff {property : PropertyNode} :
    .property property ∈ registry.ownEntries settings c node ↔
      (∃ id ∈ node.properties, registry.properties[id]? = some property) ∧
        (settings.includeDeprecated || !property.isDeprecated) = true := by
  have hshown : .property property ∈ registry.ownEntries settings c node ↔
      property ∈ registry.shownProperties settings node := by
    rw [ownEntries]
    split <;> simp
  rw [hshown, shownProperties, List.mem_filter, sortBySubject, (Text.sortOn_perm ..).mem_iff,
    propertyNodes, List.mem_filterMap]

/-- Nothing is attached to builtin data types as far as fields are concerned. -/
theorem not_owns_of_primitive (hnode : registry.node? c = some node) {primitive : Primitive}
    (hprimitive : node.primitive = some primitive) (id : PropertyId) : ¬ registry.Owns c id := by
  rintro ⟨other, hother, hbuiltin, -⟩
  rw [hnode] at hother
  obtain rfl := Option.some.inj hother
  rw [ClassNode.isBuiltin, hprimitive] at hbuiltin
  cases hbuiltin

/-- A class that is not builtin owns what is attached to it. -/
theorem owns_iff (hnode : registry.node? c = some node) (hprimitive : node.primitive = none)
    {id : PropertyId} : registry.Owns c id ↔ id ∈ node.properties := by
  simp [Owns, hnode, ClassNode.isBuiltin, hprimitive]

namespace WellFormed

variable (h : registry.WellFormed)
include h

/-- What is at a registered class or above it is registered. -/
theorem registered_of_reflTransGen (hc : c ∈ registry.registered) {d : ClassId}
    (hd : Relation.ReflTransGen registry.HasParent c d) : d ∈ registry.registered := by
  rcases Relation.ReflTransGen.cases_tail hd with rfl | ⟨b, -, hb⟩
  · exact hc
  · exact (h.edge b d hb).2

/-- **Expansions flatten inheritance**: the properties in the expansion of a base are those that the
class shows, its own and the inherited ones. -/
theorem exists_expands_entries (c : ClassId) (hc : c ∈ registry.registered) :
    ∃ e, registry.Expands settings [.link (.base c)] [e] ∧
      ∀ property, .property property ∈ e.entries ↔ registry.Shows settings c property := by
  refine h.exists_expands_base_of (P := fun c e => ∀ property,
    .property property ∈ e.entries ↔ registry.Shows settings c property) ?_ ?_ c hc
  · -- a builtin data type has no entries, and nothing above it
    intro b node primitive hnode hprimitive property
    have hentries : (linkedBuiltin b node primitive).entries = [] := by
      rw [linkedBuiltin]
      split <;> rfl
    have hparents : registry.parents b = [] :=
      h.builtin b (isBuiltin_of_primitive hnode hprimitive)
    rw [hentries, shows_iff, hparents]
    simp [not_owns_of_primitive hnode hprimitive]
  · -- a class adds its own properties to those of its parents
    intro c node expansion hnode hprimitive hparents property
    -- an entry that is inherited comes from one of the parents
    have hinherited : .property property ∈
        (node.parents.map expansion).flatMap Shape.entries ↔
          ∃ p ∈ node.parents, .property property ∈ (expansion p).entries := by
      rw [List.flatMap_map, List.mem_flatMap]
    -- and an own entry from a property that is shown
    have hown : .property property ∈ registry.ownEntries settings c node ↔
        ∃ id, registry.Owns c id ∧ registry.properties[id]? = some property ∧
          (settings.includeDeprecated || !property.isDeprecated) = true := by
      simp only [property_mem_ownEntries_iff, owns_iff hnode hprimitive, ← and_assoc,
        exists_and_right]
    rw [Shape.entries_joined, List.mem_append, hinherited, hown, shows_iff,
      parents_of_node? hnode, or_comm]
    refine or_congr_right (exists_congr fun p => and_congr_right fun hp => ?_)
    exact hparents p hp property

end WellFormed

end Registry

/-! ## The module of some topics -/

variable {settings : Settings} {topics : List Topic}

/-- A property is recorded for the classes that its topic names as owners. -/
theorem mem_recordedProperties_iff {id : PropertyId} {property : PropertyNode}
    (hproperty : (hierarchy settings topics).properties[id]? = some property) {c : ClassId} :
    id ∈ recordedProperties settings topics c ↔ c ∈ property.owners := by
  -- there is one topic at the position, and the property is made from it
  have hdescribed : (describedProperties settings topics)[id]? = some property := by
    simpa [hierarchy] using hproperty
  rw [describedProperties, List.getElem?_map, Option.map_eq_some_iff] at hdescribed
  obtain ⟨topic, htopic, rfl⟩ := hdescribed
  simp only [recordedProperties, List.mem_flatMap, List.mem_replicate, Prod.exists,
    List.mk_mem_zipIdx_iff_getElem?, Topic.propertyNode, ne_eq, List.count_eq_zero, not_not]
  constructor
  · -- at one position there is one topic
    rintro ⟨other, i, hother, hcount, rfl⟩
    rw [htopic] at hother
    obtain rfl := Option.some.inj hother
    exact hcount
  · intro howner
    exact ⟨topic, id, htopic, howner, rfl⟩

/-- **Bases flatten multiple inheritance.** Take any class of a module in which superseded
properties are shown, and follow the links of its base to the bases of its parents, which are
emitted as declarations, all the way up. The fields that are found are what the entries of the
expansion are written as; and of all properties there is an entry for exactly those that are
attached to the class or to one of its ancestors, builtin data types aside.

A class that is reached on several ways contributes its entries on each of them, so the statement is
about which entries there are, and not about how many. -/
theorem base_flattens {settings : Settings} {topics : List Topic} {g : Generation}
    {registry : Registry} {c : ClassId}
    (hg : (generate settings topics).outcome = .ok g)
    (hregistry : (registryOf settings topics).outcome = .ok registry)
    (hshown : settings.includeDeprecated = true) (hc : c ∈ registry.registered) :
    g.Resolves registry settings ∧
    ∃ e, registry.Expands settings [.link (.base c)] [e] ∧
      (e.erase registry).fields = e.entries.map registry.entryField ∧
      (∀ property, .property property ∈ e.entries → property ∈ registry.properties) ∧
      ∀ id property, registry.properties[id]? = some property →
        (.property property ∈ e.entries ↔
          ∃ d, (d = c ∨ d ∈ registry.ancestors c) ∧ registry.Owns d id) := by
  obtain ⟨hadmissible, rfl⟩ := outcome_registryOf_eq_ok_iff.mp hregistry
  obtain ⟨-, rfl⟩ := outcome_generate_eq_ok_iff.mp hg
  have hwf := Registry.wellFormed_hierarchy hadmissible
  obtain ⟨e, he, hentries⟩ := hwf.exists_expands_entries c hc
  refine ⟨resolves_generation hadmissible, e, he, Shape.fields_erase _ e, ?_, ?_⟩
  · -- an entry is shown for some class, and what is shown is on record
    intro property hproperty
    obtain ⟨d, -, id, -, hid, -⟩ := (hentries property).mp hproperty
    exact Array.mem_of_getElem? hid
  · intro id property hid
    rw [hentries]
    constructor
    · -- another position with the same property has the same owners
      rintro ⟨d, hd, other, ⟨node, hnode, hbuiltin, hmem⟩, hother, -⟩
      obtain ⟨identifier, hclass⟩ :=
        Registry.mem_registered_iff.mp (hwf.registered_of_reflTransGen hc hd)
      rw [node?_hierarchy_of_classOf hadmissible hclass] at hnode
      obtain rfl := Option.some.inj hnode
      refine ⟨d, (Registry.reflTransGen_hasParent_iff hwf.parentsInRange).mp hd, _,
        node?_hierarchy_of_classOf hadmissible hclass, hbuiltin, ?_⟩
      exact (mem_recordedProperties_iff hid).mpr ((mem_recordedProperties_iff hother).mp hmem)
    · -- nothing that is attached is hidden
      rintro ⟨d, hd, howns⟩
      exact ⟨d, (Registry.reflTransGen_hasParent_iff hwf.parentsInRange).mpr hd, id, howns, hid,
        by rw [hshown, Bool.true_or]⟩

/-- A class that is below another in two ways, and below a builtin data type in one of them; and a
class beside it. A property of each kind: inherited from the top, inherited on one way but
superseded, and attached to the class beside. -/
def diamond : List Topic := [
  { subject := .iri "http://schema.org/Thing", types := [.iri classType] },
  { subject := .iri "http://schema.org/Place", types := [.iri classType],
    values := [⟨.known .subClassOf, .iri "http://schema.org/Thing"⟩] },
  { subject := .iri "http://schema.org/Company", types := [.iri classType],
    values := [⟨.known .subClassOf, .iri "http://schema.org/Thing"⟩,
      ⟨.known .subClassOf, .iri "http://schema.org/Text"⟩] },
  { subject := .iri "http://schema.org/Shop", types := [.iri classType],
    values := [⟨.known .subClassOf, .iri "http://schema.org/Place"⟩,
      ⟨.known .subClassOf, .iri "http://schema.org/Company"⟩] },
  { subject := .iri "http://schema.org/Museum", types := [.iri classType],
    values := [⟨.known .subClassOf, .iri "http://schema.org/Place"⟩] },
  { subject := .iri "http://schema.org/name", types := [.iri propertyType],
    values := [⟨.known .domainIncludes, .iri "http://schema.org/Thing"⟩] },
  { subject := .iri "http://schema.org/founder", types := [.iri propertyType],
    values := [⟨.known .domainIncludes, .iri "http://schema.org/Company"⟩,
      ⟨.known .supersededBy, .iri "http://schema.org/founders"⟩] },
  { subject := .iri "http://schema.org/exhibits", types := [.iri propertyType],
    values := [⟨.known .domainIncludes, .iri "http://schema.org/Museum"⟩] }]

theorem admissible_diamond : Admissible {} diamond where
  nonempty := by decide
  nameable := by decide
  classes := by decide
  acyclic := acyclic_of_rank (fun identifier =>
    if identifier = "http://schema.org/Shop" ∨ identifier = "http://schema.org/Museum" then 3
    else if identifier = "http://schema.org/Place" ∨ identifier = "http://schema.org/Company" then 2
    else if identifier = "http://schema.org/Thing" then 1 else 0) (by decide)
  properties := by decide
  members := by
    have hmembers : ∀ topic ∈ diamond, ∀ tag ∈ topic.memberTag?,
        IsDeclared "http://schema.org/" diamond tag.text := by decide
    exact hmembers

/-- A shop has what any thing has, and what a company has, but not what a museum has. -/
theorem base_flattens_shop :
    ∃ shop, classOf {} diamond "http://schema.org/Shop" = some shop ∧
      (generation {} diamond).Resolves (hierarchy {} diamond) {} ∧
      ∃ e, (hierarchy {} diamond).Expands {} [.link (.base shop)] [e] ∧
        ∀ (id : PropertyId) (property : PropertyNode),
          (hierarchy {} diamond).properties[id]? = some property →
            (.property property ∈ e.entries ↔
              property.subject ≠ .iri "http://schema.org/exhibits") := by
  have hshop : classOf {} diamond "http://schema.org/Shop" = some 9 := by decide
  have hancestor : ∀ a, a ∈ (hierarchy {} diamond).ancestors 9 ↔
      (hierarchy {} diamond).HasAncestor 9 a := fun a =>
    Registry.mem_ancestors (Registry.wellFormed_hierarchy admissible_diamond).parentsInRange
  -- up to the thing by way of the place, and to the company at once
  have hthing : (hierarchy {} diamond).HasAncestor 9 6 :=
    .tail (.single (by decide : 7 ∈ (hierarchy {} diamond).parents 9))
      (by decide : 6 ∈ (hierarchy {} diamond).parents 7)
  have hcompany : (hierarchy {} diamond).HasAncestor 9 8 :=
    .single (by decide : 8 ∈ (hierarchy {} diamond).parents 9)
  have hmuseum : ¬ (hierarchy {} diamond).HasAncestor 9 10 := by
    -- every class comes after its parents
    have hdown : ∀ c < 11, ∀ p ∈ (hierarchy {} diamond).parents c, p < c := by decide
    intro habove
    have hlt : Relation.TransGen (· > ·) 9 10 :=
      Relation.TransGen.mono (fun c p hp => hdown c (Registry.HasParent.lt_size hp) p hp) _ _ habove
    rw [Relation.transGen_eq_self] at hlt
    exact absurd hlt (by decide)
  obtain ⟨hresolves, e, he, -, -, hentries⟩ := base_flattens
    (outcome_generate_eq_ok_iff.mpr ⟨admissible_diamond, rfl⟩)
    (outcome_registryOf_eq_ok_iff.mpr ⟨admissible_diamond, rfl⟩) rfl
    (Registry.mem_registered_iff.mpr ⟨_, hshop⟩)
  refine ⟨9, hshop, hresolves, e, he, fun id property hid => ?_⟩
  have hlt : id < 3 := (Array.getElem?_eq_some_iff.mp hid).1
  -- the three properties, by their positions
  have hsubjects : ∀ id < 3, ((hierarchy {} diamond).properties[id]?).map (·.subject) =
      [.iri "http://schema.org/name", .iri "http://schema.org/founder",
        .iri "http://schema.org/exhibits"][id]? := by decide
  have hsubject := hsubjects id hlt
  rw [hid, Option.map_some] at hsubject
  rw [hentries id property hid]
  match id, hlt, hsubject with
  | 0, _, hsubject =>
    rw [Option.some.inj hsubject]
    exact iff_of_true ⟨6, Or.inr ((hancestor 6).mpr hthing), by decide⟩ (by decide)
  | 1, _, hsubject =>
    rw [Option.some.inj hsubject]
    exact iff_of_true ⟨8, Or.inr ((hancestor 8).mpr hcompany), by decide⟩ (by decide)
  | 2, _, hsubject =>
    rw [Option.some.inj hsubject]
    refine iff_of_false ?_ (by decide)
    -- nothing but a museum has exhibits
    have howner : ∀ d < 11, (hierarchy {} diamond).Owns d 2 → d = 10 := by decide
    rintro ⟨d, hd, howns⟩
    obtain rfl := howner d howns.lt_size howns
    exact hmuseum ((hancestor 10).mp (hd.resolve_left (by decide)))

end OntoTypes
