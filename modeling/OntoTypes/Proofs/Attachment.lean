import OntoTypes.Proofs.ClassGraph
import OntoTypes.Proofs.Linked

/-!
# How properties are shared out

A property is recorded once, whatever the number of classes that own it. What is recorded about it
is what its topic refers to, reference by reference: the classes that it ranges over, the classes
that own it, and what supersedes it. A class has the properties that count it among their owners, as
often as they do, in the order of their topics; a builtin data type does so like any other class.
A class that has given up its place to a later one is no owner, since references lead to the class
that is registered, and so it has no properties.

Main definitions and results:

* `Registry.RecordsProperty` — a property that is recorded as its topic describes it;
* `Registry.ownedBy` — the properties that count a class among their owners;
* `distributes_registryOf` — the properties of some topics, shared out to their owners.
-/

namespace OntoTypes

namespace Registry

/-- A property that is recorded as its topic describes it. All that the topic refers to is
registered. -/
structure RecordsProperty (registry : Registry) (topic : Topic) (property : PropertyNode) :
    Prop where
  subject : property.subject = topic.subject
  range : property.range.map some =
    (topic.references .rangeIncludes).map (registry.get? ·.text)
  owners : property.owners.map some =
    (topic.references .domainIncludes).map (registry.get? ·.text)
  supersededBy : property.supersededBy = topic.references .supersededBy

/-- The properties that count a class among their owners, each as often as it does. -/
def ownedBy (registry : Registry) (c : ClassId) : List PropertyId :=
  registry.properties.toList.zipIdx.flatMap fun (property, id) =>
    List.replicate (property.owners.count c) id

/-- The properties of some topics, shared out to the classes that own them. -/
structure Distributes (registry : Registry) (topics : List Topic) : Prop where
  /-- There is one property for each topic about a property, in the order of the topics. -/
  recorded : List.Forall₂ registry.RecordsProperty (topics.filter Topic.isProperty)
    registry.properties.toList
  /-- A class, registered or not, has the properties that it owns. -/
  attached : ∀ c node, registry.node? c = some node → node.properties = registry.ownedBy c
  /-- Of every registered class it is known which properties it has. -/
  present : ∀ c ∈ registry.registered, (registry.node? c).isSome

end Registry

variable {settings : Settings} {topics : List Topic}

namespace Registry

/-- No class is declared with properties or members. -/
theorem unattached_declared {namespaceIri : String} {c : ClassId} {node : ClassNode}
    (hnode : (declared namespaceIri topics).node? c = some node) :
    node.properties = [] ∧ node.members = [] := by
  rcases List.mem_append.mp ((registers_declared namespaceIri topics).mem c node hnode)
    with hmem | hmem
  · -- a data type, as it is seeded
    obtain ⟨primitive, -, rfl⟩ := List.mem_map.mp hmem
    exact ⟨rfl, rfl⟩
  · -- the class of a topic, as it is declared
    obtain ⟨topic, -, rfl⟩ := List.mem_map.mp hmem
    exact ⟨rfl, rfl⟩

/-- What is attached to a class, even to one that is not registered any more, is what the topics
say. Edits are asked of classes and not of identifiers, so nothing here depends on which class an
identifier leads to. -/
theorem attached_hierarchy {c : ClassId} {node : ClassNode}
    (hnode : (hierarchy settings topics).node? c = some node) :
    node.properties = recordedProperties settings topics c ∧
      node.members = recordedMembers settings topics c := by
  -- the edits of a class are all that separates it from what has been declared
  have hedited : (hierarchy settings topics).node? c =
      ((declared settings.namespaceIri topics).node? c).map
        (ClassNode.edited c (edits settings topics)) := Edit.node?_performAll ..
  rw [hedited] at hnode
  obtain ⟨before, hbefore, rfl⟩ := Option.map_eq_some_iff.mp hnode
  obtain ⟨hproperties, hmembers⟩ := unattached_declared hbefore
  rw [ClassNode.edited, filterMap_property?_edits, filterMap_member?_edits, hproperties, hmembers]
  exact ⟨List.nil_append _, List.nil_append _⟩

/-- In a well-formed registry there is a record of every registered class. -/
theorem isSome_node?_of_registered {registry : Registry} (h : registry.WellFormed) {c : ClassId}
    (hc : c ∈ registry.registered) : (registry.node? c).isSome := by
  obtain ⟨node, hnode, -⟩ := h.named c hc
  exact Option.isSome_iff_exists.mpr ⟨node, hnode⟩

/-- A property is recorded as its topic describes it if the topic refers to declared classes. -/
theorem recordsProperty_hierarchy {topic : Topic}
    (hresolves : topic.Resolves (classOf settings topics) [.rangeIncludes, .domainIncludes]) :
    (hierarchy settings topics).RecordsProperty topic
      (topic.propertyNode settings.lang (classOf settings topics)) where
  subject := rfl
  range := by
    rw [get?_hierarchy]
    exact Topic.map_some_targets hresolves (by simp)
  owners := by
    rw [get?_hierarchy]
    exact Topic.map_some_targets hresolves (by simp)
  supersededBy := rfl

/-- What topics say about the owners of properties is recorded with the properties. -/
theorem ownedBy_hierarchy (c : ClassId) :
    (hierarchy settings topics).ownedBy c = recordedProperties settings topics c := by
  -- there is one property for each topic about a property, and both lists number them alike
  have hproperties : (hierarchy settings topics).properties.toList =
      (topics.filter Topic.isProperty).map
        (Topic.propertyNode settings.lang (classOf settings topics)) := rfl
  rw [ownedBy, hproperties, List.zipIdx_map, List.flatMap_map, recordedProperties]
  rfl

end Registry

/-- **Properties are shared out as their topics say.** If a hierarchy comes about, there is exactly
one property for each topic about a property. It ranges over the registered classes that the topic
names, in the order in which they are named, and likewise for its owners and for what supersedes it.
Every class has the properties that count it among their owners, each as often as they do, in the
order of the topics, and no others.

The lists of a property and those of a class are two records of one thing, kept in two places; that
they agree is what `Distributes.attached` says. -/
theorem distributes_registryOf {registry : Registry}
    (hregistry : (registryOf settings topics).outcome = .ok registry) :
    registry.Distributes topics := by
  obtain ⟨hadmissible, rfl⟩ := outcome_registryOf_eq_ok_iff.mp hregistry
  refine { recorded := ?_, attached := ?_, present := ?_ }
  · -- properties are recorded in the order of their topics, so both lists are gone through at once
    show List.Forall₂ _ _ ((topics.filter Topic.isProperty).map _)
    rw [List.forall₂_map_right_iff, List.forall₂_same]
    intro topic htopic
    obtain ⟨hin, hproperty⟩ := List.mem_filter.mp htopic
    exact Registry.recordsProperty_hierarchy
      (resolves_classOf_iff.mpr (hadmissible.properties topic hin hproperty))
  · -- what is attached to a class, once from the edits and once from the owners on record
    intro c node hnode
    rw [(Registry.attached_hierarchy hnode).1, Registry.ownedBy_hierarchy]
  · exact fun c hc =>
      Registry.isSome_node?_of_registered (Registry.wellFormed_hierarchy hadmissible) hc

/-- A class that is declared twice and one below it; a property that names the latter as an owner
twice, with the other one in between, and that ranges over something that is no class; a property of
a builtin data type; and one of nothing. -/
def sharedNames : List Topic := [
  { subject := .iri "http://schema.org/Thing", types := [.iri classType] },
  { subject := .iri "http://schema.org/Thing", types := [.iri classType] },
  { subject := .iri "http://schema.org/Place", types := [.iri classType],
    values := [⟨.known .subClassOf, .iri "http://schema.org/Thing"⟩] },
  { subject := .iri "http://schema.org/name", types := [.iri propertyType],
    values := [⟨.known .domainIncludes, .iri "http://schema.org/Place"⟩,
      ⟨.known .rangeIncludes, .literal { lexical := "anything" }⟩,
      ⟨.known .rangeIncludes, .iri "http://schema.org/Text"⟩,
      ⟨.known .domainIncludes, .iri "http://schema.org/Thing"⟩,
      ⟨.known .supersededBy, .iri "http://schema.org/title"⟩,
      ⟨.known .domainIncludes, .iri "http://schema.org/Place"⟩] },
  { subject := .iri "http://schema.org/length", types := [.iri propertyType],
    values := [⟨.known .domainIncludes, .iri "http://schema.org/Text"⟩,
      ⟨.known .domainIncludes, .iri "http://schema.org/Place"⟩] },
  { subject := .iri "http://schema.org/unused", types := [.iri propertyType] }]

theorem admissible_sharedNames : Admissible {} sharedNames where
  nonempty := by decide
  nameable := by decide
  classes := by decide
  acyclic := acyclic_of_rank (fun identifier => if identifier = "http://schema.org/Place" then 1
    else 0) (by decide)
  properties := by decide
  members := by
    have hmembers : ∀ topic ∈ sharedNames, ∀ tag ∈ topic.memberTag?,
        IsDeclared "http://schema.org/" sharedNames tag.text := by decide
    exact hmembers

/-- The class that names are shared by has one of them twice, the data type has one too, and the
class that has been declared first has none. -/
theorem distributes_registryOf_sharedNames :
    ∃ registry, (registryOf {} sharedNames).outcome = .ok registry ∧
      registry.Distributes sharedNames ∧
      registry.properties.toList.map (·.owners) = [[8, 7, 8], [0, 8], []] ∧
      registry.registered = [0, 1, 2, 3, 4, 5, 7, 8] ∧
      registry.classes.toList.map (·.properties) =
        [[1], [], [], [], [], [], [], [0], [0, 0, 1]] := by
  have hregistry := outcome_registryOf_eq_ok_iff.mpr ⟨admissible_sharedNames, rfl⟩
  exact ⟨_, hregistry, distributes_registryOf hregistry, by decide, by decide, by decide⟩

end OntoTypes
