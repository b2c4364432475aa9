import OntoTypes.Proofs.Recorded

/-!
# Well-formed hierarchies

What every finished hierarchy satisfies, whatever the topics it was built from: its classes can be
named, nothing refers to a class that is not registered, each edge is recorded on both of its ends
equally often, builtin data types stay at the top, and no class is above itself. The declarations of
a hierarchy are made from these facts alone.

Main results:

* `wellFormed_hierarchy` — the hierarchy of admissible topics is well-formed;
* `WellFormed.mem_children_iff` — children are the classes of which one is a parent.
-/

namespace OntoTypes

namespace Registry

/-- A leaf has no children, and is no other name of a builtin data type. -/
theorem isLeaf_eq (registry : Registry) (c : ClassId) :
    registry.isLeaf c = ((registry.children c).isEmpty && !registry.aliasesBuiltin c) :=
  rfl

/-- What the declarations of a hierarchy rely on. A class that has lost its identifier to a later
one may still have its place in the registry, but no edge starts or ends there, and no declaration
is made of it. -/
structure WellFormed (registry : Registry) : Prop where
  /-- Registered classes can be named, and their identifiers lead back to them. -/
  named : ∀ c ∈ registry.registered, ∃ node, registry.node? c = some node ∧
    IsNameable node.subject ∧ registry.get? node.subject.text = some c
  /-- No class is registered twice. -/
  nodup : registry.registered.Nodup
  /-- Edges join registered classes. -/
  edge : ∀ c p, registry.HasParent c p → c ∈ registry.registered ∧ p ∈ registry.registered
  /-- An edge is recorded on both of its ends. -/
  mirror : ∀ c p, (registry.parents c).count p = (registry.children p).count c
  /-- Classes are superseded by registered classes. -/
  superseding : ∀ c ∈ registry.registered, ∀ node, registry.node? c = some node →
    ∀ d ∈ node.supersededBy, d ∈ registry.registered
  /-- The properties of classes are recorded. -/
  owned : ∀ c ∈ registry.registered, ∀ node, registry.node? c = some node →
    ∀ id ∈ node.properties, id < registry.properties.size
  /-- Properties range over registered classes. -/
  range : ∀ property ∈ registry.properties, ∀ c ∈ property.range, c ∈ registry.registered
  /-- Builtin data types have no parents. -/
  builtin : ∀ c, registry.isBuiltin c = true → registry.parents c = []
  acyclic : registry.Acyclic

/-- Whether a class is builtin can be read off its record. -/
theorem isBuiltin_of_node? {registry : Registry} {c : ClassId} {node : ClassNode}
    (h : registry.node? c = some node) : registry.isBuiltin c = node.isBuiltin := by
  rw [isBuiltin, h]
  rfl

namespace WellFormed

variable {registry : Registry} (h : registry.WellFormed)
include h

/-- Children are the classes of which one is a parent. -/
theorem mem_children_iff {c p : ClassId} : c ∈ registry.children p ↔ registry.HasParent c p := by
  rw [HasParent, ← List.count_pos_iff, ← List.count_pos_iff, h.mirror]

/-- Every parent is one of the classes there are. -/
theorem parentsInRange : registry.ParentsInRange := by
  intro c p hp
  obtain ⟨node, hnode, -⟩ := h.named p (h.edge c p hp).2
  exact lt_size_of_node? hnode

end WellFormed

end Registry

/-! ## The hierarchy of some topics -/

variable {settings : Settings} {topics : List Topic}

namespace Registry

/-- The classes of a hierarchy are those that have been declared. -/
theorem registered_hierarchy (settings : Settings) (topics : List Topic) :
    (hierarchy settings topics).registered =
      (declared settings.namespaceIri topics).registered := by
  have hindex : (hierarchy settings topics).index =
      (declared settings.namespaceIri topics).index := Edit.index_performAll ..
  rw [registered, hindex, registered]

/-- Its identifiers lead to the classes that they led to before any edit. -/
theorem get?_hierarchy (settings : Settings) (topics : List Topic) :
    (hierarchy settings topics).get? = classOf settings topics :=
  Edit.get?_performAll ..

/-- The registered classes are those of identifiers. -/
theorem mem_registered_iff {c : ClassId} :
    c ∈ (hierarchy settings topics).registered ↔
      ∃ identifier, classOf settings topics identifier = some c := by
  have hkeys := (registers_declared settings.namespaceIri topics).keys
  rw [registered_hierarchy]
  -- identifiers are not repeated, so the entries of the index are what it finds
  simp only [registered, List.mem_map, classOf, get?, Keyed.lookup_eq_some_iff_mem hkeys]
  constructor
  · rintro ⟨⟨identifier, d⟩, hmem, rfl⟩
    exact ⟨identifier, hmem⟩
  · rintro ⟨identifier, hmem⟩
    exact ⟨_, hmem, rfl⟩

/-- Classes are registered one for each identifier. -/
theorem nodup_registered_hierarchy (settings : Settings) (topics : List Topic) :
    (hierarchy settings topics).registered.Nodup := by
  have hkeys := (registers_declared settings.namespaceIri topics).keys
  rw [registered_hierarchy, registered]
  refine (List.Nodup.of_map Prod.fst hkeys).map_on ?_
  rintro ⟨a, c⟩ ha ⟨b, d⟩ hb rfl
  have ha' : classOf settings topics a = some c := (Keyed.lookup_eq_some_iff_mem hkeys).mpr ha
  have hb' : classOf settings topics b = some c := (Keyed.lookup_eq_some_iff_mem hkeys).mpr hb
  rw [classOf_inj ha' hb']

/-- The graph of a hierarchy is the subclass relation of its topics. -/
theorem hasParent_hierarchy_iff {c p : ClassId} :
    (hierarchy settings topics).HasParent c p ↔
      ∃ child parent, IsSubclass settings.namespaceIri topics child parent ∧
        classOf settings topics child = some c ∧ classOf settings topics parent = some p :=
  hasParent_performAll_declared fun _ _ => link_mem_edits_iff

/-- What is above a class is what is above its identifier. -/
theorem hasAncestor_hierarchy_iff {c a : ClassId} :
    (hierarchy settings topics).HasAncestor c a ↔
      ∃ i j, Relation.TransGen (IsSubclass settings.namespaceIri topics) i j ∧
        classOf settings topics i = some c ∧ classOf settings topics j = some a :=
  hasAncestor_performAll_declared_iff fun _ _ => link_mem_edits_iff

/-- The classes of a hierarchy are builtin exactly if their identifiers are. -/
theorem isBuiltin_hierarchy_iff {identifier : String} {c : ClassId}
    (hc : classOf settings topics identifier = some c) :
    (hierarchy settings topics).isBuiltin c = true ↔
      identifier ∈ builtinIdentifiers settings.namespaceIri := by
  have hsame : (hierarchy settings topics).isBuiltin c =
      (declared settings.namespaceIri topics).isBuiltin c := isBuiltin_performAll ..
  have hget : (declared settings.namespaceIri topics).get? identifier = some c := hc
  have hkeeps := keepsBuiltins_declared settings.namespaceIri topics identifier
  rw [hsame, ← List.contains_iff_mem, ← hkeeps, hget, Option.any_some]

/-- No class is declared with children. -/
theorem children_declared (namespaceIri : String) (topics : List Topic) (c : ClassId) :
    (declared namespaceIri topics).children c = [] := by
  rw [children]
  cases hnode : (declared namespaceIri topics).node? c with
  | none => rfl
  | some node => exact (unlinked_declared hnode).2

/-- The edges of a hierarchy join declared classes. -/
theorem inRange_edits : ∀ edit ∈ edits settings topics,
    edit.InRange (declared settings.namespaceIri topics).classes.size := by
  intro edit hedit
  cases edit with
  | link c p => exact inRange_classEdits _ (link_mem_edits_iff.mp hedit)
  | _ => trivial

/-- The parents of a class are those that edits give it. -/
theorem parents_hierarchy_eq (settings : Settings) (topics : List Topic) (c : ClassId) :
    (hierarchy settings topics).parents c =
      (edits settings topics).filterMap (Edit.parent? c) := by
  refine (Edit.parents_performAll inRange_edits c).trans ?_
  rw [parents_declared, List.nil_append]

/-- The children of a class are those that edits give it. -/
theorem children_hierarchy_eq (settings : Settings) (topics : List Topic) (p : ClassId) :
    (hierarchy settings topics).children p =
      (edits settings topics).filterMap (Edit.child? p) := by
  refine (Edit.children_performAll inRange_edits p).trans ?_
  rw [children_declared, List.nil_append]

/-- Classes that topics refer to are registered. -/
theorem registered_of_mem_targets {topic : Topic} {word : Vocabulary} {c : ClassId}
    (hc : c ∈ topic.targets (classOf settings topics) word) :
    c ∈ (hierarchy settings topics).registered := by
  rw [Topic.targets_eq] at hc
  obtain ⟨node, -, hnode⟩ := List.mem_filterMap.mp hc
  exact mem_registered_iff.mpr ⟨node.text, hnode⟩

/-- An identifier that ends in no mark has a local name. -/
theorem localName_ne_empty {iri : String} {c : Char} (hlast : iri.toList.getLast? = some c)
    (hc : c ≠ '#' ∧ c ≠ '/') : Text.localName iri ≠ "" := by
  obtain ⟨init, hinit⟩ := List.getLast?_eq_some_iff.mp hlast
  -- the last character is kept by cutting at a mark that it is not
  have hmark : ∀ mark : Char, c ≠ mark → Text.afterLast mark iri.toList ≠ [] := by
    intro mark hne
    simp [Text.afterLast, hinit, hne]
  rw [Text.localName, ← String.toList_inj.ne, String.toList_ofList]
  split
  · exact hmark '#' hc.1
  · exact hmark '/' hc.2

/-- The names of the catalogue end in letters. -/
private theorem getLast?_catalogue : ∀ primitive ∈ catalogue,
    ∃ c, primitive.name.toList.getLast? = some c ∧ c ≠ '#' ∧ c ≠ '/' := by
  have hall : ∀ primitive ∈ catalogue, (primitive.name.toList.getLast?.any fun c =>
      c ≠ '#' && c ≠ '/') = true := by decide
  intro primitive hmem
  obtain ⟨c, hlast, hc⟩ := Option.any_eq_true _ _ |>.mp (hall primitive hmem)
  exact ⟨c, hlast, by simpa using hc⟩

/-- The identifiers of declared classes can be named. -/
theorem isNameable_of_isDeclared (h : Admissible settings topics) {identifier : String}
    (hid : IsDeclared settings.namespaceIri topics identifier) : IsNameable (.iri identifier) := by
  by_cases hb : identifier ∈ builtinIdentifiers settings.namespaceIri
  · -- a data type ends as its name in the catalogue does, whatever the namespace
    obtain ⟨primitive, hprimitive, rfl⟩ := List.mem_map.mp hb
    obtain ⟨c, hlast, hc⟩ := getLast?_catalogue primitive hprimitive
    refine ⟨_, rfl, localName_ne_empty (c := c) ?_ hc⟩
    rw [String.toList_append, List.getLast?_append, hlast]
    rfl
  · -- any other class has been named by its topic
    obtain ⟨topic, hin, hclass, rfl⟩ := hid.resolve_left hb
    have hn := h.nameable topic (mem_classTopics.mpr ⟨hin, hclass, hb⟩)
    rw [← hn.eq_iri]
    exact hn

/-- **The hierarchy of admissible topics is well-formed.** Each fact comes from what the hierarchy
records about a class (`node?_hierarchy_of_classOf`) or from the edits that have been performed;
that it has no cycles is the only one that is asked of the topics as it stands. -/
theorem wellFormed_hierarchy (h : Admissible settings topics) :
    (hierarchy settings topics).WellFormed where
  named := by
    intro c hc
    obtain ⟨identifier, hid⟩ := mem_registered_iff.mp hc
    refine ⟨_, node?_hierarchy_of_classOf h hid, ?_, ?_⟩
    · refine isNameable_of_isDeclared h (classOf_isSome_iff.mp ?_)
      rw [hid]
      rfl
    · rw [get?_hierarchy]
      exact hid
  nodup := nodup_registered_hierarchy settings topics
  edge := by
    intro c p hp
    -- both ends have identifiers
    obtain ⟨child, parent, -, hc, hp⟩ := hasParent_hierarchy_iff.mp hp
    exact ⟨mem_registered_iff.mpr ⟨child, hc⟩, mem_registered_iff.mpr ⟨parent, hp⟩⟩
  mirror := by
    intro c p
    -- one and the same edit makes the parent and the child
    rw [parents_hierarchy_eq, children_hierarchy_eq, Edit.count_filterMap_parent?]
  superseding := by
    intro c hc node hnode d hd
    obtain ⟨identifier, hid⟩ := mem_registered_iff.mp hc
    rw [node?_hierarchy_of_classOf h hid] at hnode
    obtain rfl := Option.some.inj hnode
    -- what supersedes a class is named by one of its topics
    obtain ⟨topic, -, htarget⟩ := List.mem_flatMap.mp hd
    exact registered_of_mem_targets htarget
  owned := by
    intro c hc node hnode id hmem
    obtain ⟨identifier, hid⟩ := mem_registered_iff.mp hc
    rw [node?_hierarchy_of_classOf h hid] at hnode
    obtain rfl := Option.some.inj hnode
    -- properties are numbered by the positions of their topics
    obtain ⟨⟨topic, i⟩, hi, hrep⟩ := List.mem_flatMap.mp hmem
    obtain rfl := List.eq_of_mem_replicate hrep
    simpa [hierarchy, describedProperties] using (List.mem_zipIdx hi).2.1
  range := by
    intro property hmem c hc
    -- the properties of a hierarchy are those of its topics
    have hmem' : property ∈ describedProperties settings topics := by
      simpa [hierarchy] using hmem
    obtain ⟨topic, -, rfl⟩ := List.mem_map.mp hmem'
    exact registered_of_mem_targets hc
  builtin := by
    intro c hb
    rw [List.eq_nil_iff_forall_not_mem]
    intro p hp
    -- an edge starts at a class topic, which is about no data type
    obtain ⟨child, parent, ⟨topic, htopic, rfl, -⟩, hc, -⟩ := hasParent_hierarchy_iff.mp hp
    exact (mem_classTopics.mp htopic).2.2 ((isBuiltin_hierarchy_iff hc).mp hb)
  acyclic := (acyclic_performAll_declared_iff fun _ _ => link_mem_edits_iff).mpr h.acyclic

end Registry

end OntoTypes
