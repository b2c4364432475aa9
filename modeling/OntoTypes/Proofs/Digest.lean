import Mathlib.Data.Multiset.Count
import OntoTypes.Proofs.Outline

/-!
# What a module depends on

Of a topic only a digest reaches the module: its last comment, the identifiers it refers to, in
order, and the classes that own it if it is a property, in no order at all. Everything else —
labels, further values, further type tags, how references were interleaved — leaves no trace. The
outline of a class is a function of the digests, in which neither the numbers of classes nor the
positions of topics occur any more.

Main definitions and results:

* `Digest`, `Topic.digest` — what of a topic reaches the module;
* `outlineFor` — the outline of the class of an identifier, by digests;
* `outline_hierarchy` — which is the outline that the hierarchy gives it.
-/

namespace OntoTypes

/-- What of a topic reaches the module. -/
structure Digest where
  subject      : Term
  isClass      : Bool
  isProperty   : Bool
  comment      : Option String
  parents      : List String
  range        : List String
  domains      : Multiset String
  supersededBy : List Term
  /-- The class that the topic is a member of, if it is a member. -/
  memberOf     : Option String

/-- The identifiers that a topic refers to by edges of one kind. -/
def Topic.referenceTexts (word : Vocabulary) (topic : Topic) : List String :=
  (topic.references word).map Term.text

/-- The digest of a topic. -/
def Topic.digest (lang : String) (topic : Topic) : Digest :=
  { subject := topic.subject
    isClass := topic.isClass
    isProperty := topic.isProperty
    comment := (topic.comments lang).getLast?
    parents := topic.referenceTexts .subClassOf
    range := topic.referenceTexts .rangeIncludes
    domains := topic.referenceTexts .domainIncludes
    supersededBy := topic.references .supersededBy
    memberOf := topic.memberTag?.map Term.text }

namespace Digest

/-- The outline of the property that a topic describes. -/
def property (digest : Digest) : PropertyOutline :=
  { subject := digest.subject
    description := digest.comment
    range := digest.range.map .iri
    supersededBy := digest.supersededBy }

/-- The member that a topic describes. -/
def member (digest : Digest) : MemberNode := ⟨digest.subject, digest.comment⟩

end Digest

variable {namespaceIri : String} {digests : List Digest}

/-- The digests of the topics that classes are made of. -/
def classDigests (namespaceIri : String) (digests : List Digest) : List Digest :=
  digests.filter fun digest =>
    digest.isClass && !(builtinIdentifiers namespaceIri).contains digest.subject.text

/-- The digests of the topics about the class of an identifier. -/
def digestsAbout (namespaceIri : String) (digests : List Digest) (identifier : String) :
    List Digest :=
  (classDigests namespaceIri digests).filter (·.subject.text = identifier)

/-- One identifier is said to be a subclass of another. -/
def IsBelow (namespaceIri : String) (digests : List Digest) (child parent : String) : Prop :=
  ∃ digest ∈ classDigests namespaceIri digests,
    digest.subject.text = child ∧ parent ∈ digest.parents

/-- An identifier that nothing is below, and that is below no builtin data type. -/
def IsLeaf (namespaceIri : String) (digests : List Digest) (identifier : String) : Prop :=
  (∀ child, ¬ IsBelow namespaceIri digests child identifier) ∧
    ∀ builtin ∈ builtinIdentifiers namespaceIri,
      ¬ Relation.TransGen (IsBelow namespaceIri digests) identifier builtin

/-- The children of the class of an identifier, each as often as it names it as a parent. -/
def childrenFor (namespaceIri : String) (digests : List Digest) (identifier : String) :
    List Term :=
  (classDigests namespaceIri digests).flatMap fun digest =>
    List.replicate (digest.parents.count identifier) (.iri digest.subject.text)

/-- The properties of the class of an identifier, each as often as it names it as an owner. -/
def propertiesFor (digests : List Digest) (identifier : String) : List PropertyOutline :=
  (digests.filter (·.isProperty)).flatMap fun digest =>
    List.replicate (digest.domains.count identifier) digest.property

/-- The members of the class of an identifier. -/
def membersFor (digests : List Digest) (identifier : String) : List MemberNode :=
  (digests.filter fun digest => digest.memberOf = some identifier).map Digest.member

/-- The outline of the class of an identifier. -/
noncomputable def outlineFor (namespaceIri : String) (digests : List Digest)
    (identifier : String) : Outline :=
  { subject := .iri identifier
    primitive := (declaredNode namespaceIri identifier).primitive
    description := ((digestsAbout namespaceIri digests identifier).filterMap (·.comment)).getLast?
    parents := (digestsAbout namespaceIri digests identifier).flatMap fun digest =>
      digest.parents.map fun parent =>
        (.iri parent, (builtinIdentifiers namespaceIri).contains parent)
    children := sortBySubject id (childrenFor namespaceIri digests identifier)
    isLeaf := open Classical in decide (IsLeaf namespaceIri digests identifier)
    properties := sortBySubject PropertyOutline.subject (propertiesFor digests identifier)
    members := Text.sortOn Text.SortKey.compare (fun member => Text.SortKey.of member.value)
      (membersFor digests identifier)
    supersededBy := (digestsAbout namespaceIri digests identifier).flatMap fun digest =>
      digest.supersededBy.map fun target => .iri target.text }

/-! ## Digests of topics -/

variable {settings : Settings} {topics : List Topic}

/-- The digests of class topics are the class digests. -/
theorem classDigests_map_digest (namespaceIri lang : String) (topics : List Topic) :
    classDigests namespaceIri (topics.map (Topic.digest lang)) =
      (classTopics namespaceIri topics).map (Topic.digest lang) := by
  rw [classDigests, classTopics, List.filter_map]
  rfl

/-- The digests about an identifier are those of the topics about it. -/
theorem digestsAbout_map_digest (settings : Settings) (topics : List Topic)
    (identifier : String) :
    digestsAbout settings.namespaceIri (topics.map (Topic.digest settings.lang)) identifier =
      (topicsAbout settings topics identifier).map (Topic.digest settings.lang) := by
  rw [digestsAbout, topicsAbout, classDigests_map_digest, List.filter_map]
  rfl

/-- What is below what can be read off the digests. -/
theorem isBelow_map_digest_iff {lang child parent : String} :
    IsBelow namespaceIri (topics.map (Topic.digest lang)) child parent ↔
      IsSubclass namespaceIri topics child parent := by
  rw [IsBelow, classDigests_map_digest]
  simp only [List.mem_map, IsSubclass]
  constructor
  · rintro ⟨_, ⟨topic, htopic, rfl⟩, hsubject, hparent⟩
    exact ⟨topic, htopic, hsubject, List.mem_map.mp hparent⟩
  · rintro ⟨topic, htopic, hsubject, hparent⟩
    exact ⟨_, ⟨topic, htopic, rfl⟩, hsubject, List.mem_map.mpr hparent⟩

namespace Topic

/-- The classes that a topic refers to are found by the texts of its references. -/
theorem targets_eq_filterMap (find : String → Option ClassId) (word : Vocabulary)
    (topic : Topic) : topic.targets find word = (topic.referenceTexts word).filterMap find := by
  rw [targets_eq, referenceTexts, List.filterMap_map]
  rfl

/-- What is made of the classes that a topic refers to can be made of its references, if each of
them leads to a class. -/
theorem map_targets {find : String → Option ClassId} {word : Vocabulary} {topic : Topic}
    {f : ClassId → β} {g : String → β}
    (hfind : ∀ text ∈ topic.referenceTexts word, ∃ c, find text = some c ∧ f c = g text) :
    (topic.targets find word).map f = (topic.referenceTexts word).map g := by
  rw [targets_eq_filterMap]
  -- reference by reference, none of which is passed over
  generalize topic.referenceTexts word = texts at hfind
  induction texts with
  | nil => rfl
  | cons text texts ih =>
    obtain ⟨⟨c, hc, hfc⟩, hrest⟩ := List.forall_mem_cons.mp hfind
    rw [List.filterMap_cons_some hc, List.map_cons, List.map_cons, ih hrest, hfc]

/-- A class is referred to as often as its identifier. -/
theorem count_targets {word : Vocabulary} {topic : Topic} {identifier : String} {c : ClassId}
    (hc : classOf settings topics identifier = some c) :
    (topic.targets (classOf settings topics) word).count c =
      (topic.referenceTexts word).count identifier := by
  rw [targets_eq_filterMap]
  -- other identifiers have other classes
  induction topic.referenceTexts word with
  | nil => rfl
  | cons text texts ih =>
    by_cases htext : text = identifier
    · rw [List.filterMap_cons_some (htext ▸ hc), List.count_cons_self, ih, htext,
        List.count_cons_self]
    · rw [List.count_cons_of_ne htext, ← ih]
      cases hother : classOf settings topics text with
      | none => rw [List.filterMap_cons_none hother]
      | some d =>
        rw [List.filterMap_cons_some hother, List.count_cons_of_ne]
        rintro rfl
        exact htext (Registry.classOf_inj hother hc)

end Topic

/-! ## The outline of a class by digests -/

section

variable (h : Admissible settings topics) {identifier : String} {c : ClassId}
  (hc : classOf settings topics identifier = some c)
include h hc

/-- The record of the class of an identifier, as the topics have it. -/
theorem nodeOf_hierarchy :
    (hierarchy settings topics).nodeOf c = recordedNode settings topics identifier c := by
  rw [Registry.nodeOf, node?_hierarchy_of_classOf h hc]
  rfl

/-- Its subject is the identifier, whatever the topic about it is called. -/
theorem subjectOf_hierarchy : (hierarchy settings topics).subjectOf c = .iri identifier := by
  rw [← Registry.subject_nodeOf, nodeOf_hierarchy h hc]
  rfl

end

section

variable (h : Admissible settings topics)
include h

/-- What is declared leads to the class of its identifier. -/
theorem exists_class_of_isDeclared {identifier : String}
    (hid : IsDeclared settings.namespaceIri topics identifier) :
    ∃ c, classOf settings topics identifier = some c ∧
      (hierarchy settings topics).subjectOf c = .iri identifier ∧
      (hierarchy settings topics).isBuiltin c =
        (builtinIdentifiers settings.namespaceIri).contains identifier := by
  obtain ⟨c, hc⟩ := Option.isSome_iff_exists.mp (classOf_isSome_iff.mpr hid)
  refine ⟨c, hc, subjectOf_hierarchy h hc, ?_⟩
  rw [Bool.eq_iff_iff, Registry.isBuiltin_hierarchy_iff hc, List.contains_iff_mem]

/-- References of class topics are declared. -/
theorem isDeclared_of_mem_classTopics {topic : Topic}
    (htopic : topic ∈ classTopics settings.namespaceIri topics) {word : Vocabulary}
    (hword : word ∈ [Vocabulary.subClassOf, .supersededBy]) {text : String}
    (htext : text ∈ topic.referenceTexts word) :
    IsDeclared settings.namespaceIri topics text := by
  obtain ⟨node, hnode, rfl⟩ := List.mem_map.mp htext
  exact h.classes topic htopic word hword node hnode

/-- The parents of the class of an identifier are those of its digests. -/
theorem parents_recorded (identifier : String) :
    ((topicsAbout settings topics identifier).flatMap
        (Topic.targets (classOf settings topics) .subClassOf)).map
        (fun p =>
          ((hierarchy settings topics).subjectOf p, (hierarchy settings topics).isBuiltin p)) =
      ((topicsAbout settings topics identifier).map (Topic.digest settings.lang)).flatMap
        fun digest => digest.parents.map fun parent =>
          (.iri parent, (builtinIdentifiers settings.namespaceIri).contains parent) := by
  rw [List.map_flatMap, List.flatMap_map]
  -- topic by topic, and within a topic reference by reference
  refine List.flatMap_congr fun topic htopic => Topic.map_targets fun text htext => ?_
  have hclass := List.mem_of_mem_filter htopic
  obtain ⟨c, hc, hsubject, hbuiltin⟩ := exists_class_of_isDeclared h
    (isDeclared_of_mem_classTopics h hclass (by simp) htext)
  exact ⟨c, hc, by rw [hsubject, hbuiltin]⟩

/-- What the class of an identifier is superseded by is what its digests say. -/
theorem supersededBy_recorded (identifier : String) :
    ((topicsAbout settings topics identifier).flatMap
        (Topic.targets (classOf settings topics) .supersededBy)).map
        (hierarchy settings topics).subjectOf =
      ((topicsAbout settings topics identifier).map (Topic.digest settings.lang)).flatMap
        fun digest => digest.supersededBy.map fun target => .iri target.text := by
  rw [List.map_flatMap, List.flatMap_map]
  -- topic by topic, as for the parents
  refine List.flatMap_congr fun topic htopic => ?_
  have hclass := List.mem_of_mem_filter htopic
  rw [Topic.map_targets (g := .iri), Topic.referenceTexts, List.map_map]
  · rfl
  · intro text htext
    obtain ⟨c, hc, hsubject, -⟩ := exists_class_of_isDeclared h
      (isDeclared_of_mem_classTopics h hclass (by simp) htext)
    exact ⟨c, hc, hsubject⟩

/-- The children of the class of an identifier are those of the digests. -/
theorem children_recorded {identifier : String} {c : ClassId}
    (hc : classOf settings topics identifier = some c) :
    (recordedChildren settings topics c).map (hierarchy settings topics).subjectOf =
      childrenFor settings.namespaceIri (topics.map (Topic.digest settings.lang)) identifier := by
  rw [childrenFor, classDigests_map_digest, recordedChildren, List.map_flatMap, List.flatMap_map]
  -- a topic adds its own class, as often as it names the parent
  refine List.flatMap_congr fun topic htopic => ?_
  obtain ⟨hin, hclass, -⟩ := mem_classTopics.mp htopic
  obtain ⟨d, hd, hsubject, -⟩ := exists_class_of_isDeclared h
    (Or.inr ⟨topic, hin, hclass, rfl⟩ : IsDeclared _ topics topic.subject.text)
  rw [hd, Option.toList_some, List.flatMap_singleton, List.map_replicate, hsubject,
    Topic.count_targets hc]
  rfl

/-- A property has the outline that the digest of its topic gives it. -/
theorem propertyOutline_propertyNode {topic : Topic} (hin : topic ∈ topics)
    (hproperty : topic.isProperty = true) :
    (hierarchy settings topics).propertyOutline
        (topic.propertyNode settings.lang (classOf settings topics)) =
      (topic.digest settings.lang).property := by
  rw [Registry.propertyOutline, Topic.propertyNode, Digest.property, Topic.map_targets (g := .iri)]
  · rfl
  · -- the classes that the property ranges over are declared
    intro text htext
    obtain ⟨node, hnode, rfl⟩ := List.mem_map.mp htext
    obtain ⟨d, hd, hsubject, -⟩ := exists_class_of_isDeclared h
      (h.properties topic hin hproperty .rangeIncludes (by simp) node hnode)
    exact ⟨d, hd, hsubject⟩

omit h in
/-- A property is recorded where its topic stands among the topics about properties. -/
theorem getElem?_properties_hierarchy {topic : Topic} {id : PropertyId}
    (hmem : (topic, id) ∈ (topics.filter Topic.isProperty).zipIdx) :
    (hierarchy settings topics).properties[id]? =
      some (topic.propertyNode settings.lang (classOf settings topics)) := by
  have htopic := List.mk_mem_zipIdx_iff_getElem?.mp hmem
  simp only [hierarchy, describedProperties, List.getElem?_toArray, List.getElem?_map, htopic,
    Option.map_some]

/-- The properties of the class of an identifier are those of the digests. -/
theorem properties_recorded {identifier : String} {c : ClassId}
    (hc : classOf settings topics identifier = some c) :
    ((hierarchy settings topics).propertyNodes (recordedProperties settings topics c)).map
        (hierarchy settings topics).propertyOutline =
      propertiesFor (topics.map (Topic.digest settings.lang)) identifier := by
  -- the digests of properties are those of the topics about properties
  have hfilter : (topics.map (Topic.digest settings.lang)).filter (·.isProperty) =
      (topics.filter Topic.isProperty).map (Topic.digest settings.lang) := by
    rw [List.filter_map]
    rfl
  -- each topic contributes its property as often as it names the class as an owner
  have hentry : ∀ entry ∈ (topics.filter Topic.isProperty).zipIdx,
      (List.replicate ((entry.1.targets (classOf settings topics) .domainIncludes).count c)
          entry.2).filterMap ((hierarchy settings topics).properties[·]?) =
        List.replicate ((entry.1.referenceTexts .domainIncludes).count identifier)
          (entry.1.propertyNode settings.lang (classOf settings topics)) := by
    rintro ⟨topic, id⟩ hmem
    rw [List.filterMap_replicate_of_some (getElem?_properties_hierarchy hmem),
      Topic.count_targets hc]
  rw [propertiesFor, hfilter, recordedProperties, Registry.propertyNodes, List.filterMap_flatMap,
    List.flatMap_congr hentry, List.map_flatMap, List.flatMap_map]
  -- and the positions, which the registry needs, are left out
  have hunzip := List.flatMap_map (l := (topics.filter Topic.isProperty).zipIdx) (f := Prod.fst)
    (g := fun topic : Topic =>
      List.replicate ((topic.digest settings.lang).domains.count identifier)
        (topic.digest settings.lang).property)
  rw [List.zipIdx_map_fst] at hunzip
  refine Eq.trans (List.flatMap_congr ?_) hunzip.symm
  rintro ⟨topic, id⟩ hmem
  obtain ⟨hin, hproperty⟩ := List.mem_filter.mp (List.fst_mem_of_mem_zipIdx hmem)
  -- the owners are counted, and not listed, in a digest
  have hcount : (topic.digest settings.lang).domains.count identifier =
      (topic.referenceTexts .domainIncludes).count identifier := Multiset.coe_count ..
  rw [List.map_replicate, propertyOutline_propertyNode h hin hproperty, hcount]

omit h in
/-- The members of the class of an identifier are those of the digests. -/
theorem members_recorded {identifier : String} {c : ClassId}
    (hc : classOf settings topics identifier = some c) :
    recordedMembers settings topics c =
      membersFor (topics.map (Topic.digest settings.lang)) identifier := by
  -- a topic belongs to the class exactly if its digest names the identifier
  have hmember : ∀ topic : Topic, topic.memberOf? (classOf settings topics) = some c ↔
      (topic.digest settings.lang).memberOf = some identifier := by
    intro topic
    rw [Topic.memberOf?, Topic.digest]
    cases topic.memberTag? with
    | none => simp
    | some tag =>
      simp only [Option.bind_some, Option.map_some, Option.some.injEq]
      exact ⟨fun htag => Registry.classOf_inj htag hc, fun htag => htag ▸ hc⟩
  rw [membersFor, List.filter_map, List.map_map, recordedMembers]
  simp only [hmember]
  rfl

omit h in
/-- The last of many comments is the last of the last comments. -/
theorem description_recorded (identifier : String) :
    ((topicsAbout settings topics identifier).flatMap (Topic.comments settings.lang)).getLast? =
      (((topicsAbout settings topics identifier).map (Topic.digest settings.lang)).filterMap
        (·.comment)).getLast? := by
  rw [List.filterMap_map]
  induction topicsAbout settings topics identifier with
  | nil => rfl
  | cons topic rest ih =>
    rw [List.flatMap_cons, List.getLast?_append, ih]
    have hcomment : (topic.digest settings.lang).comment =
        (topic.comments settings.lang).getLast? := rfl
    -- a topic without comments leaves the last one of the others
    cases hlast : (topic.comments settings.lang).getLast? with
    | none =>
      rw [List.filterMap_cons_none (by simpa using hcomment.trans hlast), Option.or_none]
    | some text =>
      rw [List.filterMap_cons_some (b := text) (by simpa using hcomment.trans hlast),
        List.getLast?_cons]
      cases (rest.filterMap (Digest.comment ∘ Topic.digest settings.lang)).getLast? <;> rfl

/-- A class has no children if nothing names its identifier as a parent. -/
theorem isEmpty_children_hierarchy_iff {identifier : String} {c : ClassId}
    (hc : classOf settings topics identifier = some c) :
    ((hierarchy settings topics).children c).isEmpty = true ↔
      ∀ child, ¬ IsSubclass settings.namespaceIri topics child identifier := by
  have hwf := Registry.wellFormed_hierarchy h
  rw [List.isEmpty_iff, List.eq_nil_iff_forall_not_mem]
  simp only [hwf.mem_children_iff, Registry.hasParent_hierarchy_iff]
  constructor
  · -- what names the identifier as a parent has a class, which is a child
    intro hnone child hsub
    obtain ⟨d, hd⟩ := exists_classOf_of_isSubclass hsub
    exact hnone d ⟨child, identifier, hsub, hd, hc⟩
  · -- and a child has an identifier
    rintro hnone d ⟨child, parent, hsub, -, hparent⟩
    obtain rfl := Registry.classOf_inj hparent hc
    exact hnone child hsub

/-- A class is below a builtin data type if its identifier is. -/
theorem aliasesBuiltin_hierarchy_iff {identifier : String} {c : ClassId}
    (hc : classOf settings topics identifier = some c) :
    (hierarchy settings topics).aliasesBuiltin c = true ↔
      ∃ builtin ∈ builtinIdentifiers settings.namespaceIri,
        Relation.TransGen (IsSubclass settings.namespaceIri topics) identifier builtin := by
  have hwf := Registry.wellFormed_hierarchy h
  rw [Registry.aliasesBuiltin_iff hwf.parentsInRange hwf.acyclic]
  simp only [Registry.hasAncestor_hierarchy_iff]
  constructor
  · -- a path of classes is one of their identifiers
    rintro ⟨b, ⟨i, j, hij, hi, hj⟩, hb⟩
    obtain rfl := Registry.classOf_inj hi hc
    exact ⟨j, (Registry.isBuiltin_hierarchy_iff hj).mp hb, hij⟩
  · -- and back, as every data type has its class
    rintro ⟨builtin, hbuiltin, hpath⟩
    obtain ⟨b, hb, -⟩ := exists_class_of_isDeclared h
      (Or.inl hbuiltin : IsDeclared _ topics builtin)
    exact ⟨b, ⟨identifier, builtin, hpath, hc, hb⟩,
      (Registry.isBuiltin_hierarchy_iff hb).mpr hbuiltin⟩

/-- Leaves are told by the digests. -/
theorem isLeaf_hierarchy {identifier : String} {c : ClassId}
    (hc : classOf settings topics identifier = some c) :
    (hierarchy settings topics).isLeaf c = true ↔
      IsLeaf settings.namespaceIri (topics.map (Topic.digest settings.lang)) identifier := by
  -- the digests tell what is below what
  have hbelow : IsBelow settings.namespaceIri (topics.map (Topic.digest settings.lang)) =
      IsSubclass settings.namespaceIri topics := by
    funext child parent
    exact propext isBelow_map_digest_iff
  rw [Registry.isLeaf_eq, Bool.and_eq_true, Bool.not_eq_true', ← Bool.not_eq_true,
    isEmpty_children_hierarchy_iff h hc, aliasesBuiltin_hierarchy_iff h hc, IsLeaf, hbelow]
  refine and_congr_right fun _ => ?_
  push Not
  rfl

/-- **The outline of a class is a function of the digests.** What the topics say in another order,
or in other words, gives the same outlines as long as it has the same digests. -/
theorem outline_hierarchy {identifier : String} {c : ClassId}
    (hc : classOf settings topics identifier = some c) :
    (hierarchy settings topics).outline c =
      outlineFor settings.namespaceIri (topics.map (Topic.digest settings.lang)) identifier := by
  classical
  have hleaf : (hierarchy settings topics).isLeaf c =
      decide (IsLeaf settings.namespaceIri (topics.map (Topic.digest settings.lang))
        identifier) := by
    rw [Bool.eq_iff_iff, isLeaf_hierarchy h hc, decide_eq_true_iff]
  rw [Registry.outline, nodeOf_hierarchy h hc, outlineFor, hleaf, digestsAbout_map_digest,
    ← description_recorded, ← parents_recorded h, ← supersededBy_recorded h,
    ← children_recorded h hc, ← properties_recorded h hc, ← members_recorded hc]
  rfl

end

end OntoTypes
