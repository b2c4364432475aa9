import OntoTypes.Proofs.Declaring

/-!
# The hierarchy of some topics

The three passes, read at once. A hierarchy comes about exactly if the topics are admissible, a
condition on the topics alone that mentions neither passes nor registries; and it is then a single
expression: the declared classes, with all edits that the topics ask for performed on them.

Main results:

* `ofTopics_eq_ok_iff` — when a hierarchy comes about, and which one;
* `node?_hierarchy` — what it records about the class of an identifier.
-/

namespace OntoTypes

/-- One identifier is said to be a subclass of another. -/
def IsSubclass (namespaceIri : String) (topics : List Topic) (child parent : String) : Prop :=
  ∃ topic ∈ classTopics namespaceIri topics, topic.subject.text = child ∧
    ∃ node ∈ topic.references .subClassOf, node.text = parent

/-- There is no cycle of classes if they can be ranked with every class above its parents. -/
theorem acyclic_of_rank {namespaceIri : String} {topics : List Topic} (rank : String → Nat)
    (hrank : ∀ topic ∈ classTopics namespaceIri topics, ∀ node ∈ topic.references .subClassOf,
      rank node.text < rank topic.subject.text) (identifier : String) :
    ¬ Relation.TransGen (IsSubclass namespaceIri topics) identifier identifier := by
  have hstep : ∀ a b, IsSubclass namespaceIri topics a b → rank b < rank a := by
    rintro _ _ ⟨topic, htopic, rfl, node, hnode, rfl⟩
    exact hrank topic htopic node hnode
  -- every step up lowers the rank, and so does every path
  have hrun : ∀ a b, Relation.TransGen (IsSubclass namespaceIri topics) a b → rank b < rank a := by
    intro a b hab
    induction hab with
    | single hab => exact hstep _ _ hab
    | tail _ hbc ih => exact (hstep _ _ hbc).trans ih
  exact fun hcycle => lt_irrefl _ (hrun identifier identifier hcycle)

/-- What has to hold of some topics for there to be a module for them. -/
structure Admissible (settings : Settings) (topics : List Topic) : Prop where
  /-- There is a topic about a class. -/
  nonempty : ∃ topic ∈ topics, topic.isClass = true
  /-- All classes but the builtin ones can be named. -/
  nameable : ∀ topic ∈ classTopics settings.namespaceIri topics, IsNameable topic.subject
  /-- Classes have declared parents and are superseded by declared classes. -/
  classes : ∀ topic ∈ classTopics settings.namespaceIri topics,
    ∀ word ∈ [Vocabulary.subClassOf, .supersededBy], ∀ node ∈ topic.references word,
      IsDeclared settings.namespaceIri topics node.text
  /-- No class is, at some remove, a subclass of itself. -/
  acyclic : ∀ identifier,
    ¬ Relation.TransGen (IsSubclass settings.namespaceIri topics) identifier identifier
  /-- Properties range over declared classes and are owned by declared classes. -/
  properties : ∀ topic ∈ topics, topic.isProperty = true →
    ∀ word ∈ [Vocabulary.rangeIncludes, .domainIncludes], ∀ node ∈ topic.references word,
      IsDeclared settings.namespaceIri topics node.text
  /-- Members are members of declared classes. -/
  members : ∀ topic ∈ topics, ∀ tag, topic.memberTag? = some tag →
    IsDeclared settings.namespaceIri topics tag.text

/-- The class that is declared under an identifier, for some topics. -/
def classOf (settings : Settings) (topics : List Topic) : String → Option ClassId :=
  (Registry.declared settings.namespaceIri topics).get?

/-- The edits that topics ask of their own classes. -/
def classEdits (settings : Settings) (topics : List Topic) : List Edit :=
  (classTopics settings.namespaceIri topics).flatMap
    (Topic.classEdits settings.lang (classOf settings topics))

/-- The edits that attach the properties which topics describe. -/
def propertyEdits (settings : Settings) (topics : List Topic) : List Edit :=
  (topics.filter Topic.isProperty).zipIdx.flatMap fun (topic, id) =>
    topic.propertyEdits (classOf settings topics) id

/-- The edits that attach the members which topics describe. -/
def memberEdits (settings : Settings) (topics : List Topic) : List Edit :=
  topics.flatMap (Topic.memberEdits settings.lang (classOf settings topics))

/-- All edits that topics ask for. -/
def edits (settings : Settings) (topics : List Topic) : List Edit :=
  classEdits settings topics ++ propertyEdits settings topics ++ memberEdits settings topics

/-- The properties that topics describe. -/
def describedProperties (settings : Settings) (topics : List Topic) : List PropertyNode :=
  (topics.filter Topic.isProperty).map
    (Topic.propertyNode settings.lang (classOf settings topics))

/-- The hierarchy of some topics, if they are admissible. -/
def hierarchy (settings : Settings) (topics : List Topic) : Registry :=
  { Edit.performAll (.declared settings.namespaceIri topics) (edits settings topics) with
    properties := (describedProperties settings topics).toArray
    isFrozen := true }

variable {settings : Settings} {topics : List Topic}

/-- The identifiers that have a class are those that are declared. -/
theorem classOf_isSome_iff {identifier : String} :
    (classOf settings topics identifier).isSome ↔
      IsDeclared settings.namespaceIri topics identifier :=
  Registry.get?_declared_isSome_iff

/-- References resolve exactly if what they refer to is declared. -/
theorem resolves_classOf_iff {topic : Topic} {words : List Vocabulary} :
    topic.Resolves (classOf settings topics) words ↔
      ∀ word ∈ words, ∀ node ∈ topic.references word,
        IsDeclared settings.namespaceIri topics node.text := by
  simp only [Topic.resolves_iff, classOf_isSome_iff]

/-- What only some items ask for is asked for by these items. -/
theorem flatMap_ite {wanted : α → Prop} [DecidablePred wanted] (f : α → List β)
    (items : List α) :
    items.flatMap (fun a => if wanted a then f a else []) =
      (items.filter fun a => wanted a).flatMap f := by
  induction items with
  | nil => rfl
  | cons a items ih => by_cases h : wanted a <;> simp [h, ih]

namespace Registry

/-! ## The class pass -/

/-- Edits make no class a builtin data type, and none an ordinary class. -/
@[simp] theorem isBuiltin_performAll (registry : Registry) (edits : List Edit) (c : ClassId) :
    (Edit.performAll registry edits).isBuiltin c = registry.isBuiltin c := by
  rw [isBuiltin, Edit.node?_performAll, isBuiltin]
  cases registry.node? c <;> rfl

/-- So the identifiers of data types stay theirs while edits are performed. -/
theorem KeepsBuiltins.performAll {namespaceIri : String} {registry : Registry}
    (h : KeepsBuiltins namespaceIri registry) (edits : List Edit) :
    KeepsBuiltins namespaceIri (Edit.performAll registry edits) := by
  intro identifier
  rw [Edit.get?_performAll, ← h identifier]
  simp only [funext (isBuiltin_performAll registry edits)]

/-- And they stay theirs while the classes of topics are declared. -/
theorem keepsBuiltins_declared (namespaceIri : String) (topics : List Topic) :
    KeepsBuiltins namespaceIri (declared namespaceIri topics) := by
  -- one class after another, on top of a registry that keeps the identifiers already
  have hall : ∀ (subjects : List Topic) (registry : Registry), KeepsBuiltins namespaceIri registry →
      (∀ topic ∈ subjects, topic.subject.text ∉ builtinIdentifiers namespaceIri) →
      KeepsBuiltins namespaceIri
        (registry.registerAll (subjects.map fun topic => { subject := topic.subject })) := by
    intro subjects
    induction subjects with
    | nil => exact fun _ h _ => h
    | cons topic subjects ih =>
      intro registry h hnot
      obtain ⟨hfirst, hrest⟩ := List.forall_mem_cons.mp hnot
      exact ih _ (h.register hfirst) hrest
  rw [← registerAll_seeded]
  exact hall _ _ (keepsBuiltins_seeded namespaceIri) fun _ h => (mem_classTopics.mp h).2.2

/-- The class of a topic follows its references exactly if they resolve and the edits they ask for
go through; a builtin data type follows none. -/
theorem completeTopic_eq_ok_iff {namespaceIri : String} {registry registry' : Registry}
    (hk : KeepsBuiltins namespaceIri registry) (hf : registry.isFrozen = false) {topic : Topic}
    (hs : (registry.get? topic.subject.text).isSome) :
    registry.completeTopic settings topic = .ok registry' ↔
      if topic.subject.text ∈ builtinIdentifiers namespaceIri then registry' = registry
      else topic.Resolves registry.get? [.subClassOf, .supersededBy] ∧
        Edit.applyAll registry (topic.classEdits settings.lang registry.get?) = .ok registry' := by
  obtain ⟨c, hc⟩ := Option.isSome_iff_exists.mp hs
  have hbuiltin : registry.isBuiltin c = true ↔
      topic.subject.text ∈ builtinIdentifiers namespaceIri := by
    rw [← List.contains_iff_mem, ← hk, hc, Option.any_some]
  unfold completeTopic Topic.classEdits
  -- the class of the topic is there, so the only question is whether it is builtin
  simp only [hc, hbuiltin]
  split
  · simpa using eq_comm
  · rw [foldlM_receive_eq_ok_iff hf]
    rfl

/-- Classes follow their references exactly if these resolve and the edits they ask for go
through. -/
theorem foldlM_completeTopic_eq_ok_iff {registry : Registry} :
    (topics.filter Topic.isClass).foldlM (completeTopic settings)
        (declared settings.namespaceIri topics) = .ok registry ↔
      (∀ topic ∈ classTopics settings.namespaceIri topics,
        topic.Resolves (classOf settings topics) [.subClassOf, .supersededBy]) ∧
      Edit.applyAll (declared settings.namespaceIri topics) (classEdits settings topics) =
        .ok registry := by
  -- the topic of a builtin data type is gone through as well, and asks for no edits
  let builtin := builtinIdentifiers settings.namespaceIri
  let wanted (topic : Topic) : List Edit :=
    if topic.subject.text ∉ builtin then topic.classEdits settings.lang (classOf settings topics)
    else []
  have hwanted : (topics.filter Topic.isClass).flatMap wanted =
      classEdits settings topics := by
    rw [flatMap_ite, List.filter_filter, classEdits, classTopics]
    congr 1
    apply List.filter_congr
    intro topic _
    simp [builtin, Bool.and_comm]
  -- following references keeps the identifiers and the builtin data types what they are
  rw [Edit.foldlM_eq_ok_iff
    (fun r => r.isFrozen = false ∧ r.get? = classOf settings topics ∧
      KeepsBuiltins settings.namespaceIri r)
    (fun topic => topic.subject.text ∉ builtin →
      topic.Resolves (classOf settings topics) [.subClassOf, .supersededBy])
    wanted, hwanted]
  · -- the needs of the topics that are gone through are those of the class topics
    simp only [List.mem_filter, and_imp, mem_classTopics]
    rfl
  · exact fun _ h => h.1
  · rintro r edits ⟨hf, hget, hk⟩
    exact ⟨by simpa using hf, by simpa using hget, hk.performAll edits⟩
  · rintro topic htopic r r' ⟨hf, hget, hk⟩
    obtain ⟨hin, hclass⟩ := List.mem_filter.mp htopic
    -- the class that the topic is about has been declared
    have hs : (r.get? topic.subject.text).isSome := by
      rw [hget, classOf_isSome_iff]
      exact Or.inr ⟨topic, hin, hclass, rfl⟩
    rw [completeTopic_eq_ok_iff hk hf hs, hget]
    -- a builtin data type asks for nothing
    by_cases hb : topic.subject.text ∈ builtin
    · simp only [wanted, not_true, hb, if_false]
      simpa [hb, Edit.applyAll, pure, Except.pure, builtin] using eq_comm
    · simp only [wanted, if_pos hb]
      simp [hb, builtin]
  · -- and all of it holds to begin with
    exact ⟨(registers_declared ..).unfrozen, rfl, keepsBuiltins_declared _ _⟩

/-! ## The graph of the class pass -/

/-- No class is declared with parents or children. -/
theorem unlinked_declared {namespaceIri : String} {c : ClassId} {node : ClassNode}
    (hnode : (declared namespaceIri topics).node? c = some node) :
    node.parents = [] ∧ node.children = [] := by
  -- a declared class is of the catalogue or of a topic, and comes without edges either way
  rcases List.mem_append.mp ((registers_declared namespaceIri topics).mem c node hnode)
    with hmem | hmem
  · obtain ⟨primitive, -, rfl⟩ := List.mem_map.mp hmem
    exact ⟨rfl, rfl⟩
  · obtain ⟨topic, -, rfl⟩ := List.mem_map.mp hmem
    exact ⟨rfl, rfl⟩

/-- No class is declared with parents. -/
theorem parents_declared (namespaceIri : String) (topics : List Topic) (c : ClassId) :
    (declared namespaceIri topics).parents c = [] := by
  rw [parents]
  cases hnode : (declared namespaceIri topics).node? c with
  | none => rfl
  | some node => exact (unlinked_declared hnode).1

/-- There are no edges before references are followed. -/
theorem not_hasParent_declared {namespaceIri : String} {c p : ClassId} :
    ¬ (declared namespaceIri topics).HasParent c p := by
  simp [HasParent, parents_declared]

/-- What the lemmas on edits ask of the graph they start from holds of a graph without edges. -/
theorem parentsInRange_declared (namespaceIri : String) (topics : List Topic) :
    (declared namespaceIri topics).ParentsInRange :=
  fun _ _ h => absurd h not_hasParent_declared

/-- A graph without edges has no cycles. -/
theorem acyclic_declared (namespaceIri : String) (topics : List Topic) :
    (declared namespaceIri topics).Acyclic := by
  intro c hc
  obtain ⟨p, hp, -⟩ := Relation.TransGen.head'_iff.mp hc
  exact not_hasParent_declared hp

/-- The classes of identifiers are classes of the registry. -/
theorem lt_size_of_classOf {identifier : String} {c : ClassId}
    (h : classOf settings topics identifier = some c) :
    c < (declared settings.namespaceIri topics).classes.size := by
  obtain ⟨node, -, hnode, -⟩ :=
    (registers_declared settings.namespaceIri topics).node identifier c h
  exact lt_size_of_node? hnode

/-- Different identifiers have different classes. -/
theorem classOf_inj {a b : String} {c : ClassId} (ha : classOf settings topics a = some c)
    (hb : classOf settings topics b = some c) : a = b := by
  obtain ⟨node, -, hnode, htext⟩ := (registers_declared settings.namespaceIri topics).node a c ha
  obtain ⟨node', -, hnode', htext'⟩ := (registers_declared settings.namespaceIri topics).node b c hb
  rw [hnode] at hnode'
  rw [← htext, ← htext', Option.some.inj hnode']

end Registry

/-- The edges that a topic asks for are those from its own class to the classes it refers to. -/
theorem Topic.link_mem_classEdits {lang : String} {find : String → Option ClassId} {topic : Topic}
    {c p : ClassId} :
    .link c p ∈ topic.classEdits lang find ↔
      find topic.subject.text = some c ∧
        ∃ node ∈ topic.references .subClassOf, find node.text = some p := by
  -- of the three things that a value can ask for, one is an edge
  have hvalue : ∀ (d : ClassId) (value : Value), .link c p ∈ value.classEdits lang find d ↔
      d = c ∧ value.target? find .subClassOf = some p := by
    intro d value
    simp [Value.classEdits, and_comm, eq_comm]
  unfold Topic.classEdits
  cases hfind : find topic.subject.text with
  | none => simp
  | some d =>
    simp only [List.mem_flatMap, hvalue, Value.target?, Option.bind_eq_some_iff, Topic.references,
      List.mem_filterMap, Option.some.injEq]
    constructor
    · rintro ⟨value, hv, rfl, node, hnode, hp⟩
      exact ⟨rfl, node, ⟨value, hv, hnode⟩, hp⟩
    · rintro ⟨rfl, node, ⟨value, hv, hnode⟩, hp⟩
      exact ⟨value, hv, rfl, node, hnode, hp⟩

/-- The class pass asks for the edges that the topics speak of, put in terms of identifiers. -/
theorem link_mem_classEdits_iff {c p : ClassId} :
    .link c p ∈ classEdits settings topics ↔
      ∃ child parent, IsSubclass settings.namespaceIri topics child parent ∧
        classOf settings topics child = some c ∧ classOf settings topics parent = some p := by
  simp only [classEdits, List.mem_flatMap, Topic.link_mem_classEdits]
  constructor
  · rintro ⟨topic, htopic, hc, node, hnode, hp⟩
    exact ⟨_, _, ⟨topic, htopic, rfl, node, hnode, rfl⟩, hc, hp⟩
  · rintro ⟨_, _, ⟨topic, htopic, rfl, node, hnode, rfl⟩, hc, hp⟩
    exact ⟨topic, htopic, hc, node, hnode, hp⟩

/-- The edges of the class pass join declared classes. -/
theorem inRange_classEdits :
    ∀ edit ∈ classEdits settings topics,
      edit.InRange (Registry.declared settings.namespaceIri topics).classes.size := by
  intro edit hedit
  cases edit with
  | link c p =>
    obtain ⟨child, parent, -, hc, hp⟩ := link_mem_classEdits_iff.mp hedit
    exact ⟨Registry.lt_size_of_classOf hc, Registry.lt_size_of_classOf hp⟩
  | _ => trivial

/-- Properties and members add no edges. -/
theorem link_mem_edits_iff {c p : ClassId} :
    .link c p ∈ edits settings topics ↔ .link c p ∈ classEdits settings topics := by
  -- attaching something to a class is no edge
  have hproperties : .link c p ∉ propertyEdits settings topics := by
    simp [propertyEdits, Topic.propertyEdits]
  have hmembers : .link c p ∉ memberEdits settings topics := by
    intro h
    obtain ⟨topic, -, hedit⟩ := List.mem_flatMap.mp h
    obtain ⟨owner, -, heq⟩ := Option.map_eq_some_iff.mp (Option.mem_toList.mp hedit)
    cases heq
  simp [edits, hproperties, hmembers]

/-- The parents of a class are the classes of the identifiers it is said to be a subclass of. -/
theorem hasParent_performAll_declared {edits : List Edit}
    (hlink : ∀ c p, .link c p ∈ edits ↔ .link c p ∈ classEdits settings topics) {c p : ClassId} :
    (Edit.performAll (.declared settings.namespaceIri topics) edits).HasParent c p ↔
      ∃ child parent, IsSubclass settings.namespaceIri topics child parent ∧
        classOf settings topics child = some c ∧ classOf settings topics parent = some p := by
  -- the edges join declared classes, so the lemma on performed edits applies
  have hrange : ∀ edit ∈ edits,
      edit.InRange (Registry.declared settings.namespaceIri topics).classes.size := by
    intro edit hedit
    cases edit with
    | link c p => exact inRange_classEdits _ ((hlink c p).mp hedit)
    | _ => trivial
  rw [Edit.hasParent_performAll hrange, hlink, link_mem_classEdits_iff,
    or_iff_right Registry.not_hasParent_declared]

/-- Identifiers that have a superclass are declared. -/
theorem exists_classOf_of_isSubclass {child parent : String}
    (h : IsSubclass settings.namespaceIri topics child parent) :
    ∃ c, classOf settings topics child = some c := by
  obtain ⟨topic, htopic, rfl, -⟩ := h
  obtain ⟨hin, hclass, -⟩ := mem_classTopics.mp htopic
  exact Option.isSome_iff_exists.mp (classOf_isSome_iff.mpr (Or.inr ⟨topic, hin, hclass, rfl⟩))

/-- A class is above another exactly if their identifiers are. `edits` may be any edits with the
edges of the class pass, so that the lemma serves the hierarchy after each of the passes. -/
theorem hasAncestor_performAll_declared_iff {edits : List Edit}
    (hlink : ∀ c p, .link c p ∈ edits ↔ .link c p ∈ classEdits settings topics) {c a : ClassId} :
    (Edit.performAll (.declared settings.namespaceIri topics) edits).HasAncestor c a ↔
      ∃ i j, Relation.TransGen (IsSubclass settings.namespaceIri topics) i j ∧
        classOf settings topics i = some c ∧ classOf settings topics j = some a := by
  have hparent := fun c p => hasParent_performAll_declared (c := c) (p := p) hlink
  constructor
  · intro h
    induction h with
    | single h =>
      obtain ⟨i, j, hsub, hi, hj⟩ := (hparent _ _).mp h
      exact ⟨i, j, .single hsub, hi, hj⟩
    | tail _ h ih =>
      -- the class in between is the class of one identifier only
      obtain ⟨i, j, hij, hi, hj⟩ := ih
      obtain ⟨j', k, hsub, hj', hk⟩ := (hparent _ _).mp h
      obtain rfl := Registry.classOf_inj hj hj'
      exact ⟨i, k, hij.tail hsub, hi, hk⟩
  · rintro ⟨i, j, hij, hi, hj⟩
    -- every identifier on the way has a class, as it has a superclass
    induction hij generalizing a with
    | single hsub => exact .single ((hparent _ _).mpr ⟨_, _, hsub, hi, hj⟩)
    | tail _ hsub ih =>
      obtain ⟨b, hb⟩ := exists_classOf_of_isSubclass hsub
      exact (ih hb).tail ((hparent _ _).mpr ⟨_, _, hsub, hb, hj⟩)

/-- The graph of the classes is acyclic exactly if the one of the identifiers is. -/
theorem acyclic_performAll_declared_iff {edits : List Edit}
    (hlink : ∀ c p, .link c p ∈ edits ↔ .link c p ∈ classEdits settings topics) :
    (Edit.performAll (.declared settings.namespaceIri topics) edits).Acyclic ↔
      ∀ identifier,
        ¬ Relation.TransGen (IsSubclass settings.namespaceIri topics) identifier identifier := by
  constructor
  · intro ha identifier hcycle
    -- a cycle of identifiers starts at one that has a class
    obtain ⟨parent, hsub, -⟩ := Relation.TransGen.head'_iff.mp hcycle
    obtain ⟨c, hc⟩ := exists_classOf_of_isSubclass hsub
    exact ha c ((hasAncestor_performAll_declared_iff hlink).mpr ⟨_, _, hcycle, hc, hc⟩)
  · intro ha c hcycle
    obtain ⟨i, j, hij, hi, hj⟩ := (hasAncestor_performAll_declared_iff hlink).mp hcycle
    -- a class has one identifier, so the path leads back to the identifier that it started from
    obtain rfl := Registry.classOf_inj hi hj
    exact ha i hij

/-! ## The passes for properties and members -/

namespace Registry

/-- What is done to classes does not depend on the properties that are recorded. -/
private theorem performAll_with_properties (registry : Registry)
    (properties : Array PropertyNode) (edits : List Edit) :
    Edit.performAll { registry with properties := properties } edits =
      { Edit.performAll registry edits with properties := properties } := by
  induction edits generalizing registry with
  | nil => rfl
  | cons edit edits ih =>
    have hstep : edit.perform { registry with properties := properties } =
        { edit.perform registry with properties := properties } := by
      cases edit <;> rfl
    rw [Edit.performAll, List.foldl_cons, ← Edit.performAll, hstep, ih]
    rfl

/-- Properties are attached exactly if their references resolve. -/
theorem foldlM_attachPropertyOf_eq_ok_iff {registry registry' : Registry}
    (hf : registry.isFrozen = false) {describing : List Topic} :
    describing.foldlM (attachPropertyOf settings) registry = .ok registry' ↔
      (∀ topic ∈ describing,
        topic.Resolves registry.get? [.rangeIncludes, .domainIncludes]) ∧
      registry' =
        { Edit.performAll registry
            ((describing.zipIdx registry.properties.size).flatMap fun (topic, id) =>
              topic.propertyEdits registry.get? id) with
          properties := registry.properties ++
            describing.map (Topic.propertyNode settings.lang registry.get?) } := by
  induction describing generalizing registry with
  | nil => simpa [Edit.performAll, pure, Except.pure] using eq_comm
  | cons topic describing ih =>
    rw [List.foldlM_cons, List.forall_mem_cons]
    change Except.bind _ _ = _ ↔ _
    simp only [bind_eq_ok_iff, attachPropertyOf_eq_ok_iff hf, and_assoc, exists_and_left,
      exists_eq_left]
    -- the first property takes the next number, and the others are numbered after it
    apply and_congr_right'
    rw [ih (by simpa [pushProperty] using hf)]
    -- references lead to the same classes after the first property as before it
    have hget : ∀ property, ((Edit.performAll registry
        (topic.propertyEdits registry.get? registry.properties.size)).pushProperty property).get? =
          registry.get? := fun _ => Edit.get?_performAll ..
    rw [hget, pushProperty, performAll_with_properties, List.zipIdx_cons, List.flatMap_cons,
      Edit.performAll_append]
    simp

/-- Members are attached exactly if their type tags resolve. -/
theorem foldlM_attachMemberOf_eq_ok_iff {registry registry' : Registry}
    (hf : registry.isFrozen = false) {describing : List Topic} :
    describing.foldlM (attachMemberOf settings) registry = .ok registry' ↔
      (∀ topic ∈ describing, ∀ tag, topic.memberTag? = some tag →
        (registry.get? tag.text).isSome) ∧
      registry' = Edit.performAll registry
        (describing.flatMap (Topic.memberEdits settings.lang registry.get?)) := by
  induction describing generalizing registry with
  | nil => simpa [Edit.performAll, pure, Except.pure] using eq_comm
  | cons topic describing ih =>
    rw [List.foldlM_cons, List.forall_mem_cons]
    change Except.bind _ _ = _ ↔ _
    simp only [bind_eq_ok_iff, attachMemberOf_eq_ok_iff hf, and_assoc, exists_and_left,
      exists_eq_left]
    -- so they do after the first member
    apply and_congr_right'
    rw [ih (by simpa using hf), Edit.get?_performAll, List.flatMap_cons, Edit.performAll_append]

/-- Only topics with the type tag of a member describe one. -/
theorem flatMap_memberEdits (find : String → Option ClassId) :
    (topics.filter fun topic => hasMemberType topic.types).flatMap
        (Topic.memberEdits settings.lang find) =
      topics.flatMap (Topic.memberEdits settings.lang find) := by
  induction topics with
  | nil => rfl
  | cons topic topics ih =>
    by_cases h : hasMemberType topic.types = true
    · rw [List.filter_cons, if_pos h, List.flatMap_cons, List.flatMap_cons, ih]
    · -- a topic without such a tag asks for no edit, so it can be left out
      have hnone : topic.memberTag? = none := by
        simpa [Topic.hasMemberType_iff] using h
      rw [List.filter_cons, if_neg h, List.flatMap_cons, ih, Topic.memberEdits, hnone]
      rfl

/-! ## All passes -/

/-- The class pass succeeds exactly if its classes can be named, refer to declared classes, and are
in no cycle. -/
theorem buildClasses_eq_ok_iff {registry : Registry} :
    buildClasses settings topics (seeded settings.namespaceIri) = .ok registry ↔
      (∃ topic ∈ topics, topic.isClass = true) ∧
      (∀ topic ∈ classTopics settings.namespaceIri topics, IsNameable topic.subject) ∧
      (∀ topic ∈ classTopics settings.namespaceIri topics,
        topic.Resolves (classOf settings topics) [.subClassOf, .supersededBy]) ∧
      (Edit.performAll (declared settings.namespaceIri topics)
        (classEdits settings topics)).Acyclic ∧
      registry = Edit.performAll (declared settings.namespaceIri topics)
        (classEdits settings topics) := by
  unfold buildClasses
  by_cases hempty : (topics.filter Topic.isClass).isEmpty = true
  · -- without a topic about a class, the pass fails at once
    have hnone : ¬ ∃ topic ∈ topics, topic.isClass = true := by simpa using hempty
    simp [hempty, hnone]
  · have hsome : ∃ topic ∈ topics, topic.isClass = true := by simpa using hempty
    -- no edge is there yet, so what can go wrong is a cycle among the new ones
    have happly : Edit.applyAll (.declared settings.namespaceIri topics)
        (classEdits settings topics) = .ok registry ↔ _ := Edit.applyAll_eq_ok_iff
      (registers_declared settings.namespaceIri topics).unfrozen
      (parentsInRange_declared settings.namespaceIri topics)
      (acyclic_declared settings.namespaceIri topics) inRange_classEdits
    simp only [hempty, Bool.false_eq_true, if_false, hsome, true_and, bind_eq_ok_iff,
      foldlM_declareTopic_eq_ok_iff (keepsBuiltins_seeded settings.namespaceIri)
        (registers_seeded settings.namespaceIri).unfrozen, and_assoc, exists_and_left,
      exists_eq_left, registerAll_seeded, foldlM_completeTopic_eq_ok_iff, happly]

/-- The classes of some topics with the properties that they own. -/
def owning (settings : Settings) (topics : List Topic) : Registry :=
  { Edit.performAll (declared settings.namespaceIri topics)
      (classEdits settings topics ++ propertyEdits settings topics) with
    properties := (describedProperties settings topics).toArray }

/-- The property pass succeeds exactly if the references of properties resolve. -/
theorem attachProperties_eq_ok_iff {registry : Registry} :
    attachProperties settings topics (Edit.performAll (declared settings.namespaceIri topics)
        (classEdits settings topics)) = .ok registry ↔
      (∀ topic ∈ topics, topic.isProperty = true →
        topic.Resolves (classOf settings topics) [.rangeIncludes, .domainIncludes]) ∧
      registry = owning settings topics := by
  have hreg := registers_declared settings.namespaceIri topics
  have hget : (Edit.performAll (declared settings.namespaceIri topics)
      (classEdits settings topics)).get? = classOf settings topics :=
    Edit.get?_performAll ..
  unfold attachProperties
  rw [foldlM_attachPropertyOf_eq_ok_iff (by rw [Edit.isFrozen_performAll, hreg.unfrozen]), hget,
    Edit.properties_performAll, hreg.properties, owning, Edit.performAll_append]
  simp [propertyEdits, describedProperties]

/-- The member pass succeeds exactly if the type tags of members resolve. -/
theorem attachMembers_eq_ok_iff {registry : Registry} :
    attachMembers settings topics (owning settings topics) = .ok registry ↔
      (∀ topic ∈ topics, ∀ tag, topic.memberTag? = some tag →
        (classOf settings topics tag.text).isSome) ∧
      registry = Edit.performAll (owning settings topics)
        (memberEdits settings topics) := by
  have hreg := registers_declared settings.namespaceIri topics
  have hf : (owning settings topics).isFrozen = false := by
    rw [owning, Edit.isFrozen_performAll, hreg.unfrozen]
  have hget : (owning settings topics).get? = classOf settings topics := Edit.get?_performAll ..
  -- of a topic that the pass leaves out nothing is asked
  have htagged : ∀ topic : Topic, (∀ tag, topic.memberTag? = some tag →
      (classOf settings topics tag.text).isSome) ↔ (hasMemberType topic.types = true →
        ∀ tag, topic.memberTag? = some tag → (classOf settings topics tag.text).isSome) := by
    intro topic
    rw [Topic.hasMemberType_iff]
    exact ⟨fun h _ => h, fun h tag htag => h (by rw [htag]; rfl) tag htag⟩
  unfold attachMembers
  rw [foldlM_attachMemberOf_eq_ok_iff hf, hget, flatMap_memberEdits]
  simp only [List.mem_filter, and_imp, ← htagged, memberEdits]

/-- The hierarchy is what the last pass leaves, made read-only. -/
theorem freeze_performAll_owning (settings : Settings) (topics : List Topic) :
    (Edit.performAll (owning settings topics) (memberEdits settings topics)).freeze =
      hierarchy settings topics := by
  rw [owning, performAll_with_properties, ← Edit.performAll_append, hierarchy, edits]
  rfl

/-- **A hierarchy comes about exactly if the topics are admissible**, and then it is the declared
classes with all edits performed that the topics ask for. Everything that is said about hierarchies
later on starts from this expression, and not from the passes. -/
theorem ofTopics_eq_ok_iff {registry : Registry} :
    ofTopics settings topics = .ok registry ↔
      Admissible settings topics ∧ registry = hierarchy settings topics := by
  have hpasses : ofTopics settings topics =
      (buildClasses settings topics (seeded settings.namespaceIri)).bind fun completed =>
        (attachProperties settings topics completed).bind fun owning =>
          (attachMembers settings topics owning).bind fun enumerated => .ok enumerated.freeze := by
    rw [ofTopics, seed_empty]
    rfl
  -- each pass says what it needs and what it leaves; admissibility is all of the needs
  rw [hpasses]
  simp only [bind_eq_ok_iff, buildClasses_eq_ok_iff, and_assoc, exists_and_left, exists_eq_left,
    attachProperties_eq_ok_iff, attachMembers_eq_ok_iff, freeze_performAll_owning,
    Except.ok.injEq]
  constructor
  · -- what the passes need, put in terms of identifiers
    rintro ⟨hne, hn, hc, ha, hp, hm, rfl⟩
    refine ⟨⟨hne, hn, fun topic h => resolves_classOf_iff.mp (hc topic h),
      (acyclic_performAll_declared_iff fun _ _ => Iff.rfl).mp ha,
      fun topic h hprop => resolves_classOf_iff.mp (hp topic h hprop),
      fun topic h tag htag => classOf_isSome_iff.mp (hm topic h tag htag)⟩, rfl⟩
  · rintro ⟨⟨hne, hn, hc, ha, hp, hm⟩, rfl⟩
    exact ⟨hne, hn, fun topic h => resolves_classOf_iff.mpr (hc topic h),
      (acyclic_performAll_declared_iff fun _ _ => Iff.rfl).mpr ha,
      fun topic h hprop => resolves_classOf_iff.mpr (hp topic h hprop),
      fun topic h tag htag => classOf_isSome_iff.mpr (hm topic h tag htag), rfl⟩

end Registry

end OntoTypes
