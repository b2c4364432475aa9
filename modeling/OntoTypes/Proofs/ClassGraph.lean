import OntoTypes.Proofs.Recorded

/-!
# The graph of the class pass

What the class pass leaves behind is a picture of the topics. The registry holds the builtin data
types and then one class for each class topic, in order; the edges of a class are the references of
its topic, and an edge that is recorded on a child is recorded on its parent too. A builtin data
type stays as it was seeded, whatever topics there are about it: it can get children, and nothing
else.

Main definitions and results:

* `Registry.index_registerAll` — classes of different identifiers are registered one by one;
* `Registry.Reflects` — what the registry records about the class topics;
* `reflects_buildClasses` — the class pass leaves nothing else behind.
-/

namespace OntoTypes

namespace Registry

/-! ## The index -/

/-- A class with a new identifier comes last. -/
theorem keys_register_of_not_mem {registry : Registry} {node : ClassNode}
    (h : node.subject.text ∉ Keyed.keys registry.index) :
    Keyed.keys (registry.register node).index =
      Keyed.keys registry.index ++ [node.subject.text] := by
  rw [register, Keyed.keys_set, if_neg h]

/-- Classes of different identifiers are registered one by one, in the order in which they come. -/
theorem index_registerAll {registry : Registry} {nodes : List ClassNode}
    (h : (Keyed.keys registry.index ++ nodes.map (·.subject.text)).Nodup) :
    (registry.registerAll nodes).index =
      registry.index ++ (nodes.zipIdx registry.classes.size).map fun (node, c) =>
        (node.subject.text, c) := by
  induction nodes generalizing registry with
  | nil => rw [List.zipIdx_nil, List.map_nil, List.append_nil]; rfl
  | cons node nodes ih =>
    -- no class of before has the identifier of the new one
    have hnew : node.subject.text ∉ Keyed.keys registry.index := by
      intro hmem
      exact List.disjoint_of_nodup_append h hmem (List.mem_map_of_mem (List.mem_cons_self ..))
    -- a new identifier goes to the end of the index, and the others are numbered after it
    have hindex : (registry.register node).index =
        registry.index ++ [(node.subject.text, registry.classes.size)] :=
      Keyed.set_of_not_mem hnew _
    have hsize : (registry.register node).classes.size = registry.classes.size + 1 :=
      Array.size_push ..
    have hrest : (Keyed.keys (registry.register node).index ++
        nodes.map (·.subject.text)).Nodup := by
      rw [keys_register_of_not_mem hnew, List.append_assoc]
      exact h
    rw [registerAll, List.foldl_cons, ← registerAll, ih hrest, hindex, hsize, List.append_assoc]
    rfl

/-- Each class that is registered takes one more place. -/
theorem size_registerAll (registry : Registry) (nodes : List ClassNode) :
    (registry.registerAll nodes).classes.size = registry.classes.size + nodes.length := by
  -- one class at a time, on top of any registry
  induction nodes generalizing registry with
  | nil => rfl
  | cons node nodes ih =>
    have hsize : (registry.register node).classes.size = registry.classes.size + 1 :=
      Array.size_push ..
    rw [registerAll, List.foldl_cons, ← registerAll, ih, hsize, List.length_cons]
    omega

/-! ## What the class pass leaves behind -/

/-- What `registry` records about the class topics among `topics`, seen from `start`, which holds
the builtin data types under a namespace and nothing else. -/
structure Reflects (namespaceIri lang : String) (topics : List Topic) (start registry : Registry) :
    Prop where
  /-- The builtin data types come first, in the order of the catalogue, and then the classes of the
  other class topics. -/
  identifiers : Keyed.keys registry.index =
    builtinIdentifiers namespaceIri ++ (classTopics namespaceIri topics).map (·.subject.text)
  /-- There are no other classes than those that are registered. -/
  registered : registry.registered = List.range registry.classes.size
  /-- The edges of a class are the references of its topic, and it is described by the last comment
  of its topic. -/
  classes : ∀ topic ∈ classTopics namespaceIri topics, ∃ c node,
    registry.get? topic.subject.text = some c ∧ registry.node? c = some node ∧
      node.subject = topic.subject ∧ node.primitive = none ∧
      node.parents.map some = (topic.references .subClassOf).map (registry.get? ·.text) ∧
      node.supersededBy.map some = (topic.references .supersededBy).map (registry.get? ·.text) ∧
      node.description = (topic.comments lang).getLast?
  /-- The children of a class are the classes whose topics refer to it, each as often as its topic
  does. -/
  children : ∀ p node, registry.node? p = some node →
    node.children = (classTopics namespaceIri topics).flatMap fun topic =>
      (topic.references .subClassOf).filterMap fun object =>
        if registry.get? object.text = some p then registry.get? topic.subject.text else none
  /-- Builtin data types keep their places, and children are all that they get. -/
  builtins : ∀ primitive ∈ catalogue, ∃ c node,
    start.get? (namespaceIri ++ primitive.name) = some c ∧
      registry.get? (namespaceIri ++ primitive.name) = some c ∧
      start.node? c = some (builtinNode namespaceIri primitive) ∧
      registry.node? c = some node ∧ node.subject = .iri (namespaceIri ++ primitive.name) ∧
      node.primitive = some primitive ∧ node.parents = [] ∧ node.supersededBy = [] ∧
      node.description = none

variable {namespaceIri : String} {topics : List Topic}

/-- The data types of the catalogue have different identifiers. -/
theorem nodup_builtinIdentifiers (namespaceIri : String) :
    (builtinIdentifiers namespaceIri).Nodup := by
  have hnames : (catalogue.map Primitive.name).Nodup := by decide
  have hinjective : Function.Injective (namespaceIri ++ ·) := by
    intro a b h
    simpa using h
  have hmap : builtinIdentifiers namespaceIri =
      (catalogue.map Primitive.name).map (namespaceIri ++ ·) := by
    rw [List.map_map]
    rfl
  rw [hmap]
  exact hnames.map hinjective

/-- The identifiers of what is declared: those of the catalogue, and then those of the class topics.
-/
theorem text_declaredNodes (namespaceIri : String) (topics : List Topic) :
    (declaredNodes namespaceIri topics).map (·.subject.text) =
      builtinIdentifiers namespaceIri ++
        (classTopics namespaceIri topics).map (·.subject.text) := by
  rw [declaredNodes, List.map_append, List.map_map, List.map_map]
  rfl

section

variable (hdistinct : (topics.map (·.subject.text)).Nodup)
include hdistinct

/-- No two classes are declared under one identifier. -/
theorem nodup_declaredNodes :
    ((declaredNodes namespaceIri topics).map (·.subject.text)).Nodup := by
  rw [text_declaredNodes]
  refine List.nodup_append.mpr ⟨nodup_builtinIdentifiers namespaceIri, ?_, ?_⟩
  · -- the class topics are some of the topics
    exact hdistinct.sublist (List.filter_sublist.map _)
  · -- a class topic is about no data type of the catalogue
    rintro _ hbuiltin _ hmem rfl
    obtain ⟨topic, htopic, htext⟩ := List.mem_map.mp hmem
    exact (mem_classTopics.mp htopic).2.2 (htext ▸ hbuiltin)

/-- The classes of different topics are declared one by one. -/
theorem index_declared :
    (declared namespaceIri topics).index =
      (declaredNodes namespaceIri topics).zipIdx.map fun (node, c) => (node.subject.text, c) := by
  rw [declared, index_registerAll]
  · rfl
  · exact nodup_declaredNodes hdistinct

/-- If no two topics have one identifier, each of them is registered once and in this order. -/
theorem keys_declared :
    Keyed.keys (declared namespaceIri topics).index =
      builtinIdentifiers namespaceIri ++
        (classTopics namespaceIri topics).map (·.subject.text) := by
  have hkeys : Keyed.keys (declared namespaceIri topics).index =
      ((declaredNodes namespaceIri topics).zipIdx.map Prod.fst).map (·.subject.text) := by
    rw [index_declared hdistinct, Keyed.keys, List.map_map, List.map_map]
    rfl
  rw [hkeys, List.zipIdx_map_fst, text_declaredNodes]

/-- Then no class is lost to a later one, and the registered classes are all there are. -/
theorem registered_declared :
    (declared namespaceIri topics).registered =
      List.range (declared namespaceIri topics).classes.size := by
  -- classes are numbered as they come
  have hregistered : (declared namespaceIri topics).registered =
      (declaredNodes namespaceIri topics).zipIdx.map Prod.snd := by
    rw [registered, index_declared hdistinct, List.map_map]
    rfl
  have hsize : (declared namespaceIri topics).classes.size =
      (declaredNodes namespaceIri topics).length := by
    rw [declared, size_registerAll, List.size_toArray, List.length_nil, Nat.zero_add]
  rw [hregistered, List.zipIdx_map_snd, hsize, List.range_eq_range']

/-- Declaring the classes of topics leaves the builtin data types in their places. -/
theorem get?_declared_of_seeded {identifier : String} {c : ClassId}
    (h : (seeded namespaceIri).get? identifier = some c) :
    (declared namespaceIri topics).get? identifier = some c := by
  -- the data types have the first numbers, with or without the classes after them
  have hseeded : (seeded namespaceIri).index =
      (catalogue.map (builtinNode namespaceIri)).zipIdx.map fun (node, c) =>
        (node.subject.text, c) := by
    have hnodes : ((declaredNodes namespaceIri topics).map (·.subject.text)).Nodup :=
      nodup_declaredNodes hdistinct
    rw [declaredNodes, List.map_append] at hnodes
    rw [seeded, index_registerAll]
    · rfl
    · exact (List.nodup_append.mp hnodes).1
  -- what is declared after the builtin data types is looked up after them
  rw [get?, hseeded] at h
  rw [get?, index_declared hdistinct, declaredNodes, List.zipIdx_append, List.map_append,
    List.lookup_append, h]
  rfl

end

/-- What is declared under the identifier of a builtin data type is the data type. -/
theorem declaredNode_builtin (namespaceIri : String) {primitive : Primitive}
    (h : primitive ∈ catalogue) :
    declaredNode namespaceIri (namespaceIri ++ primitive.name) =
      builtinNode namespaceIri primitive := by
  have hmem : builtinNode namespaceIri primitive ∈ declaredNodes namespaceIri [] :=
    List.mem_append_left _ (List.mem_map_of_mem h)
  exact (eq_declaredNode_of_mem (by simp [classTopics]) hmem).symm

/-- Builtin data types are seeded under their identifiers. -/
theorem exists_get?_seeded (namespaceIri : String) {primitive : Primitive}
    (h : primitive ∈ catalogue) :
    ∃ c, (seeded namespaceIri).get? (namespaceIri ++ primitive.name) = some c ∧
      (seeded namespaceIri).node? c = some (builtinNode namespaceIri primitive) := by
  -- seeding is declaring the classes of no topics
  have hseeded : seeded namespaceIri = declared namespaceIri [] := by
    rw [← registerAll_seeded]
    rfl
  have hdeclared : IsDeclared namespaceIri [] (namespaceIri ++ primitive.name) :=
    Or.inl (List.mem_map_of_mem h)
  obtain ⟨c, hc⟩ := Option.isSome_iff_exists.mp (get?_declared_isSome_iff.mpr hdeclared)
  rw [hseeded, ← declaredNode_builtin namespaceIri h]
  exact ⟨c, hc, node?_declared (by simp [classTopics]) hc⟩

/-! ## What is recorded about a class -/

variable {settings : Settings}

/-- With one topic about each class, a class is recorded as its topic says. -/
theorem topicsAbout_of_mem (hdistinct : (topics.map (·.subject.text)).Nodup) {topic : Topic}
    (htopic : topic ∈ classTopics settings.namespaceIri topics) :
    topicsAbout settings topics topic.subject.text = [topic] :=
  filter_key_eq_singleton (hdistinct.sublist (List.filter_sublist.map _)) htopic

/-- What topics say about a builtin data type is not heard. -/
theorem topicsAbout_of_builtin {identifier : String}
    (h : identifier ∈ builtinIdentifiers settings.namespaceIri) :
    topicsAbout settings topics identifier = [] := by
  rw [topicsAbout, List.filter_eq_nil_iff]
  intro topic htopic htext
  have hnot := (mem_classTopics.mp htopic).2.2
  rw [of_decide_eq_true htext] at hnot
  exact hnot h

end Registry

/-- References that all name classes are the classes they name. -/
theorem Topic.map_some_targets {find : String → Option ClassId} {words : List Vocabulary}
    {topic : Topic} (h : topic.Resolves find words) {word : Vocabulary} (hword : word ∈ words) :
    (topic.targets find word).map some = (topic.references word).map (find ·.text) := by
  have hsome : ∀ node ∈ topic.references word, (find node.text).isSome :=
    Topic.resolves_iff.mp h word hword
  rw [targets_eq]
  -- reference by reference, none of which is passed over
  generalize topic.references word = nodes at hsome
  induction nodes with
  | nil => rfl
  | cons node nodes ih =>
    obtain ⟨hnode, hrest⟩ := List.forall_mem_cons.mp hsome
    obtain ⟨c, hc⟩ := Option.isSome_iff_exists.mp hnode
    rw [List.filterMap_cons, hc, List.map_cons, List.map_cons, ih hrest, hc]

/-- A class is recorded as a child once for each reference to the parent. -/
theorem recordedChildren_eq (settings : Settings) (topics : List Topic) (p : ClassId) :
    recordedChildren settings topics p =
      (classTopics settings.namespaceIri topics).flatMap fun topic =>
        (topic.references .subClassOf).filterMap fun object =>
          if classOf settings topics object.text = some p then
            classOf settings topics topic.subject.text
          else none := by
  rw [recordedChildren]
  -- it is enough to compare what one topic adds
  congr 1
  funext topic
  rw [Topic.targets_eq]
  cases classOf settings topics topic.subject.text with
  | none => simp
  | some c =>
    -- a parent that is named several times gets the child as often
    rw [Option.toList_some, List.flatMap_singleton]
    induction topic.references .subClassOf with
    | nil => rfl
    | cons object objects ih =>
      rw [List.filterMap_cons, List.filterMap_cons, ← ih]
      cases hobject : classOf settings topics object.text with
      | none => simp
      | some q => by_cases h : q = p <;> simp [h, List.replicate_succ]

namespace Registry

variable {namespaceIri : String} {settings : Settings} {topics : List Topic}

/-- The class pass performs the edits that topics ask of their classes, once these are declared.
That the identifiers are different is needed for the lists: a class that is declared anew under an
identifier begins with empty ones. -/
theorem reflects_performAll (hdistinct : (topics.map (·.subject.text)).Nodup)
    (hn : ∀ topic ∈ classTopics settings.namespaceIri topics, IsNameable topic.subject)
    (hresolves : ∀ topic ∈ classTopics settings.namespaceIri topics,
      topic.Resolves (classOf settings topics) [.subClassOf, .supersededBy]) :
    Reflects settings.namespaceIri settings.lang topics (seeded settings.namespaceIri)
      (Edit.performAll (declared settings.namespaceIri topics) (classEdits settings topics)) := by
  have hget : (Edit.performAll (declared settings.namespaceIri topics)
      (classEdits settings topics)).get? = classOf settings topics := Edit.get?_performAll ..
  refine
    { identifiers := ?_
      registered := ?_
      classes := fun topic htopic => ?_
      children := fun p node hnode => ?_
      builtins := fun primitive hprimitive => ?_ }
  · -- edits leave the index as it was declared
    rw [Edit.index_performAll, keys_declared hdistinct]
  · -- and they add no classes to those that are declared
    rw [registered, Edit.index_performAll, Edit.size_performAll, ← registered_declared hdistinct,
      registered]
  · -- the class of a topic, which has been declared
    have hsome : (classOf settings topics topic.subject.text).isSome := by
      obtain ⟨hin, hclass, -⟩ := mem_classTopics.mp htopic
      exact classOf_isSome_iff.mpr (Or.inr ⟨topic, hin, hclass, rfl⟩)
    obtain ⟨c, hc⟩ := Option.isSome_iff_exists.mp hsome
    -- there is one topic about the class, so all that is recorded about it comes from there
    have habout : topicsAbout settings topics topic.subject.text = [topic] :=
      topicsAbout_of_mem hdistinct htopic
    refine ⟨c, _, by rw [hget, hc], node?_performAll_classEdits hn hc, ?_, ?_, ?_, ?_, ?_⟩
    · exact (hn topic htopic).eq_iri.symm
    · rw [← Option.isNone_iff_eq_none, ← Option.isSome_eq_false_iff, ← Bool.not_eq_true]
      exact mt isSome_primitive_declaredNode_iff.mp (mem_classTopics.mp htopic).2.2
    · rw [hget, ← Topic.map_some_targets (hresolves topic htopic) (by simp)]
      simp [recordedNode, habout]
    · rw [hget, ← Topic.map_some_targets (hresolves topic htopic) (by simp)]
      simp [recordedNode, habout]
    · simp [recordedNode, habout]
  · -- classes are declared without children, and get them from the edges that are added
    rw [Edit.node?_performAll] at hnode
    obtain ⟨before, hbefore, rfl⟩ := Option.map_eq_some_iff.mp hnode
    rw [ClassNode.edited, (unlinked_declared hbefore).2, filterMap_child?_classEdits,
      recordedChildren_eq, hget]
    rfl
  · -- a builtin data type, whose place is the one that it has been seeded in
    have hbuiltin : settings.namespaceIri ++ primitive.name ∈
        builtinIdentifiers settings.namespaceIri := List.mem_map_of_mem hprimitive
    obtain ⟨c, hstart, hnode⟩ := exists_get?_seeded settings.namespaceIri hprimitive
    have hc : classOf settings topics (settings.namespaceIri ++ primitive.name) = some c :=
      get?_declared_of_seeded hdistinct hstart
    -- no class topic is about a builtin data type, so no edge starts there
    have habout : topicsAbout settings topics (settings.namespaceIri ++ primitive.name) = [] :=
      topicsAbout_of_builtin hbuiltin
    refine ⟨c, _, hstart, by rw [hget, hc], hnode, node?_performAll_classEdits hn hc, rfl, ?_, ?_,
      ?_, ?_⟩
    · simp [recordedNode, declaredNode_builtin settings.namespaceIri hprimitive, builtinNode]
    · simp [recordedNode, habout]
    · simp [recordedNode, habout]
    · simp [recordedNode, habout]

end Registry

/-- **The class pass reflects the topics.** If the class pass goes through for topics of different
identifiers, on a registry that holds the builtin data types and nothing else, then the registry
records what the topics say about classes, and nothing else.

The namespace is that of the data types in the registry, which the class pass takes as they are.
That the pass has gone through is all that is known of the references, the names and the absence of
cycles. -/
theorem reflects_buildClasses {settings : Settings} {namespaceIri : String} {topics : List Topic}
    {start finish : Workspace} (hdistinct : (topics.map (·.subject.text)).Nodup)
    (hseed : Build.seedBuiltins namespaceIri {} = .ok () start)
    (hbuild : Build.buildClasses settings topics start = .ok () finish) :
    Registry.Reflects namespaceIri settings.lang topics start.registry finish.registry := by
  -- what the seed leaves behind is determined by the namespace
  have hstart : start.registry = Registry.seeded namespaceIri := by
    have hchanged := Build.changed_eq_ok_iff.mpr ⟨(), start, hseed, rfl⟩
    rw [Build.changed_seedBuiltins, Registry.seed_empty] at hchanged
    exact (Except.ok.inj hchanged).symm
  -- the class pass does not ask for the namespace, so it may be taken to be the one of the builtins
  have hfinish : (Registry.seeded namespaceIri).buildClasses
      { settings with namespaceIri := namespaceIri } topics = .ok finish.registry := by
    have hchanged := Build.changed_eq_ok_iff.mpr ⟨(), finish, hbuild, rfl⟩
    rwa [Build.changed_buildClasses, hstart] at hchanged
  obtain ⟨-, hn, hresolves, -, hregistry⟩ := Registry.buildClasses_eq_ok_iff.mp hfinish
  rw [hstart, hregistry]
  exact Registry.reflects_performAll hdistinct hn hresolves

/-- A class that is mentioned before it is declared, below a builtin data type, and a topic about
that data type which would have it the other way round. -/
def placeAndText : List Topic := [
  { subject := .iri "http://schema.org/Place", types := [.iri classType],
    values := [⟨.known .comment, .literal { lexical := "Somewhere." }⟩,
      ⟨.known .subClassOf, .iri "http://schema.org/Thing"⟩,
      ⟨.known .comment, .literal { lexical := "A place.", language := some "en" }⟩] },
  { subject := .iri "http://schema.org/Text", types := [.iri classType],
    values := [⟨.known .subClassOf, .iri "http://schema.org/Thing"⟩] },
  { subject := .iri "http://schema.org/Thing", types := [.iri classType],
    values := [⟨.known .subClassOf, .iri "http://schema.org/Text"⟩] }]

/-- The class pass goes through for such topics, and then every identifier is registered once. -/
theorem reflects_buildClasses_placeAndText :
    ∃ start finish, Build.seedBuiltins "http://schema.org/" {} = .ok () start ∧
      Build.buildClasses {} placeAndText start = .ok () finish ∧
      Registry.Reflects "http://schema.org/" "en" placeAndText start.registry finish.registry ∧
      Keyed.keys finish.registry.index = ["http://schema.org/Text", "http://schema.org/Number",
        "http://schema.org/Time", "http://schema.org/Date", "http://schema.org/DateTime",
        "http://schema.org/Boolean", "http://schema.org/Place", "http://schema.org/Thing"] := by
  obtain ⟨_, start, hseed, hstart⟩ := Build.changed_eq_ok_iff.mp
    ((Build.changed_seedBuiltins "http://schema.org/" {}).trans (Registry.seed_empty _))
  have hclasses : (Registry.seeded "http://schema.org/").buildClasses {} placeAndText = .ok _ :=
    Registry.buildClasses_eq_ok_iff.mpr ⟨by decide, by decide, fun topic htopic =>
      resolves_classOf_iff.mpr (by revert topic; decide),
      (acyclic_performAll_declared_iff fun _ _ => Iff.rfl).mpr
        (acyclic_of_rank (fun identifier => if identifier = "http://schema.org/Place" then 2
          else if identifier = "http://schema.org/Thing" then 1 else 0) (by decide)), rfl⟩
  obtain ⟨_, finish, hbuild, -⟩ := Build.changed_eq_ok_iff.mp
    ((Build.changed_buildClasses {} placeAndText start).trans (hstart ▸ hclasses))
  have hreflects := reflects_buildClasses (by decide) hseed hbuild
  refine ⟨start, finish, hseed, hbuild, hreflects, hreflects.identifiers.trans ?_⟩
  decide

end OntoTypes
