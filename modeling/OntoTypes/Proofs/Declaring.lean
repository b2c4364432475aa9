import OntoTypes.Proofs.Distinct
import OntoTypes.Proofs.Reading

/-!
# Declared classes

The registry between the two halves of the class pass: the builtin data types are seeded, the
classes of all class topics are declared, and no reference has been followed yet. From here on the
index does not change any more, so that identifiers and classes stand for one another until the end
of the run.

Main results:

* `seed_empty`, `foldlM_declareTopic_eq_ok_iff` — declaring succeeds exactly if every class that is
  not builtin can be named;
* `get?_declared_isSome_iff` — the identifiers that are declared;
* `node?_declared` — what is declared under them.
-/

namespace OntoTypes

/-- The identifiers of the builtin data types under a namespace. -/
def builtinIdentifiers (namespaceIri : String) : List String :=
  catalogue.map fun primitive => namespaceIri ++ primitive.name

/-- The topics that classes are made of: those about classes, except where a builtin data type keeps
its place. -/
def classTopics (namespaceIri : String) (topics : List Topic) : List Topic :=
  topics.filter fun topic =>
    topic.isClass && !(builtinIdentifiers namespaceIri).contains topic.subject.text

/-- An identifier that a builtin data type or a class topic answers to. -/
def IsDeclared (namespaceIri : String) (topics : List Topic) (identifier : String) : Prop :=
  identifier ∈ builtinIdentifiers namespaceIri ∨
    ∃ topic ∈ topics, topic.isClass = true ∧ topic.subject.text = identifier

/-- A subject that a type can be named after. -/
def IsNameable (subject : Term) : Prop :=
  ∃ iri, subject = .iri iri ∧ Text.localName iri ≠ ""

instance (namespaceIri : String) (topics : List Topic) (identifier : String) :
    Decidable (IsDeclared namespaceIri topics identifier) :=
  inferInstanceAs (Decidable (_ ∨ ∃ topic ∈ topics, _))

instance : DecidablePred IsNameable
  | .iri iri =>
    decidable_of_iff (Text.localName iri ≠ "")
      ⟨fun h => ⟨iri, rfl, h⟩, fun ⟨_, heq, h⟩ => Term.iri.inj heq ▸ h⟩
  | .blank _ => .isFalse fun ⟨_, heq, _⟩ => nomatch heq
  | .literal _ => .isFalse fun ⟨_, heq, _⟩ => nomatch heq

/-- What is declared under an identifier. -/
def declaredNode (namespaceIri identifier : String) : ClassNode :=
  match catalogue.find? fun primitive => namespaceIri ++ primitive.name = identifier with
  | some primitive => builtinNode namespaceIri primitive
  | none => { subject := .iri identifier }

/-- All classes that are declared for some topics, in the order of their declarations. -/
def declaredNodes (namespaceIri : String) (topics : List Topic) : List ClassNode :=
  catalogue.map (builtinNode namespaceIri) ++
    (classTopics namespaceIri topics).map fun topic => { subject := topic.subject }

/-- Classes are made of topics about classes, less those whose identifier belongs to a builtin data
type. -/
theorem mem_classTopics {namespaceIri : String} {topics : List Topic} {topic : Topic} :
    topic ∈ classTopics namespaceIri topics ↔
      topic ∈ topics ∧ topic.isClass = true ∧
        topic.subject.text ∉ builtinIdentifiers namespaceIri := by
  simp [classTopics]

/-- Builtin data types, and no other classes, are declared with a primitive. -/
theorem isSome_primitive_declaredNode_iff {namespaceIri identifier : String} :
    (declaredNode namespaceIri identifier).primitive.isSome = true ↔
      identifier ∈ builtinIdentifiers namespaceIri := by
  unfold declaredNode builtinIdentifiers
  rw [List.mem_map]
  cases hfind : catalogue.find? fun primitive => namespaceIri ++ primitive.name = identifier with
  | none =>
    -- no primitive of the catalogue has this identifier
    rw [List.find?_eq_none] at hfind
    simpa using hfind
  | some primitive =>
    have hname : namespaceIri ++ primitive.name = identifier := by
      simpa using List.find?_some hfind
    exact ⟨fun _ => ⟨primitive, List.mem_of_find?_eq_some hfind, hname⟩, fun _ => rfl⟩

/-! ## Names of types -/

/-- A name for the type is found exactly if the subject is an IRI that does not end where its local
name would begin. -/
theorem typeName_eq_ok_iff {subject : Term} :
    (∃ name, typeName subject = .ok name) ↔ IsNameable subject := by
  cases subject with
  | iri iri => by_cases h : Text.localName iri = "" <;> simp [typeName, IsNameable, h]
  | blank label => simp [typeName, IsNameable]
  | literal value => simp [typeName, IsNameable]

/-- Such a subject is determined by its text. -/
theorem IsNameable.eq_iri {subject : Term} (h : IsNameable subject) :
    subject = .iri subject.text := by
  obtain ⟨iri, rfl, -⟩ := h
  rfl

namespace Registry

/-! ## Registering classes -/

/-- The registry after some classes have been registered. -/
def registerAll (registry : Registry) (nodes : List ClassNode) : Registry :=
  nodes.foldl register registry

/-- What is registered under an identifier is the class that came last. -/
@[simp] theorem get?_register (registry : Registry) (node : ClassNode) (identifier : String) :
    (registry.register node).get? identifier =
      if identifier = node.subject.text then some registry.classes.size
      else registry.get? identifier := by
  unfold get? register
  split
  · rename_i h
    rw [h, Keyed.lookup_set_self]
  · rename_i h
    exact Keyed.lookup_set_of_ne h _ _

/-- The new class comes after all that are there. -/
@[simp] theorem node?_register (registry : Registry) (node : ClassNode) (c : ClassId) :
    (registry.register node).node? c =
      if c = registry.classes.size then some node else registry.node? c :=
  node?_pushClass registry node c

/-- Only classes of the registry have anything recorded about them. -/
theorem lt_size_of_node? {registry : Registry} {c : ClassId} {node : ClassNode}
    (h : registry.node? c = some node) : c < registry.classes.size :=
  (Array.getElem?_eq_some_iff.mp h).1

/-- What registering classes, and nothing else, leaves behind: a registry in which each identifier
stands for a class of its own, recorded as it was registered. The classes that have lost their
identifier to a later one are still there; `mem` is about them, too. -/
structure Registers (nodes : List ClassNode) (registry : Registry) : Prop where
  unfrozen : registry.isFrozen = false
  properties : registry.properties = #[]
  keys : (Keyed.keys registry.index).Nodup
  isSome : ∀ identifier, (registry.get? identifier).isSome ↔
    ∃ node ∈ nodes, node.subject.text = identifier
  node : ∀ identifier c, registry.get? identifier = some c →
    ∃ node ∈ nodes, registry.node? c = some node ∧ node.subject.text = identifier
  mem : ∀ c node, registry.node? c = some node → node ∈ nodes

/-- An empty registry has been left behind by registering nothing. -/
theorem registers_empty : Registers [] {} where
  unfrozen := rfl
  properties := rfl
  keys := .nil
  isSome := by simp [get?]
  node := by simp [get?]
  mem := by simp [node?]

/-- One more class takes the place of the one registered under its identifier, if there is one. -/
theorem Registers.register {nodes : List ClassNode} {registry : Registry}
    (h : Registers nodes registry) (node : ClassNode) :
    Registers (nodes ++ [node]) (registry.register node) where
  unfrozen := h.unfrozen
  properties := h.properties
  keys := Keyed.nodup_keys_set h.keys _ _
  isSome := by
    intro identifier
    rw [get?_register]
    by_cases hid : identifier = node.subject.text
    · simp [hid]
    · rw [if_neg hid, h.isSome]
      simp [or_and_right, exists_or, Ne.symm hid]
  node := by
    intro identifier c hget
    rw [get?_register] at hget
    split at hget
    · rename_i hid
      -- under its own identifier, the new class is found
      obtain rfl := Option.some.inj hget
      exact ⟨node, by simp, by simp, hid.symm⟩
    · -- an earlier class keeps its place, since the new one is put at the end
      obtain ⟨found, hmem, hnode, htext⟩ := h.node identifier c hget
      have hne : c ≠ registry.classes.size := Nat.ne_of_lt (lt_size_of_node? hnode)
      exact ⟨found, by simp [hmem], by simp [hne, hnode], htext⟩
  mem := by
    -- the last class is the new one, and the others were there
    intro c found hnode
    rw [node?_register] at hnode
    split at hnode
    · obtain rfl := Option.some.inj hnode
      simp
    · have hmem := h.mem c found hnode
      simp [hmem]

/-- Classes that are registered one after another, each in the place of any before it. -/
theorem Registers.registerAll {nodes : List ClassNode} {registry : Registry}
    (h : Registers nodes registry) (later : List ClassNode) :
    Registers (nodes ++ later) (registry.registerAll later) := by
  induction later generalizing nodes registry with
  | nil => simpa [Registry.registerAll] using h
  | cons node later ih =>
    rw [show nodes ++ node :: later = (nodes ++ [node]) ++ later by simp]
    exact ih (h.register node)

/-- They can be registered in two parts. -/
theorem registerAll_append (registry : Registry) (nodes later : List ClassNode) :
    registry.registerAll (nodes ++ later) = (registry.registerAll nodes).registerAll later := by
  simp only [registerAll, List.foldl_append]

/-- A registry that is not frozen registers whatever it is asked to. -/
theorem foldlM_declare {registry : Registry} (hf : registry.isFrozen = false)
    (nodes : List ClassNode) :
    nodes.foldlM declare registry = .ok (registry.registerAll nodes) := by
  induction nodes generalizing registry with
  | nil => rfl
  | cons node nodes ih =>
    have hdeclare : registry.declare node = .ok (registry.register node) := by simp [declare, hf]
    rw [List.foldlM_cons, hdeclare]
    exact ih hf

/-- The builtin data types under a namespace, and no other class. -/
def seeded (namespaceIri : String) : Registry :=
  registerAll {} (catalogue.map (builtinNode namespaceIri))

/-- The classes of some topics beside the builtin data types, none of them followed up yet. -/
def declared (namespaceIri : String) (topics : List Topic) : Registry :=
  registerAll {} (declaredNodes namespaceIri topics)

/-- Seeding an empty registry does not fail. -/
theorem seed_empty (namespaceIri : String) : seed {} namespaceIri = .ok (seeded namespaceIri) := by
  rw [seeded, ← foldlM_declare rfl, List.foldlM_map]
  rfl

/-- What is known of a seeded registry. -/
theorem registers_seeded (namespaceIri : String) :
    Registers (catalogue.map (builtinNode namespaceIri)) (seeded namespaceIri) :=
  registers_empty.registerAll _

/-- What is known of a registry in which the classes of some topics are declared. -/
theorem registers_declared (namespaceIri : String) (topics : List Topic) :
    Registers (declaredNodes namespaceIri topics) (declared namespaceIri topics) :=
  registers_empty.registerAll _

/-! ## Declaring the classes of topics -/

variable {namespaceIri : String} {topics : List Topic}

/-- Whether an identifier is kept for a builtin data type is what a topic is asked first. -/
def KeepsBuiltins (namespaceIri : String) (registry : Registry) : Prop :=
  ∀ identifier, (registry.get? identifier).any registry.isBuiltin =
    (builtinIdentifiers namespaceIri).contains identifier

/-- Once the data types are seeded, their identifiers are kept for them. -/
theorem keepsBuiltins_seeded (namespaceIri : String) :
    KeepsBuiltins namespaceIri (seeded namespaceIri) := by
  intro identifier
  have hreg := registers_seeded namespaceIri
  rw [Bool.eq_iff_iff, List.contains_iff_mem, Option.any_eq_true]
  constructor
  · -- whatever is registered by now is of the catalogue
    rintro ⟨c, hget, -⟩
    obtain ⟨node, hmem, htext⟩ := (hreg.isSome identifier).mp (by rw [hget]; rfl)
    obtain ⟨primitive, hprimitive, rfl⟩ := List.mem_map.mp hmem
    exact List.mem_map.mpr ⟨primitive, hprimitive, htext⟩
  · -- the class under the identifier of a builtin data type is that data type
    intro hmem
    obtain ⟨primitive, hprimitive, htext⟩ := List.mem_map.mp hmem
    have hsome := (hreg.isSome identifier).mpr
      ⟨_, List.mem_map_of_mem (f := builtinNode namespaceIri) hprimitive, htext⟩
    obtain ⟨c, hget⟩ := Option.isSome_iff_exists.mp hsome
    obtain ⟨node, hnode, hc, -⟩ := hreg.node identifier c hget
    obtain ⟨primitive, -, rfl⟩ := List.mem_map.mp hnode
    exact ⟨c, hget, by simp [isBuiltin, hc, builtinNode, ClassNode.isBuiltin]⟩

/-- The class of a topic is no builtin data type and takes the place of none. -/
theorem KeepsBuiltins.register {registry : Registry} (h : KeepsBuiltins namespaceIri registry)
    {subject : Term} (hs : subject.text ∉ builtinIdentifiers namespaceIri) :
    KeepsBuiltins namespaceIri (registry.register { subject := subject }) := by
  intro identifier
  -- the new class is no data type, so the answer is the same for every class
  have hbuiltin : ∀ c, (registry.register { subject := subject }).isBuiltin c =
      registry.isBuiltin c := by
    intro c
    rw [isBuiltin, isBuiltin, node?_register]
    split
    · rename_i hc
      rw [hc, node?, Array.getElem?_eq_none (Nat.le_refl _)]
      rfl
    · rfl
  rw [get?_register]
  split
  · rename_i hid
    -- under the new identifier the answer is no, and it is not of the catalogue
    rw [hid, Option.any_some, isBuiltin, node?_register, if_pos rfl]
    simpa [ClassNode.isBuiltin] using hs
  · rw [← h identifier, funext hbuiltin]

/-- A topic about a class declares it, unless its identifier is kept for a builtin data type. -/
theorem declareTopic_eq_ok_iff {registry registry' : Registry}
    (hk : KeepsBuiltins namespaceIri registry) (hf : registry.isFrozen = false) {topic : Topic} :
    registry.declareTopic topic = .ok registry' ↔
      if topic.subject.text ∈ builtinIdentifiers namespaceIri then registry' = registry
      else IsNameable topic.subject ∧
        registry' = registry.register { subject := topic.subject } := by
  unfold declareTopic
  simp only [hk topic.subject.text, List.contains_iff_mem]
  split
  · -- the data type is there already
    simpa using eq_comm
  · -- the class is declared if a name can be found for it
    rw [bind_eq_ok_iff, ← typeName_eq_ok_iff]
    simp [declare, hf, eq_comm]

/-- Declaring the classes of some topics succeeds exactly if every class that is not builtin can be
named. -/
theorem foldlM_declareTopic_eq_ok_iff {registry registry' : Registry}
    (hk : KeepsBuiltins namespaceIri registry) (hf : registry.isFrozen = false) :
    (topics.filter Topic.isClass).foldlM declareTopic registry = .ok registry' ↔
      (∀ topic ∈ classTopics namespaceIri topics, IsNameable topic.subject) ∧
        registry' = registry.registerAll
          ((classTopics namespaceIri topics).map fun topic => { subject := topic.subject }) := by
  induction topics generalizing registry with
  | nil => simpa [classTopics, registerAll, pure, Except.pure] using eq_comm
  | cons topic topics ih =>
    by_cases hc : topic.isClass = true
    · rw [List.filter_cons_of_pos hc, List.foldlM_cons]
      change Except.bind _ _ = _ ↔ _
      simp only [bind_eq_ok_iff, declareTopic_eq_ok_iff hk hf]
      -- a builtin data type is declared already, and its topic is passed over
      by_cases hb : topic.subject.text ∈ builtinIdentifiers namespaceIri
      · have hskip : classTopics namespaceIri (topic :: topics) =
            classTopics namespaceIri topics := by simp [classTopics, hb]
        simp only [if_pos hb, exists_eq_left, hskip]
        exact ih hk hf
      · have htake : classTopics namespaceIri (topic :: topics) =
            topic :: classTopics namespaceIri topics := by simp [classTopics, hc, hb]
        simp only [if_neg hb, htake, List.forall_mem_cons, and_assoc, exists_and_left,
          exists_eq_left, ih (hk.register hb) hf]
        rfl
    · -- what is not about a class declares none
      have hskip : classTopics namespaceIri (topic :: topics) =
          classTopics namespaceIri topics := by simp [classTopics, hc]
      rw [List.filter_cons_of_neg hc, hskip]
      exact ih hk hf

/-- The builtin data types with the classes of some topics on top are all declared classes. -/
theorem registerAll_seeded (namespaceIri : String) (topics : List Topic) :
    (seeded namespaceIri).registerAll
        ((classTopics namespaceIri topics).map fun topic => { subject := topic.subject }) =
      declared namespaceIri topics := by
  rw [declared, declaredNodes, registerAll_append, seeded]

/-! ## What is declared -/

/-- The identifiers of a registry of declared classes. -/
theorem get?_declared_isSome_iff {identifier : String} :
    ((declared namespaceIri topics).get? identifier).isSome ↔
      IsDeclared namespaceIri topics identifier := by
  rw [(registers_declared namespaceIri topics).isSome]
  constructor
  · rintro ⟨node, hmem, htext⟩
    -- a declared class is of the catalogue, or of a topic
    rcases List.mem_append.mp hmem with hmem | hmem
    · obtain ⟨primitive, hprimitive, rfl⟩ := List.mem_map.mp hmem
      exact Or.inl (List.mem_map.mpr ⟨primitive, hprimitive, htext⟩)
    · obtain ⟨topic, htopic, rfl⟩ := List.mem_map.mp hmem
      obtain ⟨hin, hclass, -⟩ := mem_classTopics.mp htopic
      exact Or.inr ⟨topic, hin, hclass, htext⟩
  · intro h
    -- an identifier of the catalogue belongs to its data type, even if there is a topic about it
    by_cases hb : identifier ∈ builtinIdentifiers namespaceIri
    · obtain ⟨primitive, hprimitive, htext⟩ := List.mem_map.mp hb
      exact ⟨builtinNode namespaceIri primitive,
        List.mem_append_left _ (List.mem_map_of_mem hprimitive), htext⟩
    · obtain ⟨topic, hin, hclass, htext⟩ := h.resolve_left hb
      have htopic : topic ∈ classTopics namespaceIri topics :=
        mem_classTopics.mpr ⟨hin, hclass, htext ▸ hb⟩
      exact ⟨{ subject := topic.subject }, List.mem_append_right _ (List.mem_map.mpr
        ⟨topic, htopic, rfl⟩), htext⟩

/-- The data types of the catalogue have different names. -/
private theorem find?_catalogue : ∀ primitive ∈ catalogue,
    catalogue.find? (fun other => other.name = primitive.name) = some primitive := by
  decide

/-- Nothing is declared but what belongs under its identifier. -/
theorem eq_declaredNode_of_mem (hn : ∀ topic ∈ classTopics namespaceIri topics,
    IsNameable topic.subject) {node : ClassNode} (hmem : node ∈ declaredNodes namespaceIri topics) :
    node = declaredNode namespaceIri node.subject.text := by
  unfold declaredNode
  rcases List.mem_append.mp hmem with hmem | hmem
  · obtain ⟨primitive, hprimitive, rfl⟩ := List.mem_map.mp hmem
    -- no other data type has the name of this one, so it is the one that is found
    have hfind : catalogue.find? (fun other =>
        namespaceIri ++ other.name = (builtinNode namespaceIri primitive).subject.text) =
          some primitive := by
      simpa [builtinNode, Term.text] using find?_catalogue primitive hprimitive
    rw [hfind]
  · obtain ⟨topic, htopic, rfl⟩ := List.mem_map.mp hmem
    -- the class of a topic stands under no identifier of the catalogue
    have hnone : catalogue.find? (fun other =>
        namespaceIri ++ other.name = topic.subject.text) = none := by
      rw [List.find?_eq_none]
      intro other hother heq
      exact (mem_classTopics.mp htopic).2.2 (List.mem_map.mpr ⟨other, hother, by simpa using heq⟩)
    have hiri : topic.subject = .iri topic.subject.text := (hn topic htopic).eq_iri
    simp only [hnone]
    rw [← hiri]

/-- What is declared under an identifier, once every class can be named: it depends on the
identifier alone, and not on the topic by which the class has come about, nor on how often it was
declared. -/
theorem node?_declared (hn : ∀ topic ∈ classTopics namespaceIri topics, IsNameable topic.subject)
    {identifier : String} {c : ClassId}
    (hget : (declared namespaceIri topics).get? identifier = some c) :
    (declared namespaceIri topics).node? c = some (declaredNode namespaceIri identifier) := by
  obtain ⟨node, hmem, hnode, htext⟩ :=
    (registers_declared namespaceIri topics).node identifier c hget
  rw [hnode, ← htext, ← eq_declaredNode_of_mem hn hmem]

end Registry

end OntoTypes
