import OntoTypes.Proofs.Attachment
import OntoTypes.Proofs.Tallies

/-!
# Who the members of enumerations belong to

A topic is a member of an enumeration if one of its type tags is neither that of classes, nor of
properties, nor of data types; it may be about a class or a property at the same time. The member
belongs to the class that the first such tag names, and to no other class, whatever tags follow.
That there is such a tag is asked twice, by the pass over all topics and once more where the owner
is looked up, and the second question never gets another answer than the first: the pass returns one
member for each topic it picks.

Main definitions and results:

* `Build.Yields` — a build that can return one result only;
* `Build.yields_resolveMembers` — the members that the pass returns;
* `Registry.Enumerates` — the members of some topics, each in the enumeration of its class;
* `enumerates_registryOf` — the hierarchy of some topics has their members in that way.
-/

namespace OntoTypes

namespace Build

/-! ## What a build returns -/

/-- A build that returns `a` if it returns anything. -/
def Yields (x : Build α) (a : α) : Prop := ∀ w b w', x w = .ok b w' → b = a

/-- A build in two parts succeeds if both of them do. -/
theorem exists_of_bind_eq_ok {x : Build α} {f : α → Build β} {w w'' : Workspace} {b : β}
    (h : (x >>= f) w = .ok b w'') : ∃ a w', x w = .ok a w' ∧ f a w' = .ok b w'' := by
  rw [bind_apply] at h
  cases hx : x w with
  | ok a w' =>
    rw [hx] at h
    exact ⟨a, w', rfl, h⟩
  | error e w' =>
    rw [hx] at h
    cases h

/-- What is returned at once is the result. -/
theorem yields_pure (a : α) : Yields (pure a) a := by
  intro w b w' h
  cases h
  rfl

/-- Two parts, the second of which goes on with what the first one yields. -/
theorem Yields.bind {x : Build α} {f : α → Build β} {a : α} {b : β} (hx : Yields x a)
    (hf : Yields (f a) b) : Yields (x >>= f) b := by
  intro w found w'' h
  obtain ⟨a', w', hfirst, hrest⟩ := exists_of_bind_eq_ok h
  obtain rfl := hx w a' w' hfirst
  exact hf w' found w'' hrest

/-- Whatever the first part returns, the second part decides. -/
theorem yields_bind_of_forall {x : Build α} {f : α → Build β} {b : β}
    (hf : ∀ a, Yields (f a) b) : Yields (x >>= f) b := by
  intro w found w'' h
  obtain ⟨a, w', -, hrest⟩ := exists_of_bind_eq_ok h
  exact hf a w' found w'' hrest

/-- A pass over some items yields a list, if it yields one result for each item. -/
theorem yields_mapM {f : α → Build β} {g : α → β} {items : List α}
    (hf : ∀ a ∈ items, Yields (f a) (g a)) : Yields (items.mapM f) (items.map g) := by
  induction items with
  | nil => exact yields_pure []
  | cons a items ih =>
    obtain ⟨hfirst, hrest⟩ := List.forall_mem_cons.mp hf
    rw [List.mapM_cons]
    exact hfirst.bind ((ih hrest).bind (yields_pure _))

/-- What is read without looking at the registry yields what has been read. -/
theorem yields_ofAttempt {x : Attempt α} {a : α} (h : x.outcome = .ok a) :
    Yields (ofAttempt x) a := by
  intro w b w' hx
  rw [ofAttempt, h] at hx
  cases hx
  rfl

/-! ## The pass over the topics -/

variable {settings : Settings}

/-- A topic yields a member exactly if one of its tags makes it one. -/
theorem yields_resolveMember (topic : Topic) :
    Yields (resolveMember settings topic)
      (topic.memberTag?.map fun _ => topic.memberNode settings.lang) := by
  unfold resolveMember memberOwner? Topic.memberTag?
  cases topic.types.find? (!·.isMetaType) with
  | none => exact yields_pure none
  | some tag =>
    have hread : Attempt.outcome (ExceptT.lift (MemberDraft.ofTopic settings topic)) =
        .ok (MemberDraft.ofTopic settings topic).value := rfl
    simp only [bind_assoc, pure_bind]
    refine yields_bind_of_forall fun owner => (yields_ofAttempt hread).bind ?_
    -- neither what is reported nor what is attached decides what is returned
    refine yields_bind_of_forall fun _ => yields_bind_of_forall fun _ => ?_
    rw [MemberDraft.comment_ofTopic]
    exact yields_pure _

/-- **The members of some topics.** There is one for each topic that has the tag of a member. -/
theorem yields_resolveMembers (topics : List Topic) :
    Yields (resolveMembers settings topics)
      ((topics.filter fun topic => hasMemberType topic.types).map
        (Topic.memberNode settings.lang)) := by
  -- the pass looks at topics that have such a tag, so it returns something for each of them
  have hmembers : Yields ((topics.filter fun topic => hasMemberType topic.types).mapM
      (resolveMember settings))
        ((topics.filter fun topic => hasMemberType topic.types).map fun topic =>
          some (topic.memberNode settings.lang)) := by
    refine yields_mapM fun topic htopic => ?_
    obtain ⟨tag, htag⟩ := Option.isSome_iff_exists.mp
      (Topic.hasMemberType_iff.mp (List.mem_filter.mp htopic).2)
    have hyields : Yields (resolveMember settings topic) _ := yields_resolveMember topic
    rwa [htag] at hyields
  -- leaving out what is nothing leaves out nothing
  have hall : ((topics.filter fun topic => hasMemberType topic.types).map fun topic =>
      some (topic.memberNode settings.lang)).filterMap id =
        (topics.filter fun topic => hasMemberType topic.types).map
          (Topic.memberNode settings.lang) := by
    rw [List.filterMap_map]
    exact congrFun List.filterMap_eq_map _
  rw [← hall]
  exact hmembers.bind (yields_pure _)

/-- A hierarchy is what the pass for members has left, made read-only. -/
theorem exists_resolveMembers_of_buildRegistry {topics : List Topic} {w : Workspace}
    (h : buildRegistry settings topics {} = .ok () w) :
    ∃ before members after, resolveMembers settings topics before = .ok members after ∧
      w.registry = after.registry.freeze := by
  unfold buildRegistry at h
  -- one part after another, down to the last pass
  obtain ⟨_, seeded, _, hclasses⟩ := exists_of_bind_eq_ok h
  obtain ⟨_, completed, _, hproperties⟩ := exists_of_bind_eq_ok hclasses
  obtain ⟨_, before, _, hmembers⟩ := exists_of_bind_eq_ok hproperties
  obtain ⟨members, after, hreturned, hfrozen⟩ := exists_of_bind_eq_ok hmembers
  cases hfrozen
  exact ⟨before, members, after, hreturned, rfl⟩

end Build

/-- A hierarchy is the registry that has been built. -/
theorem exists_buildRegistry_of_registryOf {settings : Settings} {topics : List Topic}
    {registry : Registry} (h : (registryOf settings topics).outcome = .ok registry) :
    ∃ w, Build.buildRegistry settings topics {} = .ok () w ∧ w.registry = registry := by
  -- a failed build has no registry
  unfold registryOf at h
  cases hbuild : Build.buildRegistry settings topics {} with
  | ok _ w =>
    rw [hbuild] at h
    exact ⟨w, rfl, Except.ok.inj h⟩
  | error e w =>
    rw [hbuild] at h
    cases h

/-! ## The enumerations of a hierarchy -/

namespace Registry

/-- The members of the enumeration of a class. -/
def membersOf (registry : Registry) (c : ClassId) : List MemberNode :=
  ((registry.node? c).map (·.members)).getD []

/-- The members of some topics, each in the enumeration of the class that it belongs to. -/
structure Enumerates (registry : Registry) (lang : String) (topics : List Topic) : Prop where
  /-- A topic that has the tag of a member is owned by the class registered for the first one. -/
  owner : ∀ topic ∈ topics, hasMemberType topic.types = true →
    ∃ tag, topic.types.find? (!·.isMetaType) = some tag ∧ (registry.get? tag.text).isSome
  /-- A class, registered or not, enumerates the topics that it owns. -/
  listed : ∀ c node, registry.node? c = some node → node.members =
    (topics.filter fun topic => topic.memberOf? registry.get? = some c).map
      (Topic.memberNode lang)
  /-- All registered classes together enumerate every member once, and nothing else. -/
  once : (registry.registered.flatMap registry.membersOf).Perm
    ((topics.filter fun topic => hasMemberType topic.types).map (Topic.memberNode lang))
  /-- Of every registered class it is known what it enumerates. -/
  present : ∀ c ∈ registry.registered, (registry.node? c).isSome

variable {settings : Settings} {topics : List Topic}

/-- In an admissible hierarchy a topic is owned by a class exactly if it has the tag of a member. -/
theorem isSome_memberOf?_iff (h : Admissible settings topics) {topic : Topic}
    (htopic : topic ∈ topics) :
    (topic.memberOf? (hierarchy settings topics).get?).isSome =
      hasMemberType topic.types := by
  rw [get?_hierarchy, Bool.eq_iff_iff, Topic.hasMemberType_iff, Topic.memberOf?]
  cases htag : topic.memberTag? with
  | none => rfl
  | some tag =>
    -- the class that the tag names is one of those that are declared
    have hdeclared := classOf_isSome_iff.mpr (h.members topic htopic tag htag)
    simpa using hdeclared

/-- A class lists the topics that it owns, in their order. -/
theorem members_hierarchy {c : ClassId} {node : ClassNode}
    (hnode : (hierarchy settings topics).node? c = some node) :
    node.members = (topics.filter fun topic =>
      topic.memberOf? (hierarchy settings topics).get? = some c).map
        (Topic.memberNode settings.lang) := by
  rw [(attached_hierarchy hnode).2, get?_hierarchy]
  rfl

/-- Taken together, the classes list all members, each as often as there are topics for it. The
order is that of the classes, hence a permutation. -/
theorem flatMap_membersOf_hierarchy (h : Admissible settings topics) :
    ((hierarchy settings topics).registered.flatMap (hierarchy settings topics).membersOf).Perm
      ((topics.filter fun topic => hasMemberType topic.types).map
        (Topic.memberNode settings.lang)) := by
  have hwell := wellFormed_hierarchy h
  -- of a registered class there is a record
  have hmembers : ∀ c ∈ (hierarchy settings topics).registered,
      (hierarchy settings topics).membersOf c = (topics.filter fun topic =>
        topic.memberOf? (hierarchy settings topics).get? = some c).map
          (Topic.memberNode settings.lang) := by
    intro c hc
    obtain ⟨node, hnode⟩ := Option.isSome_iff_exists.mp (isSome_node?_of_registered hwell hc)
    rw [membersOf, hnode, ← members_hierarchy hnode]
    rfl
  -- the owner of a topic is found by an identifier, so it is registered
  have howners : ∀ c ∈ topics.filterMap fun topic =>
      topic.memberOf? (hierarchy settings topics).get?,
      c ∈ (hierarchy settings topics).registered := by
    intro c hmem
    obtain ⟨topic, -, hc⟩ := List.mem_filterMap.mp hmem
    rw [get?_hierarchy] at hc
    obtain ⟨tag, -, hclass⟩ := Option.bind_eq_some_iff.mp hc
    exact mem_registered_iff.mpr ⟨_, hclass⟩
  have hperm := flatMap_filter_key_perm hwell.nodup howners
  -- topics are gathered class by class, and every topic of a member has one class
  rw [List.flatMap_congr hmembers, ← List.map_flatMap,
    ← List.filter_congr fun topic htopic => isSome_memberOf?_iff h htopic]
  exact hperm.map _

end Registry

/-- **Every member belongs to one class.** If a hierarchy comes about, then every topic with a type
tag other than those of classes, properties and data types is owned by the class registered for the
first such tag, and every class enumerates the topics that it owns, in their order: all classes
together have one member for each of these topics and none for any other topic. The pass for
members, from whose registry the hierarchy is made, has returned just these members, in the order of
the topics. -/
theorem enumerates_registryOf {settings : Settings} {topics : List Topic} {registry : Registry}
    (hregistry : (registryOf settings topics).outcome = .ok registry) :
    registry.Enumerates settings.lang topics ∧
      ∃ before after, Build.resolveMembers settings topics before =
          .ok ((topics.filter fun topic => hasMemberType topic.types).map
            (Topic.memberNode settings.lang)) after ∧
        registry = after.registry.freeze := by
  -- the hierarchy is the one that is known from the topics
  obtain ⟨hadmissible, rfl⟩ := outcome_registryOf_eq_ok_iff.mp hregistry
  refine ⟨{ owner := ?_, listed := ?_, once := ?_, present := ?_ }, ?_⟩
  · -- the first tag names a class that is declared, as the topics are admissible
    intro topic htopic hmember
    obtain ⟨tag, htag⟩ := Option.isSome_iff_exists.mp (Topic.hasMemberType_iff.mp hmember)
    refine ⟨tag, htag, ?_⟩
    rw [Registry.get?_hierarchy]
    exact classOf_isSome_iff.mpr (hadmissible.members topic htopic tag htag)
  · exact fun _ _ => Registry.members_hierarchy
  · exact Registry.flatMap_membersOf_hierarchy hadmissible
  · exact fun _ =>
      Registry.isSome_node?_of_registered (Registry.wellFormed_hierarchy hadmissible)
  · -- the build has come to its end, and so the pass for members has returned
    obtain ⟨w, hbuild, hw⟩ := exists_buildRegistry_of_registryOf hregistry
    obtain ⟨before, members, after, hmembers, hfreeze⟩ :=
      Build.exists_resolveMembers_of_buildRegistry hbuild
    obtain rfl := Build.yields_resolveMembers topics before members after hmembers
    exact ⟨before, after, hmembers, hw ▸ hfreeze⟩

/-- A data type that has a member; a class that is declared twice; a class that is a member of
itself as well; a topic with two tags of classes, between those of a property and of a class; and
one whose tags are the other way round. -/
def tangled : List Topic := [
  { subject := .iri "http://schema.org/Always",
    types := [.iri "http://schema.org/Boolean"] },
  { subject := .iri "http://schema.org/Place", types := [.iri classType] },
  { subject := .iri "http://schema.org/Place",
    types := [.iri "http://schema.org/Place", .iri classType] },
  { subject := .iri "http://schema.org/Kind",
    types := [.iri propertyType, .iri "http://schema.org/Place",
      .iri classType, .iri "http://schema.org/Kind"] },
  { subject := .iri "http://schema.org/Other",
    types := [.iri "http://schema.org/Kind", .iri "http://schema.org/Place"] },
  { subject := .iri "http://schema.org/label", types := [.iri propertyType] }]

theorem admissible_tangled : Admissible {} tangled where
  nonempty := by decide
  nameable := by decide
  classes := by decide
  acyclic := acyclic_of_rank (fun _ => 0) (by decide)
  properties := by decide
  members := by
    have hmembers : ∀ topic ∈ tangled, ∀ tag ∈ topic.memberTag?,
        IsDeclared "http://schema.org/" tangled tag.text := by decide
    exact hmembers

/-- Only the first tag decides, and of the class that is declared twice the later one. -/
theorem enumerates_registryOf_tangled :
    ∃ registry, (registryOf {} tangled).outcome = .ok registry ∧
      registry.Enumerates "en" tangled ∧
      registry.registered = [0, 1, 2, 3, 4, 5, 7, 8] ∧
      registry.classes.toList.map (fun node => node.members.map (·.subject.text)) =
        [[], [], [], [], [], ["http://schema.org/Always"], [],
          ["http://schema.org/Place", "http://schema.org/Kind"], ["http://schema.org/Other"]] := by
  have hregistry := outcome_registryOf_eq_ok_iff.mpr ⟨admissible_tangled, rfl⟩
  exact ⟨_, hregistry, (enumerates_registryOf hregistry).1, by decide, by decide⟩

end OntoTypes
