import Mathlib.Data.List.Perm.Basic
import OntoTypes.Proofs.ClassGraph
import OntoTypes.Proofs.Counts
import OntoTypes.Proofs.Scopes

/-!
# Tallies

The statistics of a module are counted on the registry, in the middle between the topics and the
declarations. If there is one topic for each identifier, they can be counted at either end. Every
class topic makes one class, unless a builtin data type has its identifier, and every class makes
one group of declarations. Every topic with a type tag of its own kind makes one member, which ends
up in the enumeration of one class. A property counts once, however many classes own it, and not at
all if only builtin data types do.

Main definitions and results:

* `flatMap_filter_key_perm` — what is sorted into places is found place by place;
* `classOutlines_eq` — the outlines of the classes, one for each class topic;
* `tally_generate` — the statistics, counted on the topics and on the module.
-/

namespace OntoTypes

/-- Items of which each goes to one place at most are, place by place, those that go somewhere. -/
theorem flatMap_filter_key_perm [DecidableEq β] {key : α → Option β} {items : List α}
    {places : List β} (hplaces : places.Nodup)
    (hkey : ∀ place ∈ items.filterMap key, place ∈ places) :
    (places.flatMap fun place => items.filter fun item => key item = some place).Perm
      (items.filter fun item => (key item).isSome) := by
  induction items with
  | nil => simp
  | cons item items ih =>
    have hrest := ih fun place hplace => hkey place (by
      rw [List.filterMap_cons]
      split
      · exact hplace
      · exact List.mem_cons_of_mem _ hplace)
    -- an item goes to its own place only, and is put in front of what is there
    have hsplit : (fun place => (item :: items).filter fun item => key item = some place) =
        fun place => (if key item = some place then [item] else []) ++
          items.filter fun item => key item = some place := by
      funext place
      by_cases h : key item = some place <;> simp [h]
    -- its own place is listed once, so it is counted once
    have hown : places.flatMap (fun place => if key item = some place then [item] else []) =
        if (key item).isSome then [item] else [] := by
      cases hplace : key item with
      | none => simp
      | some place =>
        have hmem : place ∈ places :=
          hkey place (List.mem_filterMap.mpr ⟨item, List.mem_cons_self, hplace⟩)
        have hone : places.filter (fun other => other = place) = [place] :=
          filter_key_eq_singleton (hplaces.map fun _ _ h => h) hmem
        simp only [Option.some.injEq, eq_comm (a := place), flatMap_ite, hone]
        rfl
    rw [hsplit]
    refine (List.flatMap_append_perm places _ _).symm.trans ?_
    rw [hown]
    refine ((List.Perm.refl _).append hrest).trans (.of_eq ?_)
    by_cases h : (key item).isSome = true <;> simp [h]

/-- The members of a class are listed in its declarations, each once. -/
theorem Outline.length_members_declarations (outline : Outline) (settings : Settings) :
    ((outline.declarations settings).flatMap Declaration.members).length =
      outline.members.length := by
  rw [declarations, List.flatMap_append]
  cases hprimitive : outline.primitive <;> cases hmembers : outline.members <;>
    simp [enumeration?, hmembers, Declaration.members]

/-! ## What is counted -/

variable {settings : Settings} {topics : List Topic}

/-- Whether a topic is about a property of the class of some topic. -/
def Topic.isOwned (namespaceIri : String) (topics : List Topic) (topic : Topic) : Bool :=
  topic.isProperty && (topic.referenceTexts .domainIncludes).any fun owner =>
    (classTopics namespaceIri topics).any (·.subject.text = owner)

/-- Whether a topic names something that supersedes its subject. -/
def Topic.isSuperseded (topic : Topic) : Bool := !(topic.references .supersededBy).isEmpty

/-! ## Members -/

/-- A topic becomes a member of one declared class, if it is tagged as a member. -/
theorem length_members_outlines (h : Admissible settings topics) :
    ((outlines settings topics).flatMap (·.members)).length =
      topics.countP fun topic => hasMemberType topic.types := by
  -- class by class, as many members as topics are tagged with the class
  have hmembers : ∀ identifier, (declaredOutline settings topics identifier).members.length =
      (topics.filter fun topic => topic.memberTag?.map Term.text = some identifier).length := by
    intro identifier
    have hnames : ((declaredOutline settings topics identifier).members.map MemberNode.name).Perm
        (memberNames topics identifier) := members_declaredOutline_perm identifier
    simpa only [memberNames, List.length_map] using hnames.length_eq
  have hplaces : ((outlines settings topics).flatMap (·.members)).length =
      ((declaredIdentifiers settings topics).flatMap fun identifier =>
        topics.filter fun topic => topic.memberTag?.map Term.text = some identifier).length := by
    simp only [outlines, List.flatMap_map, List.length_flatMap, hmembers]
  -- no tag points to a class that is not declared
  have hdeclared : ∀ identifier ∈ topics.filterMap fun topic => topic.memberTag?.map Term.text,
      identifier ∈ declaredIdentifiers settings topics := by
    intro identifier hmem
    obtain ⟨topic, htopic, hplace⟩ := List.mem_filterMap.mp hmem
    obtain ⟨tag, htag, rfl⟩ := Option.map_eq_some_iff.mp hplace
    exact mem_declaredIdentifiers_iff.mpr (h.members topic htopic tag htag)
  have hperm := flatMap_filter_key_perm (nodup_declaredIdentifiers settings topics) hdeclared
  rw [hplaces, hperm.length_eq, ← List.countP_eq_length_filter]
  refine List.countP_congr fun topic _ => ?_
  rw [Topic.hasMemberType_iff, Option.isSome_map]

/-- The enumerations of a module have as many members as the outlines of its classes. -/
theorem length_members_groups (h : Admissible settings topics) :
    ((generation settings topics).groups.flatten.flatMap Declaration.members).length =
      ((outlines settings topics).flatMap (·.members)).length := by
  -- the groups are the declarations of the sorted outlines
  have hgroups : (generation settings topics).groups =
      (Text.sortOn EmissionKey.compare Outline.emissionKey (outlines settings topics)).map
        (Outline.declarations settings) := by
    rw [generation, Registry.groups_eq_outlines (Registry.wellFormed_hierarchy h),
      registered_map_outline h]
  have hsorted :=
    Text.sortOn_perm EmissionKey.compare Outline.emissionKey (outlines settings topics)
  calc ((generation settings topics).groups.flatten.flatMap Declaration.members).length
      = ((Text.sortOn EmissionKey.compare Outline.emissionKey (outlines settings topics)).flatMap
          fun outline => (outline.declarations settings).flatMap Declaration.members).length := by
        rw [hgroups, ← List.flatMap_def, List.flatMap_assoc]
    _ = ((Text.sortOn EmissionKey.compare Outline.emissionKey (outlines settings topics)).flatMap
          (·.members)).length := by
        rw [List.length_flatMap, List.length_flatMap]
        simp only [Outline.length_members_declarations]
    _ = ((outlines settings topics).flatMap (·.members)).length :=
        (hsorted.flatMap_right _).length_eq

/-! ## Classes -/

/-- A module has one group of declarations for each outline. -/
theorem length_groups (h : Admissible settings topics) :
    (generation settings topics).groups.length = (outlines settings topics).length := by
  rw [← registered_map_outline h, List.length_map, generation, List.length_map]
  exact (Text.sortOn_perm ..).length_eq

section

variable (hdistinct : (topics.map (·.subject.text)).Nodup)
include hdistinct

/-- The classes are those of the class topics, each with the outline of its identifier. -/
theorem classOutlines_eq :
    (outlines settings topics).filter (·.primitive.isNone) =
      (classTopics settings.namespaceIri topics).map fun topic =>
        declaredOutline settings topics topic.subject.text := by
  -- the outlines of the builtin data types are filtered out, all others stay
  have hprimitive : ∀ identifier,
      (declaredOutline settings topics identifier).primitive.isSome = true ↔
        identifier ∈ builtinIdentifiers settings.namespaceIri :=
    fun _ => isSome_primitive_declaredNode_iff
  have hbuiltin : ((builtinIdentifiers settings.namespaceIri).map
      (declaredOutline settings topics)).filter (·.primitive.isNone) = [] := by
    rw [List.filter_eq_nil_iff]
    intro outline hmem
    obtain ⟨identifier, hid, rfl⟩ := List.mem_map.mp hmem
    rw [← Option.not_isSome, (hprimitive identifier).mpr hid]
    simp
  have hclass : ((classTopics settings.namespaceIri topics).map fun topic =>
      declaredOutline settings topics topic.subject.text).filter (·.primitive.isNone) =
        (classTopics settings.namespaceIri topics).map fun topic =>
          declaredOutline settings topics topic.subject.text := by
    rw [List.filter_eq_self]
    intro outline hmem
    obtain ⟨topic, htopic, rfl⟩ := List.mem_map.mp hmem
    rw [← Option.not_isSome, Bool.not_eq_true', ← Bool.not_eq_true, hprimitive]
    exact (mem_classTopics.mp htopic).2.2
  -- no two class topics are about one identifier, so each is declared on its own
  have houtlines : outlines settings topics =
      (builtinIdentifiers settings.namespaceIri).map (declaredOutline settings topics) ++
        (classTopics settings.namespaceIri topics).map fun topic =>
          declaredOutline settings topics topic.subject.text := by
    rw [outlines, declaredIdentifiers, Registry.keys_declared hdistinct, List.map_append,
      List.map_map]
    rfl
  rw [houtlines, List.filter_append, hbuiltin, hclass, List.nil_append]

/-- What supersedes a class is named by its topic. -/
theorem isEmpty_supersededBy_declaredOutline {topic : Topic}
    (htopic : topic ∈ classTopics settings.namespaceIri topics) :
    (declaredOutline settings topics topic.subject.text).supersededBy.isEmpty =
      (topic.references .supersededBy).isEmpty := by
  -- the topic is the only one about its identifier
  have habout : digestsAbout settings.namespaceIri (topics.map (Topic.digest settings.lang))
      topic.subject.text = [topic.digest settings.lang] := by
    rw [digestsAbout_map_digest, Registry.topicsAbout_of_mem hdistinct htopic]
    rfl
  unfold declaredOutline outlineFor
  dsimp only
  rw [habout, List.flatMap_singleton, List.isEmpty_map]
  rfl

/-- The superseded classes are those of which a topic says so. -/
theorem length_superseded_outlines :
    (((outlines settings topics).filter (·.primitive.isNone)).filter
        (!·.supersededBy.isEmpty)).length =
      (classTopics settings.namespaceIri topics).countP Topic.isSuperseded := by
  rw [classOutlines_eq hdistinct, ← List.countP_eq_length_filter, List.countP_map]
  refine List.countP_congr fun topic htopic => ?_
  rw [Function.comp_apply, isEmpty_supersededBy_declaredOutline hdistinct htopic]
  rfl

/-! ## Properties -/

omit hdistinct in
/-- A class has the properties of the topics that name it as an owner. -/
theorem mem_properties_declaredOutline_iff {identifier text : String} :
    text ∈ (declaredOutline settings topics identifier).properties.map (·.subject.text) ↔
      ∃ topic ∈ topics, topic.isProperty = true ∧
        identifier ∈ topic.referenceTexts .domainIncludes ∧ topic.subject.text = text := by
  -- neither the order nor how often a property is listed matters here
  have hsorted : ((declaredOutline settings topics identifier).properties.map
      (·.subject.text)).Perm ((propertiesFor (topics.map (Topic.digest settings.lang))
        identifier).map (·.subject.text)) := (Text.sortOn_perm ..).map _
  have hcount : ∀ topic : Topic, (topic.digest settings.lang).domains.count identifier =
      (topic.referenceTexts .domainIncludes).count identifier := fun _ => Multiset.coe_count ..
  rw [hsorted.mem_iff, propertiesFor]
  simp only [List.filter_map, List.flatMap_map, List.mem_map, List.mem_flatMap, List.mem_filter,
    List.mem_replicate, hcount, ne_eq, List.count_eq_zero, not_not]
  constructor
  · rintro ⟨_, ⟨topic, ⟨htopic, hproperty⟩, howner, rfl⟩, rfl⟩
    exact ⟨topic, htopic, hproperty, howner, rfl⟩
  · rintro ⟨topic, htopic, hproperty, howner, rfl⟩
    exact ⟨_, ⟨topic, ⟨htopic, hproperty⟩, howner, rfl⟩, rfl⟩

/-- The properties of all classes together are those of the topics that name one of them. -/
theorem card_properties_outlines :
    ((((outlines settings topics).filter (·.primitive.isNone)).flatMap (·.properties)).map
        (·.subject.text)).toFinset.card =
      topics.countP (Topic.isOwned settings.namespaceIri topics) := by
  -- a property that several classes have is counted once
  have hset : ((((outlines settings topics).filter (·.primitive.isNone)).flatMap
      (·.properties)).map (·.subject.text)).toFinset =
        ((topics.filter (Topic.isOwned settings.namespaceIri topics)).map
          (·.subject.text)).toFinset := by
    ext text
    rw [classOutlines_eq hdistinct, List.mem_toFinset, List.map_flatMap, List.flatMap_map,
      List.mem_flatMap, List.mem_toFinset]
    simp only [mem_properties_declaredOutline_iff]
    simp only [List.mem_map, List.mem_filter, Topic.isOwned, Bool.and_eq_true, List.any_eq_true,
      decide_eq_true_eq]
    constructor
    · rintro ⟨owner, howner, topic, htopic, hproperty, hmem, rfl⟩
      exact ⟨topic, ⟨htopic, hproperty, _, hmem, owner, howner, rfl⟩, rfl⟩
    · rintro ⟨topic, ⟨htopic, hproperty, _, hmem, owner, howner, rfl⟩, rfl⟩
      exact ⟨owner, howner, topic, htopic, hproperty, hmem, rfl⟩
  have hnodup : ((topics.filter (Topic.isOwned settings.namespaceIri topics)).map
      (·.subject.text)).Nodup := hdistinct.sublist (List.filter_sublist.map _)
  rw [hset, List.toFinset_card_of_nodup hnodup, List.length_map, List.countP_eq_length_filter]

end

/-! ## All together -/

/-- **The statistics agree with the topics and with the module.** If there is one topic for each
identifier, then of what is generated: there are as many groups of declarations as classes and
builtin data types together; the classes are the class topics that do not stand for a builtin data
type; the members are the topics with a type tag of their own kind, and all of them are listed in
the enumerations; the properties are the property topics that name the class of some class topic as
an owner; and the superseded classes are those whose topics name something that supersedes them. -/
theorem tally_generate {g : Generation} (hdistinct : (topics.map (·.subject.text)).Nodup)
    (hg : (generate settings topics).outcome = .ok g) :
    g.statistics.classes + g.statistics.builtins = g.groups.length ∧
      g.statistics.classes = (classTopics settings.namespaceIri topics).length ∧
      g.statistics.enumMembers = (topics.countP fun topic => hasMemberType topic.types) ∧
      g.statistics.enumMembers = (g.groups.flatten.flatMap Declaration.members).length ∧
      g.statistics.properties = topics.countP (Topic.isOwned settings.namespaceIri topics) ∧
      g.statistics.deprecated =
        (classTopics settings.namespaceIri topics).countP Topic.isSuperseded := by
  obtain ⟨hadmissible, rfl⟩ := outcome_generate_eq_ok_iff.mp hg
  have hstatistics : (generation settings topics).statistics =
      Statistics.ofOutlines (outlines settings topics) := statistics_hierarchy hadmissible hdistinct
  -- the rest of the outlines are those of builtin data types
  have hclasses : ((outlines settings topics).filter (·.primitive.isNone)).length ≤
      (outlines settings topics).length := List.length_filter_le ..
  rw [hstatistics, length_groups hadmissible, length_members_groups hadmissible]
  refine ⟨Nat.add_sub_cancel' hclasses, ?_, length_members_outlines hadmissible, rfl,
    card_properties_outlines hdistinct, length_superseded_outlines hdistinct⟩
  rw [Statistics.ofOutlines, classOutlines_eq hdistinct, List.length_map]

/-- A class that is superseded and one that is not; a topic about a builtin data type, superseded
too; a property of both classes, one of the data type and one of nothing; and a member of a class
and one of the data type. -/
def townHall : List Topic := [
  { subject := .iri "http://schema.org/Thing", types := [.iri classType] },
  { subject := .iri "http://schema.org/Hall", types := [.iri classType],
    values := [⟨.known .subClassOf, .iri "http://schema.org/Thing"⟩,
      ⟨.known .supersededBy, .iri "http://schema.org/Thing"⟩] },
  { subject := .iri "http://schema.org/Text", types := [.iri classType],
    values := [⟨.known .supersededBy, .iri "http://schema.org/Thing"⟩] },
  { subject := .iri "http://schema.org/name", types := [.iri propertyType],
    values := [⟨.known .domainIncludes, .iri "http://schema.org/Thing"⟩,
      ⟨.known .domainIncludes, .iri "http://schema.org/Hall"⟩] },
  { subject := .iri "http://schema.org/length", types := [.iri propertyType],
    values := [⟨.known .domainIncludes, .iri "http://schema.org/Text"⟩] },
  { subject := .iri "http://schema.org/unused", types := [.iri propertyType] },
  { subject := .iri "http://schema.org/MainHall", types := [.iri "http://schema.org/Hall"] },
  { subject := .iri "http://schema.org/Untitled", types := [.iri "http://schema.org/Text"] }]

/-- Nothing is missing in the topics of the example. -/
theorem admissible_townHall : Admissible {} townHall where
  nonempty := by decide
  nameable := by decide
  classes := by decide
  acyclic := acyclic_of_rank (fun identifier => if identifier = "http://schema.org/Hall" then 1
    else 0) (by decide)
  properties := by decide
  members := by
    have hmembers : ∀ topic ∈ townHall, ∀ tag ∈ topic.memberTag?,
        IsDeclared "http://schema.org/" townHall tag.text := by decide
    exact hmembers

/-- Of eight topics, two make classes, two make members, and one makes a property that counts. -/
theorem tally_generate_townHall :
    ∃ g, (generate {} townHall).outcome = .ok g ∧ (townHall.map (·.subject.text)).Nodup ∧
      2 + g.statistics.builtins = g.groups.length ∧ g.statistics.classes = 2 ∧
      g.statistics.enumMembers = 2 ∧
      (g.groups.flatten.flatMap Declaration.members).length = 2 ∧
      g.statistics.properties = 1 ∧ g.statistics.deprecated = 1 := by
  have hg : (generate {} townHall).outcome = .ok (generation {} townHall) :=
    outcome_generate_eq_ok_iff.mpr ⟨admissible_townHall, rfl⟩
  have hdistinct : (townHall.map (·.subject.text)).Nodup := by decide
  obtain ⟨hgroups, hclasses, hmembers, hlisted, hproperties, hdeprecated⟩ :=
    tally_generate hdistinct hg
  have htopics : (classTopics "http://schema.org/" townHall).length = 2 ∧
      (townHall.countP fun topic => hasMemberType topic.types) = 2 ∧
      townHall.countP (Topic.isOwned "http://schema.org/" townHall) = 1 ∧
      (classTopics "http://schema.org/" townHall).countP Topic.isSuperseded = 1 := by decide
  obtain ⟨hclassTopics, htagged, howned, hsuperseded⟩ := htopics
  have htwo := hclasses.trans hclassTopics
  exact ⟨_, hg, hdistinct, htwo ▸ hgroups, htwo, hmembers.trans htagged,
    hlisted.symm.trans (hmembers.trans htagged), hproperties.trans howned,
    hdeprecated.trans hsuperseded⟩

end OntoTypes
