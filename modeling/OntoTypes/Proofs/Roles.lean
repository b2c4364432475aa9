import OntoTypes.Proofs.Descriptions
import OntoTypes.Proofs.Enumerations

/-!
# One comment in every role

A topic can be about a class, about a property and about a member of an enumeration, all at the same
time. Each of the three passes reads the comments of its topics by itself, along with other values
that differ from pass to pass, and files what it finds in another place: with the class, with the
property, or with the member in the enumeration of some other class. What they file is the same. It
is the last comment of the topic that is a text in the preferred language or in none; where there is
no such comment, none of them has one.

A builtin data type is described by the catalogue. A topic about it may still be about a property or
a member as well, and is described in these roles like any other topic.

Main definitions and results:

* `Registry.classComments`, `Registry.propertyComments`, `Registry.memberComments` — what is on
  record about an identifier in each of the roles;
* `Registry.DescribesAlike` — one comment in every role that a topic has;
* `describesAlike_registryOf` — every hierarchy describes its topics in that way.
-/

namespace OntoTypes

namespace Registry

/-- What the class of an identifier is described by. Builtin data types are not described by
comments. -/
def classComments (registry : Registry) (identifier : String) : List (Option String) :=
  (((registry.get? identifier).bind registry.node?).toList.filter (!·.isBuiltin)).map
    (·.description)

/-- What the properties of an identifier are described by. -/
def propertyComments (registry : Registry) (identifier : String) : List (Option String) :=
  (registry.properties.toList.filter (·.subject.text = identifier)).map (·.description)

/-- What the members of an identifier are described by, whichever classes they belong to. -/
def memberComments (registry : Registry) (identifier : String) : List (Option String) :=
  ((registry.registered.flatMap registry.membersOf).filter (·.subject.text = identifier)).map
    (·.comment)

/-- A topic is described by its last comment in every role that it has, once in each of them, and
not at all in the others. -/
structure DescribesAlike (registry : Registry) (namespaceIri lang : String) (topic : Topic) :
    Prop where
  ofClass : registry.classComments topic.subject.text =
    if topic.isClass = true ∧ topic.subject.text ∉ builtinIdentifiers namespaceIri then
      [lastComment lang topic.values] else []
  ofProperty : registry.propertyComments topic.subject.text =
    if topic.isProperty = true then [lastComment lang topic.values] else []
  ofMember : registry.memberComments topic.subject.text =
    if hasMemberType topic.types = true then [lastComment lang topic.values] else []

variable {settings : Settings} {topics : List Topic} {topic : Topic}

section

variable (hdistinct : (topics.map (·.subject.text)).Nodup) (htopic : topic ∈ topics)
include hdistinct htopic

/-- Of the topics in one role, there is the topic itself under its identifier, or none. -/
theorem filter_role (role : Topic → Bool) :
    (topics.filter role).filter (·.subject.text = topic.subject.text) =
      if role topic = true then [topic] else [] := by
  rw [List.filter_comm, filter_key_eq_singleton hdistinct htopic, List.filter_cons,
    List.filter_nil]

/-- In the role of a class, a topic describes the class of its identifier, if that is not a data
type. -/
theorem classComments_hierarchy (h : Admissible settings topics) :
    (hierarchy settings topics).classComments topic.subject.text =
      if topic.isClass = true ∧ topic.subject.text ∉ builtinIdentifiers settings.namespaceIri then
        [lastComment settings.lang topic.values] else [] := by
  rw [classComments, get?_hierarchy]
  split
  · -- the topic has this role
    rename_i hrole
    have hclass : topic ∈ classTopics settings.namespaceIri topics :=
      mem_classTopics.mpr ⟨htopic, hrole⟩
    obtain ⟨c, hc⟩ := Option.isSome_iff_exists.mp
      (classOf_isSome_iff.mpr (Or.inr ⟨topic, htopic, hrole.1, rfl⟩))
    -- the class has this topic and no other, and it is not builtin
    have habout : topicsAbout settings topics topic.subject.text = [topic] :=
      topicsAbout_of_mem hdistinct hclass
    have hplain : (recordedNode settings topics topic.subject.text c).isBuiltin = false := by
      rw [← Bool.not_eq_true]
      exact mt isSome_primitive_declaredNode_iff.mp hrole.2
    have hdescription : (recordedNode settings topics topic.subject.text c).description =
        lastComment settings.lang topic.values := by
      rw [recordedNode, habout, List.flatMap_singleton, Topic.comments, lastComment]
    rw [hc, Option.bind_some, node?_hierarchy_of_classOf h hc, Option.toList_some]
    simp [hplain, hdescription]
  · rename_i hrole
    -- it has not, but there may be a class of its identifier: that of a data type
    cases hc : classOf settings topics topic.subject.text with
    | none => rfl
    | some c =>
      have hbuiltin : topic.subject.text ∈ builtinIdentifiers settings.namespaceIri := by
        have hdeclared := classOf_isSome_iff.mp (Option.isSome_iff_exists.mpr ⟨c, hc⟩)
        by_contra hnot
        -- a class that is not builtin has a topic, which can only be this one
        obtain ⟨other, hother, hclass, htext⟩ := hdeclared.resolve_left hnot
        obtain rfl := List.inj_on_of_nodup_map hdistinct hother htopic htext
        exact hrole ⟨hclass, hnot⟩
      have hdata : (recordedNode settings topics topic.subject.text c).isBuiltin = true :=
        isSome_primitive_declaredNode_iff.mpr hbuiltin
      rw [Option.bind_some, node?_hierarchy_of_classOf h hc, Option.toList_some]
      simp [hdata]

/-- In the role of a property, it describes the one property that has been made of it. -/
theorem propertyComments_hierarchy :
    (hierarchy settings topics).propertyComments topic.subject.text =
      if topic.isProperty = true then [lastComment settings.lang topic.values] else [] := by
  have hproperties : (hierarchy settings topics).properties.toList =
      (topics.filter Topic.isProperty).map
        (Topic.propertyNode settings.lang (classOf settings topics)) := rfl
  -- a property is made under the identifier of its topic
  have hsubject : (fun property : PropertyNode =>
      decide (property.subject.text = topic.subject.text)) ∘
        Topic.propertyNode settings.lang (classOf settings topics) =
          fun other => decide (other.subject.text = topic.subject.text) := rfl
  rw [propertyComments, hproperties, List.filter_map, hsubject, filter_role hdistinct htopic]
  split <;> rfl

/-- In the role of a member, it describes the one member that has been made of it, in whichever
class that is. -/
theorem memberComments_hierarchy (h : Admissible settings topics) :
    (hierarchy settings topics).memberComments topic.subject.text =
      if hasMemberType topic.types = true then [lastComment settings.lang topic.values]
      else [] := by
  -- so is a member
  have hsubject : (fun member : MemberNode =>
      decide (member.subject.text = topic.subject.text)) ∘ Topic.memberNode settings.lang =
        fun other => decide (other.subject.text = topic.subject.text) := rfl
  -- class by class or topic by topic, the members are the same ones
  have hperm := ((flatMap_membersOf_hierarchy h).filter fun member =>
    decide (member.subject.text = topic.subject.text)).map MemberNode.comment
  rw [List.filter_map, hsubject, filter_role hdistinct htopic fun other =>
    hasMemberType other.types] at hperm
  cases hrole : hasMemberType topic.types with
  | true =>
    rw [hrole, if_pos rfl] at hperm
    rw [if_pos rfl]
    exact List.perm_singleton.mp hperm
  | false =>
    rw [hrole, if_neg Bool.false_ne_true] at hperm
    rw [if_neg Bool.false_ne_true]
    exact List.perm_nil.mp hperm

end

end Registry

/-- **The passes choose the same comment.** If a hierarchy comes about from topics with different
identifiers, then every topic is described alike in all of its roles: its class, unless that is a
builtin data type, its property and its member all have the text of its last comment in the
preferred language or in none, or none of them has a comment because the topic has no such
comment. -/
theorem describesAlike_registryOf {settings : Settings} {topics : List Topic} {registry : Registry}
    (hdistinct : (topics.map (·.subject.text)).Nodup)
    (hregistry : (registryOf settings topics).outcome = .ok registry) {topic : Topic}
    (htopic : topic ∈ topics) :
    registry.DescribesAlike settings.namespaceIri settings.lang topic := by
  obtain ⟨hadmissible, rfl⟩ := outcome_registryOf_eq_ok_iff.mp hregistry
  exact
    { ofClass := Registry.classComments_hierarchy hdistinct htopic hadmissible
      ofProperty := Registry.propertyComments_hierarchy hdistinct htopic
      ofMember := Registry.memberComments_hierarchy hdistinct htopic hadmissible }

/-- A topic with three roles. Its comments are in no language, in German, in English and no text,
with values between them that are read in one role only. The other topic in two roles is about a
builtin data type. -/
def surgery : List Topic := [
  { subject := .iri "http://schema.org/Surgery",
    types := [.iri propertyType, .iri "http://schema.org/Kind", .iri classType],
    values := [⟨.known .comment, .literal { lexical := "Cutting." }⟩,
      ⟨.known .subClassOf, .iri "http://schema.org/Kind"⟩,
      ⟨.known .comment, .literal { lexical := "Ein Eingriff.", language := some "de" }⟩,
      ⟨.known .domainIncludes, .iri "http://schema.org/Kind"⟩,
      ⟨.known .comment, .literal { lexical := "An operation.", language := some "en" }⟩,
      ⟨.known .label, .literal { lexical := "surgery" }⟩,
      ⟨.known .comment, .blank "note"⟩,
      ⟨.known .supersededBy, .iri "http://schema.org/Kind"⟩] },
  { subject := .iri "http://schema.org/Kind", types := [.iri classType] },
  { subject := .iri "http://schema.org/Text",
    types := [.iri classType, .iri "http://schema.org/Kind"],
    values := [⟨.known .comment, .literal { lexical := "Letters." }⟩] }]

theorem admissible_surgery : Admissible {} surgery where
  nonempty := by decide
  nameable := by decide
  classes := by decide
  acyclic := acyclic_of_rank (fun identifier => if identifier = "http://schema.org/Surgery" then 1
    else 0) (by decide)
  properties := by decide
  members := by
    have hmembers : ∀ topic ∈ surgery, ∀ tag ∈ topic.memberTag?,
        IsDeclared "http://schema.org/" surgery tag.text := by decide
    exact hmembers

/-- All three roles have the English comment. The comment on the data type is found with the member
only. -/
theorem describesAlike_registryOf_surgery :
    ∃ registry, (registryOf {} surgery).outcome = .ok registry ∧
      (∀ topic ∈ surgery, registry.DescribesAlike "http://schema.org/" "en" topic) ∧
      registry.classComments "http://schema.org/Surgery" = [some "An operation."] ∧
      registry.propertyComments "http://schema.org/Surgery" = [some "An operation."] ∧
      registry.memberComments "http://schema.org/Surgery" = [some "An operation."] ∧
      registry.classComments "http://schema.org/Text" = [] ∧
      registry.memberComments "http://schema.org/Text" = [some "Letters."] := by
  have hregistry := outcome_registryOf_eq_ok_iff.mpr ⟨admissible_surgery, rfl⟩
  have hdistinct : (surgery.map (·.subject.text)).Nodup := by decide
  exact ⟨_, hregistry, fun _ => describesAlike_registryOf hdistinct hregistry,
    by decide, by decide, by decide, by decide, by decide⟩

end OntoTypes
