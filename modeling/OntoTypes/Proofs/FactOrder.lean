import OntoTypes.Proofs.Filing
import OntoTypes.Proofs.OutlineText
import OntoTypes.Proofs.TopicOrder

/-!
# Facts in another order

An ontology is a set of facts, but the program meets them in some order. Of this order a module
shows one thing: where a class has several parents, a property several types, or a notice several
replacements, they are named in the order in which the facts mention them. Everything else is the
same whatever the order, provided that no subject has two comments or two types outside the
vocabulary and that the keys of the subjects tell them apart.

Main definitions and results:

* `Unambiguous` — facts that leave nothing else to their order;
* `digest_declaredTopic_rearranged`, `exists_perm_rearranged` — their topics are rearranged with
  them;
* `generate_eq_of_mentions` — facts that mention everything in the same order generate the same;
* `render_eq_iff_of_perm` — and the modules are the same text exactly if their classes agree.
-/

namespace OntoTypes

variable {settings : Settings} {facts facts' : List Fact}

/-- Facts of which no two contradict each other: the keys of subjects tell them apart, and no
subject has two comments or two type tags outside the vocabulary. -/
structure Unambiguous (facts : List Fact) : Prop where
  subjects : ∀ a ∈ facts, ∀ b ∈ facts,
    Text.SortKey.of a.subject.text = Text.SortKey.of b.subject.text → a.subject = b.subject
  comments : ∀ a ∈ facts, ∀ b ∈ facts, a.subject = b.subject → a.predicate = .known .comment →
    b.predicate = .known .comment → a.object = b.object
  tags : ∀ a ∈ facts, ∀ b ∈ facts, a.subject = b.subject → a.predicate = .known .type →
    b.predicate = .known .type → a.object.isMetaType = false → b.object.isMetaType = false →
      a.object = b.object

/-- Whether facts are unambiguous does not depend on their order. -/
theorem Unambiguous.of_perm (h : Unambiguous facts) (hperm : facts.Perm facts') :
    Unambiguous facts' where
  subjects a ha b hb := h.subjects a (hperm.mem_iff.mpr ha) b (hperm.mem_iff.mpr hb)
  comments a ha b hb := h.comments a (hperm.mem_iff.mpr ha) b (hperm.mem_iff.mpr hb)
  tags a ha b hb := h.tags a (hperm.mem_iff.mpr ha) b (hperm.mem_iff.mpr hb)

/-- Facts that are part of unambiguous facts are unambiguous. -/
theorem Unambiguous.filter (h : Unambiguous facts) (keep : Fact → Bool) :
    Unambiguous (facts.filter keep) where
  subjects a ha b hb := h.subjects a (List.mem_of_mem_filter ha) b (List.mem_of_mem_filter hb)
  comments a ha b hb := h.comments a (List.mem_of_mem_filter ha) b (List.mem_of_mem_filter hb)
  tags a ha b hb := h.tags a (List.mem_of_mem_filter ha) b (List.mem_of_mem_filter hb)

/-! ## One topic -/

section

variable (hperm : facts.Perm facts')
include hperm

/-- What does not tell literals apart is true of the type tags in any order. -/
theorem any_types_eq_of_perm (subject : Term) {keep : Term → Bool}
    (hliteral : ∀ l l' : Literal, keep (.literal l) = keep (.literal l')) :
    (FactStore.declaredTopic subject facts).value.types.any keep =
      (FactStore.declaredTopic subject facts').value.types.any keep := by
  rw [Bool.eq_iff_iff, Topic.any_types_declaredTopic hliteral,
    Topic.any_types_declaredTopic hliteral]
  simp only [hperm.mem_iff]

/-- Whether a topic has a type does not depend on the order. -/
theorem isEmpty_types_eq_of_perm (subject : Term) :
    (FactStore.declaredTopic subject facts).value.types.isEmpty =
      (FactStore.declaredTopic subject facts').value.types.isEmpty := by
  have hempty : ∀ tags : List Term, tags.isEmpty = !tags.any fun _ => true := by
    intro tags
    cases tags <;> rfl
  rw [hempty, hempty, any_types_eq_of_perm hperm subject fun _ _ => rfl]

/-- References in another order are mentioned in another order. -/
theorem references_perm {word : Vocabulary} (hword : word.isEdge = true) (subject : Term) :
    ((FactStore.declaredTopic subject facts).value.references word).Perm
      ((FactStore.declaredTopic subject facts').value.references word) := by
  rw [Topic.references_declaredTopic hword, Topic.references_declaredTopic hword]
  exact eraseDups_perm (hperm.filterMap _)

/-- **Facts in another order make a rearranged topic**, if they are about one subject and
unambiguous. -/
theorem digest_declaredTopic_rearranged (lang : String) {subject : Term} (h : Unambiguous facts)
    (hsubject : ∀ fact ∈ facts, fact.subject = subject) :
    ((FactStore.declaredTopic subject facts).value.digest lang).Rearranged
      ((FactStore.declaredTopic subject facts').value.digest lang) := by
  have h' := h.of_perm hperm
  -- all of the facts are about the subject, in either order
  have hone : ∀ a ∈ facts, ∀ b ∈ facts, a.subject = b.subject :=
    fun a ha b hb => (hsubject a ha).trans (hsubject b hb).symm
  have hone' : ∀ a ∈ facts', ∀ b ∈ facts', a.subject = b.subject :=
    fun a ha b hb => hone a (hperm.mem_iff.mpr ha) b (hperm.mem_iff.mpr hb)
  -- of type tags the digest asks only which ones there are
  have hdataType : (FactStore.declaredTopic subject facts).value.types.any Term.isDataType =
      (FactStore.declaredTopic subject facts').value.types.any Term.isDataType :=
    any_types_eq_of_perm hperm subject fun _ _ => rfl
  have hclassType : (FactStore.declaredTopic subject facts).value.types.any Term.isClassType =
      (FactStore.declaredTopic subject facts').value.types.any Term.isClassType :=
    any_types_eq_of_perm hperm subject fun _ _ => rfl
  refine
    { subject := by simp [Topic.digest]
      isClass := ?_
      isProperty := any_types_eq_of_perm hperm subject fun _ _ => rfl
      comment := Option.ext fun text => ?_
      parents := (references_perm hperm rfl subject).map _
      range := (references_perm hperm rfl subject).map _
      domains := Multiset.coe_eq_coe.mpr ((references_perm hperm rfl subject).map _)
      supersededBy := references_perm hperm rfl subject
      memberOf := congrArg (Option.map Term.text) (Option.ext fun tag => ?_) }
  · -- a class, by its type tags
    simp only [Topic.digest, Topic.isClass, FactStore.subject_declaredTopic, hdataType, hclassType]
  · -- the comment, of which there is one
    simp only [Topic.digest]
    rw [Topic.getLast?_comments_eq_some_iff fun a ha b hb => h.comments a ha b hb (hone a ha b hb),
      Topic.getLast?_comments_eq_some_iff fun a ha b hb => h'.comments a ha b hb (hone' a ha b hb)]
    simp only [hperm.mem_iff]
  · -- and the tag of a member, of which there is one, too
    rw [Topic.memberTag?_eq_some_iff fun a ha b hb => h.tags a ha b hb (hone a ha b hb),
      Topic.memberTag?_eq_some_iff fun a ha b hb => h'.tags a ha b hb (hone' a ha b hb)]
    simp only [hperm.mem_iff]

/-! ## All topics -/

/-- The topic about each identifier is rearranged with the facts, if there is one. -/
theorem topicAbout?_rearranged (lang : String) (h : Unambiguous facts) (identifier : String) :
    Option.Rel (fun a b => (a.digest lang).Rearranged (b.digest lang))
      (topicAbout? identifier facts) (topicAbout? identifier facts') := by
  have habout : (factsAbout identifier facts).Perm (factsAbout identifier facts') := hperm.filter _
  have hpart : Unambiguous (factsAbout identifier facts) := h.filter _
  -- the facts about an identifier, which are rearranged with the others
  have htext : ∀ fact ∈ factsAbout identifier facts, fact.subject.text = identifier :=
    fun fact hfact => of_decide_eq_true (List.mem_filter.mp hfact).2
  rw [topicAbout?, topicAbout?]
  generalize factsAbout identifier facts = about at habout hpart htext
  generalize factsAbout identifier facts' = about' at habout
  match about, about' with
  | [], [] => exact .none
  | [], first' :: rest' => exact absurd habout.length_eq (by simp)
  | first :: rest, [] => exact absurd habout.length_eq (by simp)
  | first :: rest, first' :: rest' =>
    -- one identifier is one subject, whichever fact comes first
    have hsubject : ∀ fact ∈ first :: rest, fact.subject = first.subject := by
      intro fact hfact
      refine hpart.subjects fact hfact first (List.mem_cons_self ..) ?_
      rw [htext fact hfact, htext first (List.mem_cons_self ..)]
    have hfirst : first'.subject = first.subject :=
      hsubject first' (habout.mem_iff.mpr (List.mem_cons_self ..))
    have hdigest := digest_declaredTopic_rearranged habout lang hpart hsubject
    rw [topicOf?, topicOf?, hfirst, Option.filter_some, Option.filter_some,
      isEmpty_types_eq_of_perm habout]
    split
    · exact .some hdigest
    · exact .none

/-- The same subjects are mentioned in either order. -/
theorem subjects_perm : (subjects facts).Perm (subjects facts') :=
  eraseDups_perm ((hperm.filter _).map _)

/-- **Facts in another order make rearranged topics in another order.** -/
theorem exists_perm_rearranged (settings : Settings) (h : Unambiguous facts) :
    ∃ topics, (groupFacts settings facts).value.Perm topics ∧
      List.Forall₂ Digest.Rearranged (topics.map (Topic.digest settings.lang))
        ((groupFacts settings facts').value.map (Topic.digest settings.lang)) := by
  -- the topics of one order, listed in the order of the other
  refine ⟨(subjects facts').filterMap fun identifier => topicAbout? identifier facts, ?_, ?_⟩
  · rw [value_groupFacts]
    exact (subjects_perm hperm).filterMap _
  · rw [value_groupFacts, List.forall₂_map_left_iff, List.forall₂_map_right_iff]
    refine List.rel_filterMap (R := Eq) ?_ (List.forall₂_refl _)
    rintro identifier _ rfl
    exact topicAbout?_rearranged hperm settings.lang h identifier

end

/-- The topics of unambiguous facts are told apart. -/
theorem Unambiguous.toldApart (h : Unambiguous facts) (settings : Settings) :
    ToldApart ((groupFacts settings facts).value.map (Topic.digest settings.lang)) := by
  refine toldApart_of_topics settings.lang (nodup_groupFacts settings facts) ?_
  intro a ha b hb hkey
  obtain ⟨fact, hfact, hsubject⟩ := exists_fact_of_mem_groupFacts ha
  obtain ⟨fact', hfact', hsubject'⟩ := exists_fact_of_mem_groupFacts hb
  rw [← hsubject, ← hsubject'] at hkey ⊢
  rw [h.subjects fact hfact fact' hfact' hkey]

/-! ## The same order of mentions -/

/-- What an identifier refers to by edges of one kind, each where facts first mention it. -/
def mentions (word : Vocabulary) (identifier : String) (facts : List Fact) : List Term :=
  ((factsAbout identifier facts).filterMap fun fact => fact.value.reference? word).eraseDups

/-- The references of a topic are the mentions in its facts. -/
theorem references_of_topicAbout? {identifier : String} {topic : Topic}
    (h : topicAbout? identifier facts = some topic) {word : Vocabulary}
    (hword : word.isEdge = true) : topic.references word = mentions word identifier facts := by
  have htopic := Option.eq_some_of_filter_eq_some h
  rw [mentions]
  generalize factsAbout identifier facts = about at htopic
  match about with
  | [] => cases htopic
  | first :: rest =>
    obtain rfl := Option.some.inj htopic
    exact Topic.references_declaredTopic hword first.subject (first :: rest)

/-- Rearranged digests are the same if their lists are. -/
theorem Digest.Rearranged.eq {a b : Digest} (h : a.Rearranged b) (hparents : a.parents = b.parents)
    (hrange : a.range = b.range) (hsuperseded : a.supersededBy = b.supersededBy) : a = b := by
  cases a
  cases b
  obtain ⟨hsubject, hclass, hproperty, hcomment, -, -, hdomains, -, hmember⟩ := h
  simp_all

/-- The digest of a topic does not depend on the order of the facts, but for the mentions. -/
theorem map_digest_topicAbout?_eq (hperm : facts.Perm facts') (h : Unambiguous facts)
    {identifier : String}
    (hmentions : ∀ word ∈ [Vocabulary.subClassOf, .rangeIncludes, .supersededBy],
      mentions word identifier facts = mentions word identifier facts') (lang : String) :
    (topicAbout? identifier facts).map (Topic.digest lang) =
      (topicAbout? identifier facts').map (Topic.digest lang) := by
  have hrearranged := topicAbout?_rearranged hperm lang h identifier
  -- there is a topic for both orders, or for none of them
  cases htopic : topicAbout? identifier facts with
  | none =>
    cases htopic' : topicAbout? identifier facts' with
    | none => rfl
    | some topic' =>
      rw [htopic, htopic'] at hrearranged
      cases hrearranged
  | some topic =>
    cases htopic' : topicAbout? identifier facts' with
    | none =>
      rw [htopic, htopic'] at hrearranged
      cases hrearranged
    | some topic' =>
      rw [htopic, htopic', Option.rel_some_some] at hrearranged
      -- the topics are rearrangements, and what could be rearranged is in the same order
      have hreferences : ∀ word ∈ [Vocabulary.subClassOf, .rangeIncludes, .supersededBy],
          topic.references word = topic'.references word := by
        intro word hword
        have hedge : word.isEdge = true := by
          revert word
          decide
        rw [references_of_topicAbout? htopic hedge, references_of_topicAbout? htopic' hedge,
          hmentions word hword]
      -- of a digest three lists depend on the order of the facts
      have hparents : (topic.digest lang).parents = (topic'.digest lang).parents :=
        congrArg (List.map Term.text) (hreferences .subClassOf (by simp))
      have hrange : (topic.digest lang).range = (topic'.digest lang).range :=
        congrArg (List.map Term.text) (hreferences .rangeIncludes (by simp))
      have hsuperseded : (topic.digest lang).supersededBy = (topic'.digest lang).supersededBy :=
        hreferences .supersededBy (by simp)
      rw [Option.map_some, Option.map_some, hrearranged.eq hparents hrange hsuperseded]

/-- **Facts that mention everything in the same order generate the same module.** -/
theorem generate_eq_of_mentions (hperm : facts.Perm facts') (h : Unambiguous facts)
    (hmentions : ∀ word ∈ [Vocabulary.subClassOf, .rangeIncludes, .supersededBy],
      ∀ identifier, mentions word identifier facts = mentions word identifier facts')
    {g : Generation} :
    (generate settings (groupFacts settings facts).value).outcome = .ok g ↔
      (generate settings (groupFacts settings facts').value).outcome = .ok g := by
  -- so the digest of every identifier is the same
  have hsame : ∀ identifier, (topicAbout? identifier facts).map (Topic.digest settings.lang) =
      (topicAbout? identifier facts').map (Topic.digest settings.lang) :=
    fun identifier => map_digest_topicAbout?_eq hperm h
      (fun word hword => hmentions word hword identifier) settings.lang
  refine outcome_generate_eq_ok_iff_of_digests (h.toldApart settings) ?_
  rw [value_groupFacts, value_groupFacts, List.map_filterMap, List.map_filterMap, funext hsame]
  exact (subjects_perm hperm).filterMap _

/-! ## Another order of mentions -/

/-- The outline that facts give the class of an identifier. -/
noncomputable def outlineOf (settings : Settings) (facts : List Fact) (identifier : String) :
    Outline :=
  outlineFor settings.namespaceIri
    ((groupFacts settings facts).value.map (Topic.digest settings.lang)) identifier

/-- The identifiers of a module, in the order in which their classes are listed. -/
def listedIdentifiers (settings : Settings) (topics : List Topic) : List String :=
  Text.sortOn EmissionKey.compare
    (fun identifier => ⟨(declaredNode settings.namespaceIri identifier).primitive.isSome,
      SubjectKey.of (.iri identifier)⟩)
    (declaredIdentifiers settings topics)

/-- What is listed is what is declared. -/
theorem mem_listedIdentifiers_iff {topics : List Topic} {identifier : String} :
    identifier ∈ listedIdentifiers settings topics ↔
      IsDeclared settings.namespaceIri topics identifier := by
  rw [listedIdentifiers, (Text.sortOn_perm ..).mem_iff, mem_declaredIdentifiers_iff]

/-- A module shows the outlines of its identifiers. -/
theorem render_generation {topics : List Topic}
    (hkeys : ToldApart (topics.map (Topic.digest settings.lang)))
    (h : Admissible settings topics) :
    (generation settings topics).render =
      renderModule ((listedIdentifiers settings topics).map fun identifier =>
        (outlineFor settings.namespaceIri (topics.map (Topic.digest settings.lang))
          identifier).declarations settings) := by
  rw [Generation.render, generation_eq_outlines hkeys h, outlines, Text.sortOn_map, List.map_map]
  rfl

section

variable {topics topics' : List Topic}
  (hlike : List.Forall₂ Digest.Rearranged (topics.map (Topic.digest settings.lang))
    (topics'.map (Topic.digest settings.lang)))
include hlike

/-- Rearranged topics are admissible together. -/
theorem admissible_iff_of_rearranged :
    Admissible settings topics ↔ Admissible settings topics' := by
  have hto := covered_of_rearranged hlike
  have hfrom := covered_of_rearranged (flip_rearranged hlike)
  exact ⟨Admissible.of_covered hto hfrom, Admissible.of_covered hfrom hto⟩

/-- The modules of rearranged topics have the same statistics, and they are the same text exactly if
their classes agree. -/
theorem generation_rearranged (hkeys : ToldApart (topics.map (Topic.digest settings.lang)))
    (hkeys' : ToldApart (topics'.map (Topic.digest settings.lang)))
    (h : Admissible settings topics) :
    (generation settings topics).statistics = (generation settings topics').statistics ∧
      ((generation settings topics).render = (generation settings topics').render ↔
        ∀ identifier, IsDeclared settings.namespaceIri topics identifier →
          identifier ∉ builtinIdentifiers settings.namespaceIri →
            (outlineFor settings.namespaceIri (topics.map (Topic.digest settings.lang))
              identifier).Agrees settings
              (outlineFor settings.namespaceIri (topics'.map (Topic.digest settings.lang))
                identifier)) := by
  have h' := (admissible_iff_of_rearranged hlike).mp h
  constructor
  · -- counting does not ask in which order outlines name things
    rw [generation_eq_outlines hkeys h, generation_eq_outlines hkeys' h']
    exact Statistics.ofOutlines_eq_of_rearranged (outlines_rearranged hlike)
  · -- both modules list the same identifiers, whose outlines are compared one by one
    have hlisted : listedIdentifiers settings topics = listedIdentifiers settings topics' := by
      rw [listedIdentifiers, listedIdentifiers, declaredIdentifiers_eq_of_rearranged hlike]
    rw [render_generation hkeys h, render_generation hkeys' h', ← hlisted,
      render_eq_iff settings fun identifier _ => outlineFor_rearranged hlike identifier]
    refine forall_congr' fun identifier => ?_
    have hbuiltin : (outlineFor settings.namespaceIri (topics.map (Topic.digest settings.lang))
        identifier).primitive = none ↔ identifier ∉ builtinIdentifiers settings.namespaceIri := by
      rw [← isSome_primitive_declaredNode_iff, Bool.not_eq_true, Option.isSome_eq_false_iff,
        Option.isNone_iff_eq_none]
      rfl
    rw [mem_listedIdentifiers_iff, hbuiltin]

end

/-- **The order of facts shows in the order of names, and in nothing else.** Unambiguous facts
generate a module in every order or in none, and the statistics are the same in every order. The
texts of two orders are the same exactly if each class that is not builtin names its parents, the
types of its fields, and the replacements in its comments, in the same order.

Facts are unambiguous if no two of them compete for one place: otherwise what is kept depends on
which one comes last, and the texts may differ in more than the order of names. -/
theorem render_eq_iff_of_perm (settings : Settings) (hperm : facts.Perm facts')
    (h : Unambiguous facts) :
    ((∃ g, (generate settings (groupFacts settings facts).value).outcome = .ok g) ↔
      ∃ g, (generate settings (groupFacts settings facts').value).outcome = .ok g) ∧
    ∀ g g', (generate settings (groupFacts settings facts).value).outcome = .ok g →
      (generate settings (groupFacts settings facts').value).outcome = .ok g' →
        g.statistics = g'.statistics ∧
          (g.render = g'.render ↔ ∀ identifier,
            IsDeclared settings.namespaceIri (groupFacts settings facts).value identifier →
              identifier ∉ builtinIdentifiers settings.namespaceIri →
                (outlineOf settings facts identifier).Agrees settings
                  (outlineOf settings facts' identifier)) := by
  obtain ⟨topics, htopics, hlike⟩ := exists_perm_rearranged hperm settings h
  have hkeys := h.toldApart settings
  have hkeys' := (h.of_perm hperm).toldApart settings
  have hdigests := htopics.map (Topic.digest settings.lang)
  -- the topics of both orders are compared through the topics of one in the order of the other
  have hsame : ∀ g, (generate settings (groupFacts settings facts).value).outcome = .ok g ↔
      (generate settings topics).outcome = .ok g :=
    fun g => outcome_generate_eq_ok_iff_of_digests hkeys hdigests
  -- a module comes about exactly if the topics are admissible
  have hgenerated : ∀ topics : List Topic,
      (∃ g, (generate settings topics).outcome = .ok g) ↔ Admissible settings topics := by
    intro topics
    simp only [outcome_generate_eq_ok_iff, exists_and_left, exists_eq, and_true]
  constructor
  · rw [exists_congr hsame, hgenerated, hgenerated]
    exact admissible_iff_of_rearranged hlike
  · intro g g' hg hg'
    obtain ⟨hadmissible, rfl⟩ := outcome_generate_eq_ok_iff.mp ((hsame g).mp hg)
    obtain ⟨-, rfl⟩ := outcome_generate_eq_ok_iff.mp hg'
    obtain ⟨hstatistics, hrender⟩ :=
      generation_rearranged hlike (hkeys.of_perm hdigests) hkeys' hadmissible
    refine ⟨hstatistics, hrender.trans (forall_congr' fun identifier => ?_)⟩
    -- and the identifiers that are compared are the same ones
    have hdeclared : IsDeclared settings.namespaceIri topics identifier ↔
        IsDeclared settings.namespaceIri (groupFacts settings facts).value identifier :=
      ⟨IsDeclared.of_covered (covered_of_perm hdigests.symm),
        IsDeclared.of_covered (covered_of_perm hdigests)⟩
    rw [hdeclared, outlineOf, outlineOf, outlineFor_eq_of_perm hdigests hkeys]

/-- Three classes, the last one below both others. -/
def twoParents (first second : String) : List Fact := [
  ⟨.iri "http://schema.org/A", .known .type, .iri classType⟩,
  ⟨.iri "http://schema.org/B", .known .type, .iri classType⟩,
  ⟨.iri "http://schema.org/C", .known .type, .iri classType⟩,
  ⟨.iri "http://schema.org/C", .known .subClassOf, .iri first⟩,
  ⟨.iri "http://schema.org/C", .known .subClassOf, .iri second⟩]

theorem unambiguous_twoParents :
    Unambiguous (twoParents "http://schema.org/B" "http://schema.org/A") where
  subjects := by
    have hfolded : ∀ a ∈ twoParents "http://schema.org/B" "http://schema.org/A",
        ∀ b ∈ twoParents "http://schema.org/B" "http://schema.org/A",
          Text.caseFold a.subject.text.toList = Text.caseFold b.subject.text.toList →
            a.subject = b.subject := by decide
    exact fun a ha b hb hkey => hfolded a ha b hb (congrArg Text.SortKey.folded hkey)
  comments := by decide
  tags := by decide

theorem value_groupFacts_twoParents :
    (groupFacts {} (twoParents "http://schema.org/B" "http://schema.org/A")).value = [
      { subject := .iri "http://schema.org/A", types := [.iri classType] },
      { subject := .iri "http://schema.org/B", types := [.iri classType] },
      { subject := .iri "http://schema.org/C", types := [.iri classType],
        values := [⟨.known .subClassOf, .iri "http://schema.org/B"⟩,
          ⟨.known .subClassOf, .iri "http://schema.org/A"⟩] }] := by
  decide

theorem isSubclass_twoParents {child parent : String}
    (h : IsSubclass "http://schema.org/"
      (groupFacts {} (twoParents "http://schema.org/B" "http://schema.org/A")).value child parent) :
    child = "http://schema.org/C" ∧ parent ≠ "http://schema.org/C" := by
  obtain ⟨topic, htopic, rfl, node, hnode, rfl⟩ := h
  obtain ⟨hin, -⟩ := mem_classTopics.mp htopic
  obtain ⟨hvalue, -⟩ := Topic.mem_references.mp hnode
  rw [value_groupFacts_twoParents] at hin
  simp only [List.mem_cons, List.not_mem_nil, or_false] at hin
  -- only the third class has values
  rcases hin with rfl | rfl | rfl
  · simp at hvalue
  · simp at hvalue
  · refine ⟨rfl, ?_⟩
    have hnodes : node = .iri "http://schema.org/B" ∨ node = .iri "http://schema.org/A" := by
      simpa using hvalue
    rcases hnodes with rfl | rfl <;> decide

theorem admissible_twoParents :
    Admissible {} (groupFacts {}
      (twoParents "http://schema.org/B" "http://schema.org/A")).value where
  nonempty := by decide
  nameable := by decide
  classes := by decide
  acyclic := by
    intro identifier hcycle
    obtain ⟨_, hfirst, -⟩ := Relation.TransGen.head'_iff.mp hcycle
    obtain ⟨_, -, hlast⟩ := Relation.TransGen.tail'_iff.mp hcycle
    exact (isSubclass_twoParents hlast).2 (isSubclass_twoParents hfirst).1
  properties := by decide
  members := by
    have hnone : ∀ topic ∈ (groupFacts {}
        (twoParents "http://schema.org/B" "http://schema.org/A")).value,
          topic.memberTag? = none := by decide
    intro topic htopic tag htag
    rw [hnone topic htopic] at htag
    cases htag

/-- A class below two others names its parents in the order in which they are mentioned. -/
theorem render_ne_twoParents :
    ∃ g g', (generate {} (groupFacts {}
        (twoParents "http://schema.org/B" "http://schema.org/A")).value).outcome = .ok g ∧
      (generate {} (groupFacts {}
        (twoParents "http://schema.org/A" "http://schema.org/B")).value).outcome = .ok g' ∧
      g.statistics = g'.statistics ∧ g.render ≠ g'.render := by
  have hperm : (twoParents "http://schema.org/B" "http://schema.org/A").Perm
      (twoParents "http://schema.org/A" "http://schema.org/B") := by
    exact (((List.Perm.swap _ _ []).cons _).cons _).cons _
  obtain ⟨hiff, hsame⟩ := render_eq_iff_of_perm {} hperm unambiguous_twoParents
  obtain ⟨g, hg⟩ : ∃ g, (generate {} (groupFacts {}
      (twoParents "http://schema.org/B" "http://schema.org/A")).value).outcome = .ok g :=
    ⟨_, outcome_generate_eq_ok_iff.mpr ⟨admissible_twoParents, rfl⟩⟩
  obtain ⟨g', hg'⟩ := hiff.mp ⟨g, hg⟩
  obtain ⟨hstatistics, hrender⟩ := hsame g g' hg hg'
  refine ⟨g, g', hg, hg', hstatistics, fun hsameText => ?_⟩
  -- the texts would be the same only if the parents were named in the same order
  have hagrees := hrender.mp hsameText "http://schema.org/C" (by decide) (by decide)
  exact absurd hagrees.parents (by decide)

end OntoTypes
