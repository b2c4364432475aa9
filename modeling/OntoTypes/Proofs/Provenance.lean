import OntoTypes.Proofs.Ingestion
import OntoTypes.Proofs.KeywordNames
import OntoTypes.Proofs.Relevance

/-!
# Members that only say where a term comes from

What merely says where a term comes from is left out in two places. A member of a document is
skipped before it is read, by what its keys expand to; a topic is passed over when topics are
listed, by the predicates of its values. The first filter skips nothing that the second one would
not have passed over: the facts of a skipped member, added to any store, would open a topic that is
not listed, or annotate one that is there, with values that no pass has a use for.

Main definitions and results:

* `Topic.AnnotatedAs` — a topic before and after it is said where the term comes from;
* `annotates_topics_addDeclaration` — a declaration that only says so, added to a store;
* `LinkedData.isProvenance_of_isSkippable` — a skipped member states nothing else;
* `LinkedData.annotates_of_isSkippable` — what the facts of a skipped member would do.
-/

namespace OntoTypes

/-! ## Values that say where a term comes from -/

/-- Two of the predicates with a meaning of their own say so, and none of the other eight. -/
theorem Predicate.isProvenance_cases {predicate : Predicate} (h : predicate.isProvenance = true) :
    predicate = .known .source ∨ predicate = .known .closeMatch ∨
      ∃ iri, predicate = .other iri := by
  cases predicate with
  | other iri => exact .inr (.inr ⟨iri, rfl⟩)
  | known word =>
    cases word with
    | source => exact .inl rfl
    | closeMatch => exact .inr (.inl rfl)
    | _ => cases h

namespace Value

variable {value : Value}

/-- No pass has a use for where a term comes from. -/
theorem not_isClaimed_of_isProvenance (h : value.predicate.isProvenance = true) (lang : String) :
    value.isClaimed lang = false := by
  obtain ⟨predicate, object⟩ := value
  obtain rfl | rfl | ⟨iri, rfl⟩ := Predicate.isProvenance_cases h <;> rfl

/-- A value of that kind is no type tag. -/
theorem isOther_of_isProvenance (h : value.predicate.isProvenance = true) :
    value.isOther = true := by
  obtain ⟨predicate, object⟩ := value
  obtain rfl | rfl | ⟨iri, rfl⟩ := Predicate.isProvenance_cases h <;> rfl

/-- It is no comment or label either, so nothing gives way to it. -/
theorem not_isSingular_of_isProvenance (h : value.predicate.isProvenance = true) :
    value.predicate.isSingular = false := by
  obtain ⟨predicate, object⟩ := value
  obtain rfl | rfl | ⟨iri, rfl⟩ := Predicate.isProvenance_cases h <;> rfl

/-- A value that is not singular is there already, or it is filed behind all others. -/
theorem file_slots_of_not_isSingular (h : value.predicate.isSingular = false)
    (values : List Value) :
    slots.file values value = values ∨ slots.file values value = values ++ [value] := by
  rw [file_slots]
  cases hfind : values.find? (·.sameSlot value) with
  | none => exact .inr rfl
  | some kept =>
    have hslot : kept.sameSlot value = true := by simpa using List.find?_some hfind
    have hsingular : kept.predicate.isSingular = false := by rwa [predicate_of_sameSlot hslot]
    exact .inl (if_pos (same_of_sameSlot hslot hsingular))

/-- Values that are not singular leave those before them as they are. -/
theorem exists_fileAll_eq_append (values : List Value) {later : List Value}
    (h : ∀ value ∈ later, value.predicate.isSingular = false) :
    ∃ notes, slots.fileAll values later = values ++ notes ∧ notes ⊆ later := by
  -- over the values that come later, for any that are there: each of them is there already or goes
  -- to the end
  induction later generalizing values with
  | nil => exact ⟨[], (List.append_nil _).symm, List.Subset.refl _⟩
  | cons first later ih =>
    obtain ⟨hfirst, hlater⟩ := List.forall_mem_cons.mp h
    obtain ⟨notes, hnotes, hsubset⟩ := ih (slots.file values first) hlater
    rw [Slots.fileAll, List.foldl_cons, ← Slots.fileAll, hnotes]
    rcases file_slots_of_not_isSingular hfirst values with hfile | hfile
    · exact ⟨notes, by rw [hfile], List.subset_cons_of_subset _ hsubset⟩
    · refine ⟨first :: notes, by rw [hfile, List.append_assoc]; rfl, ?_⟩
      exact List.cons_subset_cons _ hsubset

end Value

/-! ## Topics and stores that are told so -/

namespace Topic

/-- A topic before and after it is said where the term comes from. -/
structure AnnotatedAs (topic later : Topic) : Prop where
  subject : later.subject = topic.subject
  types : later.types = topic.types
  /-- No value is lost, and no pass has a use for those that are new. -/
  values : ∃ notes, later.values = topic.values ++ notes ∧
    ∀ value ∈ notes, value.predicate.isProvenance = true ∧ ∀ lang, value.isClaimed lang = false

/-- A topic that is told nothing is annotated, too. -/
theorem AnnotatedAs.refl (topic : Topic) : topic.AnnotatedAs topic where
  subject := rfl
  types := rfl
  values := ⟨[], (List.append_nil _).symm, List.forall_mem_nil _⟩

/-- A topic that is only told where the term comes from is annotated. -/
theorem annotatedAs_insertAll (topic : Topic) {values : List Value}
    (h : ∀ value ∈ values, value.predicate.isProvenance = true) :
    topic.AnnotatedAs (topic.insertAll values) := by
  -- all of it is filed among the values, and nothing among the type tags
  have hothers : values.filter Value.isOther = values :=
    List.filter_eq_self.mpr fun value hvalue => Value.isOther_of_isProvenance (h value hvalue)
  have htags : values.filterMap Value.tag? = [] := by
    refine List.filterMap_eq_nil_iff.mpr fun value hvalue => if_neg ?_
    simpa [Value.isOther] using Value.isOther_of_isProvenance (h value hvalue)
  -- values that are not singular are added at the end, or they are there already
  obtain ⟨notes, hnotes, hsubset⟩ := Value.exists_fileAll_eq_append topic.values
    fun value hvalue => Value.not_isSingular_of_isProvenance (h value hvalue)
  rw [insertAll_eq, hothers, htags, hnotes]
  refine { subject := rfl, types := rfl, values := ⟨notes, rfl, fun value hvalue => ?_⟩ }
  have hprovenance := h value (hsubset hvalue)
  exact ⟨hprovenance, Value.not_isClaimed_of_isProvenance hprovenance⟩

/-- Topics that are annotated are listed as before. -/
theorem forall₂_annotatedAs_filter {topics later : List Topic}
    (h : List.Forall₂ AnnotatedAs topics later) :
    List.Forall₂ AnnotatedAs (topics.filter fun topic => !topic.types.isEmpty)
      (later.filter fun topic => !topic.types.isEmpty) :=
  List.rel_filter (fun _ _ hannotated => by simp only [hannotated.types]) h

end Topic

/-- A topic that nothing is said about but where the term comes from is passed over. -/
theorem isProvenanceOnly_declaredTopic {facts : List Fact}
    (h : ∀ fact ∈ facts, fact.predicate.isProvenance = true) (subject : Term) :
    (FactStore.declaredTopic subject facts).value.isProvenanceOnly = true := by
  have hvalues : ∀ value ∈ facts.map Fact.value, value.predicate.isProvenance = true :=
    List.forall_mem_map.mpr h
  -- the topic of a declaration is an empty one that has been annotated
  have hdeclared := Topic.annotatedAs_insertAll { subject := subject } hvalues
  rw [← Topic.value_declaredTopic] at hdeclared
  obtain ⟨notes, hnotes, hprovenance⟩ := hdeclared.values
  rw [List.nil_append] at hnotes
  rw [Topic.isProvenanceOnly, hdeclared.types, hnotes]
  exact List.all_eq_true.mpr fun value hvalue => (hprovenance value hvalue).1

/-- **A declaration that only says where a term comes from**, added to a store, opens a topic that
is not listed, or annotates one that is there. -/
theorem annotates_topics_addDeclaration {facts : List Fact}
    (h : ∀ fact ∈ facts, fact.predicate.isProvenance = true) (settings : Settings)
    (store : FactStore) :
    List.Forall₂ Topic.AnnotatedAs (store.topics settings).value
      ((store.addDeclaration settings facts).value.topics settings).value := by
  -- where nothing is added, every topic is listed as it was
  have hsame : List.Forall₂ Topic.AnnotatedAs (store.topics settings).value
      (store.topics settings).value := List.forall₂_same.mpr fun topic _ => .refl topic
  have hvalues : ∀ value ∈ facts.map Fact.value, value.predicate.isProvenance = true :=
    List.forall_mem_map.mpr h
  cases facts with
  | nil => exact hsame
  | cons first rest =>
    rw [FactStore.addDeclaration]
    by_cases hignored : isIgnoredSubject first.subject.text = true
    · rw [if_pos hignored]
      exact hsame
    · rw [if_neg hignored, Logged.value_bind]
      cases hget : store.get? first.subject.text with
      | none =>
        have hdeclared := Topic.annotatedAs_insertAll { subject := first.subject } hvalues
        rw [← Topic.value_declaredTopic] at hdeclared
        -- no topic has been stored under this subject
        have hnew : first.subject.text ∉ Keyed.keys store.entries := by
          have hlookup : store.entries.lookup first.subject.text = none := hget
          rw [← Keyed.isSome_lookup_iff, hlookup]
          exact Bool.false_ne_true
        -- the new topic stands at the end, and it has no types
        have hentries : (store.put (FactStore.declaredTopic first.subject (first :: rest)).value) =
            ⟨store.entries ++ [(first.subject.text,
              (FactStore.declaredTopic first.subject (first :: rest)).value)]⟩ := by
          rw [FactStore.put, hdeclared.subject, Keyed.set_of_not_mem hnew]
        show List.Forall₂ _ _ ((store.put _).topics settings).value
        rw [hentries]
        simpa [FactStore.topics, hdeclared.types] using hsame
      | some existing =>
        -- merging the declaration is telling its facts to the topic that is there
        have hmerged := Topic.annotatedAs_insertAll existing hvalues
        rw [← Topic.merge_declaredTopic existing first.subject] at hmerged
        exact Topic.forall₂_annotatedAs_filter (Keyed.forall₂_set .refl hmerged hget)

/-! ## Members that are skipped -/

namespace LinkedData

/-- Predicates are known to say where a term comes from by their IRIs. -/
theorem isProvenance_ofIri :
    ∀ iri ∈ provenanceIris, (Predicate.ofIri iri).isProvenance = true := by
  decide

section

variable {context : Context} {fields : List (String × Json)} {facts : List Fact}

/-- A member that is skipped, and not for its subject, has no type, and all of its keys say where
the term comes from. -/
theorem isSkippable_eq_ok_true
    (hid : (context.get? "@id" fields).bind Json.asText? ≠ some metaTestSubject)
    (hskip : isSkippable context fields = .ok true) :
    context.get? "@type" fields = none ∧
      ∀ entry ∈ fields, isTelling context entry.1 = true →
        ∃ iri ∈ provenanceIris, context.keyIri entry.1 = .ok (some (some iri)) := by
  rw [isSkippable, if_neg hid] at hskip
  split at hskip
  · cases hskip
  rename_i htype
  refine ⟨by simpa using htype, fun entry hentry htelling => ?_⟩
  -- the keys are expanded before any of them is looked at
  cases hiris : ((fields.map Prod.fst).filter (isTelling context)).mapM context.keyIri with
  | error e =>
    rw [hiris] at hskip
    cases hskip
  | ok iris =>
    rw [hiris] at hskip
    have hall : (!iris.isEmpty && iris.all fun iri => iri.join.any provenanceIris.contains) =
        true := Except.ok.inj hskip
    obtain ⟨part, hpart, hkey⟩ := exists_of_mem_left (mapM_eq_ok_iff.mp hiris)
      (List.mem_filter.mpr ⟨List.mem_map_of_mem hentry, htelling⟩)
    have hany := List.all_eq_true.mp (Bool.and_eq_true_iff.mp hall).2 part hpart
    -- a key that is left without an IRI is not among those that say where a term comes from
    obtain _ | _ | iri := part
    · cases hany
    · cases hany
    · exact ⟨iri, List.contains_iff_mem.mp hany, hkey⟩

/-- Under a predicate that says where a term comes from, nothing else is stated. -/
theorem isProvenance_of_mem_entryFacts {subject : Term} {key : String} {value : Json}
    (hkeyword : context.isKeyword key = false)
    (hkey : ∃ iri ∈ provenanceIris, context.keyIri key = .ok (some (some iri)))
    (hfacts : (entryFacts context subject key value).outcome = .ok facts) :
    ∀ fact ∈ facts, fact.predicate.isProvenance = true := by
  obtain ⟨iri, hiri, hkey⟩ := hkey
  -- every fact of the entry has this predicate
  have hpredicate : context.predicateIri key = .ok (some iri) := by
    rw [Context.predicateIri, hkey]
    rfl
  rw [outcome_entryFacts_of_predicate hkeyword, hpredicate] at hfacts
  intro fact hfact
  obtain ⟨element, -, hfound⟩ := exists_of_mem_right (mapM_eq_ok_iff.mp hfacts) hfact
  obtain ⟨term, -, rfl⟩ := map_eq_ok_iff.mp hfound
  exact isProvenance_ofIri iri hiri

/-- **A member that is skipped states nothing but where a term comes from**, if it is not skipped
for its subject. -/
theorem isProvenance_of_isSkippable
    (hid : (context.get? "@id" fields).bind Json.asText? ≠ some metaTestSubject)
    (hskip : isSkippable context fields = .ok true)
    (hfacts : (memberFacts context fields).outcome = .ok facts) :
    ∀ fact ∈ facts, fact.predicate.isProvenance = true := by
  obtain ⟨htype, hkeys⟩ := isSkippable_eq_ok_true hid hskip
  rw [outcome_memberFacts, htype] at hfacts
  obtain ⟨subject, -, hfacts⟩ := bind_eq_ok_iff.mp hfacts
  obtain ⟨types, htypes, hfacts⟩ := bind_eq_ok_iff.mp hfacts
  obtain ⟨pieces, hpieces, rfl⟩ := map_eq_ok_iff.mp hfacts
  -- without a type there are no facts but those of the entries
  obtain rfl : [] = types := Except.ok.inj htypes
  intro fact hfact
  obtain ⟨piece, hpiece, hfact⟩ := List.mem_flatten.mp hfact
  obtain ⟨entry, hentry, hstated⟩ := exists_of_mem_right (mapM_eq_ok_iff.mp hpieces) hpiece
  cases hkeyword : context.isKeyword entry.1 with
  | true =>
    -- nothing is stated under a keyword
    rw [outcome_entryFacts_of_keyword hkeyword] at hstated
    obtain rfl : [] = piece := Except.ok.inj hstated
    cases hfact
  | false =>
    -- a key that is taken for a predicate has been looked at when the member was skipped
    have htelling : isTelling context entry.1 = true := by
      simp only [Context.isKeyword, Bool.or_eq_false_iff] at hkeyword
      rw [isTelling, hkeyword.1.1, hkeyword.1.2]
      rfl
    exact isProvenance_of_mem_entryFacts hkeyword (hkeys entry hentry htelling) hstated fact hfact

end

/-- **What is skipped would not have been seen.** Take a member that is skipped under some context,
and not for its subject. If its facts can be read, all of them say where the term comes from: by
themselves they make up a topic that is passed over, and in whatever store they are added to, the
same topics are listed as before, with the same types, and their values are followed by some that no
pass has a use for.

The first hypothesis leaves out the other reason for skipping a member, its subject, where the facts
may be of any kind. That no pass has a use for such values is `Registry.ofTopics_map_claimed`. -/
theorem annotates_of_isSkippable {context : Context} {fields : List (String × Json)}
    {facts : List Fact}
    (hid : (context.get? "@id" fields).bind Json.asText? ≠ some metaTestSubject)
    (hskip : isSkippable context fields = .ok true)
    (hfacts : (memberFacts context fields).outcome = .ok facts) :
    (∀ fact ∈ facts, fact.predicate.isProvenance = true) ∧
      (∀ subject, (FactStore.declaredTopic subject facts).value.isProvenanceOnly = true) ∧
      ∀ settings store, List.Forall₂ Topic.AnnotatedAs (FactStore.topics settings store).value
        ((store.addDeclaration settings facts).value.topics settings).value := by
  have hprovenance := isProvenance_of_isSkippable hid hskip hfacts
  exact ⟨hprovenance, isProvenanceOnly_declaredTopic hprovenance,
    annotates_topics_addDeclaration hprovenance⟩

/-- A class that is said to come from two places, in one version, by a member whose identifier has
another name and whose type is null. -/
def sourceMember : List (String × Json) :=
  [("id", .text "http://schema.org/Place"), ("@type", .null),
    ("http://purl.org/dc/terms/source",
      .array [.object [("@id", .text "http://schema.org/Atlas")], .text "an atlas"]),
    ("https://schema.org/softwareVersion", .text "2.0")]

/-- Two classes, one of which is known to come from one of the places. -/
def placesStore : FactStore where
  entries := [
    ("http://schema.org/Place",
      { subject := .iri "http://schema.org/Place", types := [.iri classType],
        values := [⟨.known .source, .iri "http://schema.org/Atlas"⟩] }),
    ("http://schema.org/Thing",
      { subject := .iri "http://schema.org/Thing", types := [.iri classType] })]

/-- The member is skipped; had it not been, the class would be said to come from the other place
too, and in which version. -/
theorem annotates_of_isSkippable_sourceMember :
    ∃ facts, (memberFacts idContext sourceMember).outcome = .ok facts ∧
      isSkippable idContext sourceMember = .ok true ∧
      (∀ fact ∈ facts, fact.predicate.isProvenance = true) ∧
      List.Forall₂ Topic.AnnotatedAs (placesStore.topics {}).value
        ((placesStore.addDeclaration {} facts).value.topics {}).value ∧
      ((placesStore.addDeclaration {} facts).value.topics {}).value.map (·.values.length) =
        [3, 0] := by
  have hid : (idContext.get? "@id" sourceMember).bind Json.asText? ≠ some metaTestSubject := by
    decide
  have hskip : isSkippable idContext sourceMember = .ok true := rfl
  obtain ⟨hprovenance, -, htopics⟩ := annotates_of_isSkippable hid hskip rfl
  exact ⟨_, rfl, hskip, hprovenance, htopics {} placesStore, by decide⟩

end LinkedData

end OntoTypes
