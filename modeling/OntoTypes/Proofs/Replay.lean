import OntoTypes.Proofs.Ingestion

/-!
# Replaying declarations

Declarations may arrive a second time, and topics may be merged in steps of any size. A replay
brings back comments that later ones had overwritten, but only for as long as it has not come to
these: every slot is in use by then, so no place changes, and each slot ends with the item that it
ended with before. Merging in steps comes down to the same thing as filing: a topic that was told
its contents passes on what it was told.

Main definitions and results:

* `Slots.fileAll_fileAll_self` — filing the same items again changes nothing;
* `FactStore.ofFacts_append_self` — so facts may be told twice;
* `Topic.IsTold`, `Topic.merge_assoc` — merging topics that were told their contents is associative;
* `ofDeclarations_append_self` — replayed declarations leave the store as it was.
-/

namespace OntoTypes

/-! ## Filing again -/

namespace Slots

variable (slots : Slots α) {items later : List α}

/-- What is kept already stays where it is. -/
theorem file_of_mem (h : slots.Apart items) {item : α} (hitem : item ∈ items) :
    slots.file items item = items := by
  induction items with
  | nil => cases hitem
  | cons kept rest ih =>
    obtain ⟨hkept, hrest⟩ := List.pairwise_cons.mp h
    rcases List.mem_cons.mp hitem with rfl | hitem
    · -- an item is settled with itself, whichever of the two is kept
      have hsettle : slots.settle item item = item := (slots.settle_eq item item).elim id id
      rw [file, if_pos (slots.refl item), hsettle]
    · have hother : ¬ slots.same kept item = true := by
        rw [hkept item hitem]
        exact Bool.false_ne_true
      rw [file, if_neg hother, ih hrest hitem]

/-- So filing what is kept already changes nothing. -/
theorem fileAll_of_subset (h : slots.Apart items) (hlater : ∀ item ∈ later, item ∈ items) :
    slots.fileAll items later = items := by
  induction later with
  | nil => rfl
  | cons item later ih =>
    obtain ⟨hitem, hrest⟩ := List.forall_mem_cons.mp hlater
    rw [fileAll, List.foldl_cons, ← fileAll, slots.file_of_mem h hitem, ih hrest]

/-- **Filing again.** Items that are all filed a second time leave what they left the first time. -/
theorem fileAll_fileAll_self (items : List α) :
    slots.fileAll (slots.fileAll [] items) items = slots.fileAll [] items := by
  -- they may be filed among themselves first, and what comes of that is in its slots already
  rw [← slots.fileAll_fileAll_nil (slots.fileAll [] items) items]
  exact slots.fileAll_of_subset (slots.apart_fileAll_nil items) fun _ hitem => hitem

end Slots

/-! ## Telling a topic again -/

namespace Topic

/-- A topic that is told everything again stays as it is. -/
theorem insertAll_insertAll (subject : Term) (values : List Value) :
    (insertAll { subject := subject } values).insertAll values =
      insertAll { subject := subject } values := by
  rw [insertAll_eq (insertAll { subject := subject } values)]
  simp only [insertAll_eq { subject := subject }, Slots.fileAll_fileAll_self]

/-- A topic can be told its facts in two parts. -/
theorem declaredTopic_append (subject : Term) (facts later : List Fact) :
    (FactStore.declaredTopic subject (facts ++ later)).value =
      (FactStore.declaredTopic subject facts).value.insertAll (later.map Fact.value) := by
  rw [value_declaredTopic, value_declaredTopic, List.map_append, insertAll_append]

end Topic

/-- Telling all of them again changes nothing. -/
theorem topicOf?_append_self (facts : List Fact) : topicOf? (facts ++ facts) = topicOf? facts := by
  cases facts with
  | nil => rfl
  | cons first rest =>
    rw [List.cons_append, topicOf?, topicOf?, ← List.cons_append, Topic.declaredTopic_append,
      Topic.value_declaredTopic, Topic.insertAll_insertAll]

/-! ## Telling the store again -/

/-- The facts about an identifier come from both parts. -/
theorem factsAbout_append (identifier : String) (facts later : List Fact) :
    factsAbout identifier (facts ++ later) =
      factsAbout identifier facts ++ factsAbout identifier later :=
  List.filter_append ..

/-- Nothing is first seen in a replay. -/
theorem subjects_append_self (facts : List Fact) : subjects (facts ++ facts) = subjects facts := by
  have htwice : ∀ items : List String, (items ++ items).eraseDups = items.eraseDups := by
    intro items
    have hnone : items.removeAll items = [] := by
      simp [List.removeAll, List.filter_eq_nil_iff]
    rw [List.eraseDups_append, hnone]
    exact List.append_nil _
  rw [subjects, subjects, List.filter_append, List.map_append, htwice]

/-- **Facts may be told twice**: the store is the same, topic by topic and in the same order. -/
theorem FactStore.ofFacts_append_self (facts : List Fact) :
    (ofFacts (facts ++ facts)).value = (ofFacts facts).value := by
  -- a store is determined by its keys, in order, and by what is found under each of them
  have hkeys : Keyed.keys (ofFacts (facts ++ facts)).value.entries =
      Keyed.keys (ofFacts facts).value.entries := by
    rw [keys_ofFacts, keys_ofFacts, subjects_append_self]
  -- under each identifier there is the topic of its facts, which may be told twice
  have hget : ∀ identifier, (ofFacts (facts ++ facts)).value.get? identifier =
      (ofFacts facts).value.get? identifier := by
    intro identifier
    rw [get?_ofFacts, get?_ofFacts, factsAbout_append, topicOf?_append_self]
  have hnodup : (Keyed.keys (ofFacts (facts ++ facts)).value.entries).Nodup := by
    rw [keys_ofFacts]
    exact nodup_subjects _
  exact congrArg FactStore.mk (Keyed.eq_of_lookup hnodup hkeys hget)

/-- Declarations leave the store of their facts. -/
private theorem value_ofDeclarations (settings : Settings) {declarations : List (List Fact)}
    (hfacts : ∀ facts ∈ declarations, ∀ a ∈ facts, ∀ b ∈ facts, a.subject.text = b.subject.text) :
    (FactStore.ofDeclarations settings declarations).value =
      (FactStore.ofFacts declarations.flatten).value := by
  rw [FactStore.ofDeclarations, Logged.value_foldlM]
  exact FactStore.addDeclarations_eq_addFacts settings FactStore.filed_empty hfacts

/-! ## Merging in steps -/

namespace Topic

/-- Topics that were told their contents, one after another. -/
inductive IsTold : Topic → Prop where
  | new (subject : Term) : IsTold { subject := subject }
  | insert {topic : Topic} (h : IsTold topic) (predicate : Predicate) (object : Term) :
      IsTold (topic.insert predicate object).value

/-- What such a topic was told are facts about its subject. -/
theorem IsTold.exists_eq {topic : Topic} (h : topic.IsTold) :
    ∃ facts, topic = (FactStore.declaredTopic topic.subject facts).value := by
  induction h with
  | new subject => exact ⟨[], rfl⟩
  | @insert topic _ predicate object ih =>
    obtain ⟨facts, hfacts⟩ := ih
    refine ⟨facts ++ [⟨topic.subject, predicate, object⟩], ?_⟩
    rw [subject_insert, FactStore.declaredTopic_concat, ← hfacts]

/-- **Merging is associative**, whatever the first topic is and whatever the topics are about. -/
theorem merge_assoc (first : Topic) {second third : Topic} (hsecond : second.IsTold)
    (hthird : third.IsTold) :
    ((first.merge second).value.merge third).value =
      (first.merge (second.merge third).value).value := by
  obtain ⟨facts, hfacts⟩ := hsecond.exists_eq
  obtain ⟨later, hlater⟩ := hthird.exists_eq
  -- the second and third topic together were told the facts of both
  have hboth : (second.merge third).value =
      (FactStore.declaredTopic second.subject (facts ++ later)).value := by
    rw [hlater, merge_declaredTopic, declaredTopic_append, ← hfacts]
  rw [hboth, merge_declaredTopic, List.map_append, insertAll_append, hlater, merge_declaredTopic,
    hfacts, merge_declaredTopic]

end Topic

/-- **A replay of declarations changes nothing.** Declarations that are each about one subject can
all be added a second time: the store is the same, and so are the topics, their order, and the order
of their type tags and values. In particular topics can be merged in steps of any size.

This is about the list as a whole. A declaration that is added again by itself may bring back a
comment that a later one has overwritten, as in the example below. -/
theorem ofDeclarations_append_self (settings : Settings) (declarations : List (List Fact))
    (hfacts : ∀ facts ∈ declarations, ∀ a ∈ facts, ∀ b ∈ facts, a.subject.text = b.subject.text) :
    (FactStore.ofDeclarations settings (declarations ++ declarations)).value =
        (FactStore.ofDeclarations settings declarations).value ∧
      (groupDeclarations settings (declarations ++ declarations)).value =
        (groupDeclarations settings declarations).value ∧
      ∀ first second third : Topic, second.IsTold → third.IsTold →
        ((first.merge second).value.merge third).value =
          (first.merge (second.merge third).value).value := by
  -- declarations leave what their facts leave, and facts may be told twice
  have hstore : (FactStore.ofDeclarations settings (declarations ++ declarations)).value =
      (FactStore.ofDeclarations settings declarations).value := by
    have htwice : ∀ facts ∈ declarations ++ declarations, ∀ a ∈ facts, ∀ b ∈ facts,
        a.subject.text = b.subject.text := fun facts hmem =>
      hfacts facts ((List.mem_append.mp hmem).elim id id)
    rw [value_ofDeclarations settings htwice, value_ofDeclarations settings hfacts,
      List.flatten_append, FactStore.ofFacts_append_self]
  refine ⟨hstore, ?_, fun first _ _ => Topic.merge_assoc first⟩
  rw [groupDeclarations, groupDeclarations, Logged.value_bind, Logged.value_bind, hstore]

/-- Two declarations of a place, of which the second overwrites the comment of the first. Replayed,
the first one brings its comment back, and the second one overwrites it again. Three topics tell of
the place in turn, in languages that are written in two ways: it does not matter which are merged
first. -/
theorem ofDeclarations_append_self_place :
    let place : Term := .iri "http://schema.org/Place"
    let tag : Term := .iri "http://www.w3.org/2000/01/rdf-schema#Class"
    let comment (text lang : String) : Value :=
      ⟨.known .comment, .literal { lexical := text, language := some lang }⟩
    let earlier : List Fact :=
      [⟨place, .known .type, tag⟩, ⟨place, .known .comment, (comment "A place." "en").object⟩]
    let later : List Fact := [⟨place, .known .comment, (comment "Somewhere." "en").object⟩]
    let told (text lang : String) : Topic :=
      (({ subject := place } : Topic).insert (.known .comment) (comment text lang).object).value
    (∀ facts ∈ [earlier, later], ∀ a ∈ facts, ∀ b ∈ facts, a.subject.text = b.subject.text) ∧
      (groupDeclarations {} [earlier]).value = [⟨place, [tag], [comment "A place." "en"]⟩] ∧
      (groupDeclarations {} [earlier, later]).value =
        [⟨place, [tag], [comment "Somewhere." "en"]⟩] ∧
      (groupDeclarations {} [earlier, later, earlier]).value =
        [⟨place, [tag], [comment "A place." "en"]⟩] ∧
      (groupDeclarations {} ([earlier, later] ++ [earlier, later])).value =
        [⟨place, [tag], [comment "Somewhere." "en"]⟩] ∧
      (((told "A place." "en").merge (told "Somewhere." "EN")).value.merge
          (told "A spot." "en")).value =
        ((told "A place." "en").merge
          ((told "Somewhere." "EN").merge (told "A spot." "en")).value).value := by
  intro place tag comment earlier later told
  have hfacts : ∀ facts ∈ [earlier, later], ∀ a ∈ facts, ∀ b ∈ facts,
      a.subject.text = b.subject.text := by decide
  have htold : ∀ text lang, (told text lang).IsTold := fun _ _ =>
    .insert (.new place) _ _
  obtain ⟨-, hagain, hassoc⟩ := ofDeclarations_append_self {} [earlier, later] hfacts
  refine ⟨hfacts, by decide, by decide, by decide, hagain.trans ?_,
    hassoc _ _ _ (htold ..) (htold ..)⟩
  decide

end OntoTypes
