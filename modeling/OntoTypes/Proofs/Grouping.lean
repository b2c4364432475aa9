import OntoTypes.Fact.Store
import OntoTypes.Proofs.Distinct

/-!
# Grouped facts

The store groups a stream of facts by the text of their subjects. What it holds under an identifier
depends on the facts about that identifier alone, whatever is said in between about others.

Main definitions and results:

* `factsAbout`, `topicOf?` — the facts about an identifier, and the topic they amount to;
* `topicAbout?` — that topic, if it has a type;
* `keys_ofFacts`, `get?_ofFacts` — the store, identifier by identifier;
* `value_groupFacts` — the topics of a stream of facts.
-/

namespace OntoTypes

/-- The facts about an identifier, in order. -/
def factsAbout (identifier : String) (facts : List Fact) : List Fact :=
  facts.filter fun fact => fact.subject.text = identifier

/-- The topic that facts about one identifier amount to, if there are any. -/
def topicOf? : List Fact → Option Topic
  | [] => none
  | first :: rest => some (FactStore.declaredTopic first.subject (first :: rest)).value

/-- The topic of an identifier, if the facts about it give it a type. -/
def topicAbout? (identifier : String) (facts : List Fact) : Option Topic :=
  (topicOf? (factsAbout identifier facts)).filter fun topic => !topic.types.isEmpty

/-- The identifiers that a stream of facts is about, in first seen order. -/
def subjects (facts : List Fact) : List String :=
  ((facts.filter fun fact => !isIgnoredSubject fact.subject.text).map (·.subject.text)).eraseDups

/-! ## The store -/

namespace Topic

variable {topic : Topic}

/-- A type tag changes nothing about what a topic is about. -/
@[simp] theorem subject_addType (tag : Term) : (topic.addType tag).subject = topic.subject := by
  unfold addType
  split <;> rfl

/-- Neither does any other value. -/
@[simp] theorem subject_addValue (value : Value) :
    (topic.addValue value).value.subject = topic.subject := by
  unfold addValue
  split
  · rfl
  · split <;> rfl

/-- What is said about a subject leaves the subject alone. -/
@[simp] theorem subject_insert (predicate : Predicate) (object : Term) :
    (topic.insert predicate object).value.subject = topic.subject := by
  unfold insert
  split <;> simp

end Topic

namespace FactStore

variable {store : FactStore} {subject : Term} {facts : List Fact} {fact : Fact}

/-- Without facts, a topic says nothing. -/
@[simp] theorem declaredTopic_nil (subject : Term) :
    (declaredTopic subject []).value = { subject := subject } :=
  rfl

/-- A topic grows fact by fact. -/
theorem declaredTopic_concat (subject : Term) (facts : List Fact) (fact : Fact) :
    (declaredTopic subject (facts ++ [fact])).value =
      ((declaredTopic subject facts).value.insert fact.predicate fact.object).value := by
  simp only [declaredTopic, Logged.value_foldlM, List.foldl_append, List.foldl_cons, List.foldl_nil]

/-- A topic is about the subject that it was made for. -/
@[simp] theorem subject_declaredTopic (subject : Term) (facts : List Fact) :
    (declaredTopic subject facts).value.subject = subject := by
  induction facts using List.reverseRecOn with
  | nil => rfl
  | append_singleton facts fact ih => rw [declaredTopic_concat, Topic.subject_insert, ih]

end FactStore

/-- One fact more is told to the topic of the others, or to a new one. -/
theorem topicOf?_concat (facts : List Fact) (fact : Fact) :
    topicOf? (facts ++ [fact]) =
      some (((topicOf? facts).getD { subject := fact.subject }).insert
        fact.predicate fact.object).value := by
  cases facts with
  | nil => rfl
  | cons first rest =>
    rw [List.cons_append, topicOf?, ← List.cons_append, FactStore.declaredTopic_concat]
    rfl

/-- Topics are about the identifier that their facts are about. -/
theorem text_of_topicOf? {identifier : String} {facts : List Fact} {topic : Topic}
    (h : topicOf? (factsAbout identifier facts) = some topic) :
    topic.subject.text = identifier := by
  cases hfacts : factsAbout identifier facts with
  | nil =>
    rw [hfacts] at h
    cases h
  | cons first rest =>
    rw [hfacts] at h
    obtain rfl := Option.some.inj h
    have hfirst : first ∈ factsAbout identifier facts := hfacts ▸ List.mem_cons_self ..
    rw [FactStore.subject_declaredTopic]
    exact of_decide_eq_true (List.mem_filter.mp hfirst).2

/-- Whether there has been a topic or not, the fact finds one about its subject. -/
theorem text_getD_topicOf? (facts : List Fact) (fact : Fact) :
    ((topicOf? (factsAbout fact.subject.text facts)).getD
      { subject := fact.subject }).subject.text = fact.subject.text := by
  cases htopic : topicOf? (factsAbout fact.subject.text facts) with
  | none => rfl
  | some topic => exact text_of_topicOf? htopic

/-- The facts about an identifier grow by the facts about it. -/
theorem factsAbout_concat (identifier : String) (facts : List Fact) (fact : Fact) :
    factsAbout identifier (facts ++ [fact]) =
      if fact.subject.text = identifier then factsAbout identifier facts ++ [fact]
      else factsAbout identifier facts := by
  rw [factsAbout, List.filter_append]
  split <;> simp [factsAbout, *]

/-- A subject is listed when it is first seen, unless it is one that is left out. -/
theorem subjects_concat (facts : List Fact) (fact : Fact) :
    subjects (facts ++ [fact]) =
      if isIgnoredSubject fact.subject.text || (subjects facts).contains fact.subject.text then
        subjects facts
      else subjects facts ++ [fact.subject.text] := by
  unfold subjects
  rw [List.filter_append, List.map_append]
  by_cases hignored : isIgnoredSubject fact.subject.text = true
  · simp [hignored]
  · have hsingle : ([fact].filter fun fact => !isIgnoredSubject fact.subject.text).map
        (·.subject.text) = [fact.subject.text] := by simp [hignored]
    -- what has been seen has been seen with or without its repetitions
    have hcontains : ∀ items : List String, (items.eraseDups.contains fact.subject.text) =
        decide (fact.subject.text ∈ items) := by
      intro items
      rw [Bool.eq_iff_iff, List.contains_iff_mem, List.mem_eraseDups, decide_eq_true_iff]
    rw [hsingle, eraseDups_concat, hcontains, Bool.eq_false_iff.mpr hignored, Bool.false_or]
    simp only [decide_eq_true_eq]

/-- Facts about subjects that are left out are not seen. -/
theorem not_isIgnoredSubject_of_mem_subjects {identifier : String} {facts : List Fact}
    (h : identifier ∈ subjects facts) : ¬ isIgnoredSubject identifier = true := by
  obtain ⟨fact, hfact, rfl⟩ := List.mem_map.mp (List.mem_eraseDups.mp h)
  simpa using (List.mem_filter.mp hfact).2

/-- No subject is listed twice. -/
theorem nodup_subjects (facts : List Fact) : (subjects facts).Nodup := nodup_eraseDups _

namespace FactStore

/-- A topic is found under the identifier that it is about. -/
theorem get?_put (store : FactStore) (topic : Topic) (identifier : String) :
    (store.put topic).get? identifier =
      if identifier = topic.subject.text then some topic else store.get? identifier := by
  unfold get? put
  split
  · rename_i h
    rw [h, Keyed.lookup_set_self]
  · rename_i h
    exact Keyed.lookup_set_of_ne h topic store.entries

/-- The messages aside, a fact is told to the topic of its subject. -/
theorem value_addFact (store : FactStore) (fact : Fact) :
    (store.addFact fact).value =
      if isIgnoredSubject fact.subject.text then store
      else store.put (((store.get? fact.subject.text).getD { subject := fact.subject }).insert
        fact.predicate fact.object).value := by
  unfold addFact
  split <;> rfl

/-- The store of some facts and one more. -/
theorem ofFacts_concat (facts : List Fact) (fact : Fact) :
    (ofFacts (facts ++ [fact])).value = ((ofFacts facts).value.addFact fact).value := by
  simp only [ofFacts, addFacts, Logged.value_foldlM, List.foldl_append, List.foldl_cons,
    List.foldl_nil]

/-- What is stored under each identifier is what its facts amount to. -/
theorem get?_ofFacts (facts : List Fact) (identifier : String) :
    (ofFacts facts).value.get? identifier =
      if isIgnoredSubject identifier then none else topicOf? (factsAbout identifier facts) := by
  induction facts using List.reverseRecOn generalizing identifier with
  | nil => exact (ite_self none).symm
  | append_singleton facts fact ih =>
    rw [ofFacts_concat, value_addFact, factsAbout_concat]
    by_cases hignored : isIgnoredSubject fact.subject.text = true
    · -- the fact is left out, and so is everything about its subject
      rw [if_pos hignored, ih]
      by_cases hsubject : fact.subject.text = identifier
      · rw [← hsubject, if_pos hignored, if_pos hignored]
      · rw [if_neg hsubject]
    · have hstored := ih fact.subject.text
      rw [if_neg hignored] at hstored
      rw [if_neg hignored, hstored, get?_put, Topic.subject_insert, text_getD_topicOf?]
      -- a fact about the identifier joins what is stored there, and other facts leave it alone
      by_cases hsubject : fact.subject.text = identifier
      · rw [if_pos hsubject.symm, if_pos hsubject, ← hsubject, if_neg hignored, topicOf?_concat]
      · rw [if_neg (Ne.symm hsubject), if_neg hsubject, ih]

/-- Putting a topic back takes no new place. -/
theorem keys_put (store : FactStore) (topic : Topic) :
    Keyed.keys (store.put topic).entries =
      if topic.subject.text ∈ Keyed.keys store.entries then Keyed.keys store.entries
      else Keyed.keys store.entries ++ [topic.subject.text] :=
  Keyed.keys_set ..

/-- Topics are stored under the identifiers that facts are about, in first seen order. -/
theorem keys_ofFacts (facts : List Fact) :
    Keyed.keys (ofFacts facts).value.entries = subjects facts := by
  induction facts using List.reverseRecOn with
  | nil => rfl
  | append_singleton facts fact ih =>
    rw [ofFacts_concat, value_addFact, subjects_concat]
    by_cases hignored : isIgnoredSubject fact.subject.text = true
    · rw [if_pos hignored, ih, hignored, Bool.true_or, if_pos rfl]
    · -- the topic is put back under the identifier it was taken from
      have hstored := get?_ofFacts facts fact.subject.text
      rw [if_neg hignored] at hstored
      rw [if_neg hignored, hstored, keys_put, Topic.subject_insert, text_getD_topicOf?, ih,
        Bool.eq_false_iff.mpr hignored, Bool.false_or]
      simp only [List.contains_iff_mem]

end FactStore

/-- **The topics of a stream of facts**: what the facts about each identifier amount to, where it
has a type. The store has gone from the statement, so that topics can be spoken of one identifier at
a time. -/
theorem value_groupFacts (settings : Settings) (facts : List Fact) :
    (groupFacts settings facts).value =
      (subjects facts).filterMap fun identifier => topicAbout? identifier facts := by
  have hkeys := FactStore.keys_ofFacts facts
  -- under each subject there is what its facts amount to
  have hlookup : ∀ identifier ∈ subjects facts,
      (FactStore.ofFacts facts).value.entries.lookup identifier =
        topicOf? (factsAbout identifier facts) := by
    intro identifier hidentifier
    have hget := FactStore.get?_ofFacts facts identifier
    rwa [if_neg (not_isIgnoredSubject_of_mem_subjects hidentifier)] at hget
  -- and the topics are what is stored, less those without a type
  have htopics : (groupFacts settings facts).value =
      ((FactStore.ofFacts facts).value.entries.map Prod.snd).filter fun topic =>
        !topic.types.isEmpty := rfl
  rw [htopics, Keyed.map_snd_eq (hkeys ▸ nodup_subjects facts), hkeys, List.filterMap_congr hlookup,
    List.filter_filterMap]
  rfl

/-- The topic about an identifier is about it. -/
theorem text_of_topicAbout? {identifier : String} {facts : List Fact} {topic : Topic}
    (h : topicAbout? identifier facts = some topic) : topic.subject.text = identifier :=
  text_of_topicOf? (Option.eq_some_of_filter_eq_some h)

/-- The topics of a stream of facts have different identifiers. -/
theorem nodup_groupFacts (settings : Settings) (facts : List Fact) :
    ((groupFacts settings facts).value.map (·.subject.text)).Nodup := by
  rw [value_groupFacts, List.map_filterMap]
  refine (nodup_subjects facts).filterMap ?_
  intro a b text ha hb
  obtain ⟨topic, htopic, rfl⟩ := Option.map_eq_some_iff.mp ha
  obtain ⟨topic', htopic', hsame⟩ := Option.map_eq_some_iff.mp hb
  rw [← text_of_topicAbout? htopic, ← text_of_topicAbout? htopic', hsame]

/-- The identifiers of topics are identifiers that facts are about. -/
theorem exists_fact_of_mem_groupFacts {settings : Settings} {facts : List Fact} {topic : Topic}
    (h : topic ∈ (groupFacts settings facts).value) :
    ∃ fact ∈ facts, fact.subject.text = topic.subject.text := by
  rw [value_groupFacts] at h
  obtain ⟨identifier, hidentifier, htopic⟩ := List.mem_filterMap.mp h
  obtain ⟨fact, hfact, rfl⟩ := List.mem_map.mp (List.mem_eraseDups.mp hidentifier)
  exact ⟨fact, List.mem_of_mem_filter hfact, (text_of_topicAbout? htopic).symm⟩

end OntoTypes
