import OntoTypes.Proofs.Ingestion

/-!
# What the store keeps

The store is a function of the facts that can be told without replaying them. There is a topic for
each identifier that facts are about, made of the facts about that identifier and no others. Among
its type tags, each is the first of those equal to it. Among its values, a comment or label is the
last one in its language, and any other value is the first of those equal to it; either stands where
something was first filed in its slot.

That no slot is filled twice is what makes this work: each slot can be looked at by itself, as if
nothing else had been said.

Main definitions and results:

* `Slot`, `Value.slot` — the slot of a value, as data;
* `Term.folded` — terms without the differences that their equality overlooks;
* `Topic.onePerKey_types`, `Topic.onePerKey_values` — what a topic keeps of its facts;
* `ofFacts_retains` — what the store keeps.
-/

namespace OntoTypes

/-! ## Slots as data -/

/-- A term with the language of a literal in lower case. -/
def Term.folded : Term → Term
  | literal l => literal { l with language := l.language.map Text.lowercase }
  | term => term

/-- Equality of terms overlooks the case of languages, and nothing else. -/
theorem Term.same_iff_folded {a b : Term} : a.same b = true ↔ a.folded = b.folded := by
  cases a <;> cases b <;>
    simp [same, folded, Literal.same_iff, Literal.mk.injEq, and_comm]

/-- The place that a value has in a topic. -/
inductive Slot where
  /-- A comment or label: there is one in each language, and one in none. -/
  | singular (predicate : Predicate) (language : Option String)
  /-- Any other value, up to the case of its language. -/
  | plain (predicate : Predicate) (object : Term)
deriving DecidableEq

namespace Slot

/-- Which of the values of a slot is kept: the last comment or label, the first of anything else. -/
def pick : Slot → List Value → Option Value
  | singular .. => List.getLast?
  | plain .. => List.head?

end Slot

namespace Value

/-- The slot of a value. -/
def slot (value : Value) : Slot :=
  if value.predicate.isSingular then .singular value.predicate value.object.language?
  else .plain value.predicate value.object.folded

/-- Values are filed in one slot exactly if their slots are equal. -/
theorem keyedBy_slot : slots.KeyedBy slot := by
  intro a b
  obtain ⟨predicate, object⟩ := a
  obtain ⟨predicate', object'⟩ := b
  rw [same_slots, sameSlot, Bool.and_eq_true, decide_eq_true_eq, slot, slot]
  dsimp only
  constructor
  · -- one slot, by the language or by the value itself
    rintro ⟨rfl, hobject⟩
    split
    · rename_i hsingular
      rw [if_pos hsingular] at hobject
      rw [of_decide_eq_true hobject]
    · rename_i hsingular
      rw [if_neg hsingular] at hobject
      rw [Term.same_iff_folded.mp hobject]
  · -- equal slots are of one kind
    intro hslot
    by_cases hsingular : predicate.isSingular = true
    · by_cases hsingular' : predicate'.isSingular = true
      · rw [if_pos hsingular, if_pos hsingular', Slot.singular.injEq] at hslot
        rw [if_pos hsingular]
        exact ⟨hslot.1, decide_eq_true hslot.2⟩
      · rw [if_pos hsingular, if_neg hsingular'] at hslot
        cases hslot
    · by_cases hsingular' : predicate'.isSingular = true
      · rw [if_neg hsingular, if_pos hsingular'] at hslot
        cases hslot
      · rw [if_neg hsingular, if_neg hsingular', Slot.plain.injEq] at hslot
        rw [if_neg hsingular]
        exact ⟨hslot.1, Term.same_iff_folded.mpr hslot.2⟩

/-- The values of a slot are settled on the one that the slot picks. -/
theorem settleAll_eq_pick (slot : Slot) (values : List Value)
    (hvalues : ∀ value ∈ values, value.slot = slot) :
    slots.settleAll values = slot.pick values := by
  cases slot with
  | singular predicate language =>
    -- of comments and labels the last one wins
    refine slots.settleAll_eq_getLast? fun kept value hvalue => ?_
    have hslot := hvalues value hvalue
    unfold Value.slot at hslot
    split at hslot
    · rename_i hsingular
      rw [settle_slots, if_pos hsingular]
    · cases hslot
  | plain predicate object =>
    -- of any other values the first one does
    refine slots.settleAll_eq_head? fun kept value hvalue => ?_
    have hslot := hvalues value hvalue
    unfold Value.slot at hslot
    split at hslot
    · cases hslot
    · rename_i hsingular
      rw [settle_slots, if_neg hsingular]

end Value

/-! ## What a topic keeps -/

/-- The type tags that some facts give their subject. -/
def tagsOf (facts : List Fact) : List Term := facts.filterMap fun fact => fact.value.tag?

/-- What some facts say about their subject beside its type tags. -/
def valuesOf (facts : List Fact) : List Value := (facts.map Fact.value).filter Value.isOther

namespace Topic

variable (subject : Term) (facts : List Fact)

/-- Of equal type tags the first one is kept. -/
theorem onePerKey_types :
    OnePerKey Term.folded (fun _ => List.head?) (tagsOf facts)
      (FactStore.declaredTopic subject facts).value.types := by
  rw [value_declaredTopic, insertAll_eq, List.filterMap_map]
  refine Slots.onePerKey_fileAll (fun _ _ => Term.same_iff_folded) (fun _ _ _ => ?_) _
  exact Term.slots.settleAll_eq_head? fun _ _ _ => rfl

/-- Of the values of each slot the one is kept that the slot picks. -/
theorem onePerKey_values :
    OnePerKey Value.slot Slot.pick (valuesOf facts)
      (FactStore.declaredTopic subject facts).value.values := by
  rw [value_declaredTopic, insertAll_eq]
  exact Slots.onePerKey_fileAll Value.keyedBy_slot Value.settleAll_eq_pick _

end Topic

/-! ## What the store keeps -/

/-- The facts about an identifier are about it alone. -/
theorem factsAbout_factsAbout (identifier : String) (facts : List Fact) :
    factsAbout identifier (factsAbout identifier facts) = factsAbout identifier facts := by
  rw [factsAbout, factsAbout, List.filter_filter]
  simp only [Bool.and_self]

/-- There is a topic for each identifier that facts are about. -/
theorem exists_topicOf?_factsAbout {identifier : String} {facts : List Fact}
    (h : identifier ∈ subjects facts) :
    ∃ subject, topicOf? (factsAbout identifier facts) =
      some (FactStore.declaredTopic subject (factsAbout identifier facts)).value := by
  obtain ⟨fact, hfact, htext⟩ := List.mem_map.mp (List.mem_eraseDups.mp h)
  -- some fact is about the identifier
  have hmem : fact ∈ factsAbout identifier facts :=
    List.mem_filter.mpr ⟨List.mem_of_mem_filter hfact, by simpa using htext⟩
  cases habout : factsAbout identifier facts with
  | nil =>
    rw [habout] at hmem
    cases hmem
  | cons first rest => exact ⟨first.subject, rfl⟩

/-- **What the store keeps.** Its topics stand under the identifiers that facts are about, those
that are left out apart, in first seen order. What is found under an identifier depends on the facts
about that identifier alone: of their type tags it keeps the first of those that are equal, and of
their other values one for each slot, the last comment or label in each language and the first of
any other values that are equal.

`OnePerKey` also says where: the one that is kept stands at the place where its slot was first used.
-/
theorem ofFacts_retains (facts : List Fact) :
    Keyed.keys (FactStore.ofFacts facts).value.entries = subjects facts ∧
      (∀ identifier, (FactStore.ofFacts facts).value.get? identifier =
        (FactStore.ofFacts (factsAbout identifier facts)).value.get? identifier) ∧
      ∀ identifier ∈ subjects facts, ∃ topic,
        (FactStore.ofFacts facts).value.get? identifier = some topic ∧
          OnePerKey Term.folded (fun _ => List.head?) (tagsOf (factsAbout identifier facts))
            topic.types ∧
          OnePerKey Value.slot Slot.pick (valuesOf (factsAbout identifier facts))
            topic.values := by
  refine ⟨FactStore.keys_ofFacts facts, fun identifier => ?_, fun identifier hidentifier => ?_⟩
  · rw [FactStore.get?_ofFacts, FactStore.get?_ofFacts, factsAbout_factsAbout]
  · obtain ⟨subject, htopic⟩ := exists_topicOf?_factsAbout hidentifier
    refine ⟨_, ?_, Topic.onePerKey_types subject _, Topic.onePerKey_values subject _⟩
    rw [FactStore.get?_ofFacts, if_neg (not_isIgnoredSubject_of_mem_subjects hidentifier), htopic]

/-- Facts about a place, with others in between. The last comment in English stands where the first
one was, whereas of two matches that differ in the case of their language the first one is kept. A
comment in a language written otherwise has a slot of its own, and a comment that is no text shares
the slot of the comments in no language. -/
theorem ofFacts_retains_place :
    let place : Term := .iri "http://schema.org/Place"
    let text (lexical : String) (language : Option String) : Term :=
      .literal { lexical := lexical, language := language }
    let comment (object : Term) : Value := ⟨.known .comment, object⟩
    let closeMatch (object : Term) : Value := ⟨.known .closeMatch, object⟩
    let tag : Value := ⟨.known .type, .iri "http://www.w3.org/2000/01/rdf-schema#Class"⟩
    let say (subject : Term) (value : Value) : Fact := ⟨subject, value.predicate, value.object⟩
    let facts :=
      [say place (comment (text "A place." "en")), say (.iri "http://schema.org/Thing") tag,
        say place (closeMatch (text "spot" "en")), say (.iri "file:///place") tag, say place tag,
        say place (comment (text "Somewhere." "EN")), say place (comment (.blank "b0")),
        say place (closeMatch (text "spot" "EN")), say place (comment (text "Anywhere." "en")),
        say place tag, say place (comment (text "Here." none))]
    subjects facts = [place.text, "http://schema.org/Thing"] ∧
      ∃ topic, (FactStore.ofFacts facts).value.get? place.text = some topic ∧
        topic.types = [tag.object] ∧
        topic.values = [comment (text "Anywhere." "en"), closeMatch (text "spot" "en"),
          comment (text "Somewhere." "EN"), comment (text "Here." none)] ∧
        OnePerKey Term.folded (fun _ => List.head?) (tagsOf (factsAbout place.text facts))
          topic.types ∧
        OnePerKey Value.slot Slot.pick (valuesOf (factsAbout place.text facts)) topic.values := by
  intro place text comment closeMatch tag say facts
  have hsubjects : subjects facts = [place.text, "http://schema.org/Thing"] := by decide
  have hplace : place.text ∈ subjects facts := hsubjects ▸ List.mem_cons_self ..
  obtain ⟨topic, htopic, htypes, hvalues⟩ := (ofFacts_retains facts).2.2 place.text hplace
  have hstored : ((FactStore.ofFacts facts).value.get? place.text).map
      (fun topic => (topic.types, topic.values)) =
        some ([tag.object], [comment (text "Anywhere." "en"), closeMatch (text "spot" "en"),
          comment (text "Somewhere." "EN"), comment (text "Here." none)]) := by decide
  rw [htopic, Option.map_some, Option.some.injEq, Prod.mk.injEq] at hstored
  exact ⟨hsubjects, topic, htopic, hstored.1, hstored.2, htypes, hvalues⟩

end OntoTypes
