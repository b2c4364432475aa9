import OntoTypes.Proofs.Slots

/-!
# Declarations and facts

An ontology comes as a stream of facts, or as declarations that gather the facts about a subject. A
declaration becomes a topic by itself and is then merged into the topic that is there, whereas a
fact goes to its topic at once. Both leave the same store: what a declaration settles within itself
would have been settled in the same way on the way into the topic.

Main definitions and results:

* `Term.slots`, `Value.slots` — the slots of type tags and of values;
* `Topic.insertAll_eq` — what a topic is told is filed in its slots;
* `Topic.merge_declaredTopic` — merging a declaration is telling its facts;
* `FactStore.addDeclaration_eq_addFacts` — so a declaration can be added fact by fact;
* `ofDeclarations_eq_ofFacts` — and declarations leave the store, and the topics, of their facts.
-/

namespace OntoTypes

/-! ## The slots of a topic -/

/-- Type tags are kept where they are first seen. -/
def Term.slots : Slots Term where
  same := same
  settle kept _ := kept
  refl := same_refl
  symm _ _ := same_symm
  trans _ _ _ := same_trans
  settle_eq _ _ := Or.inl rfl
  settle_assoc _ _ _ := rfl

/-- Two type tags are in one slot if they are the same. -/
theorem Term.same_slots (kept tag : Term) : slots.same kept tag = kept.same tag := rfl

namespace Value

variable {kept value : Value}

/-- Values are kept where they are first seen, except that the last comment or label wins. -/
def slots : Slots Value where
  same := sameSlot
  settle kept value := if value.predicate.isSingular then value else kept
  refl := sameSlot_refl
  symm _ _ := sameSlot_symm
  trans _ _ _ := sameSlot_trans
  settle_eq kept value := by
    by_cases hsingular : value.predicate.isSingular = true
    · exact Or.inr (if_pos hsingular)
    · exact Or.inl (if_neg hsingular)
  settle_assoc a b c := by
    by_cases hsingular : c.predicate.isSingular = true
    · rw [if_pos hsingular, if_pos hsingular, if_pos hsingular]
    · rw [if_neg hsingular, if_neg hsingular]

/-- Two values are in one slot as `sameSlot` has it. -/
theorem same_slots (kept value : Value) : slots.same kept value = kept.sameSlot value := rfl

/-- Of two values in one slot, the later one is kept if the slot is singular. -/
theorem settle_slots (kept value : Value) :
    slots.settle kept value = if value.predicate.isSingular then value else kept :=
  rfl

/-- A comment or label that says the same as the one in its slot is the same. Slots are told apart
by the case of their languages, so there is nothing left in which the two could differ. -/
theorem eq_of_sameSlot_of_same (hslot : kept.sameSlot value = true)
    (hsame : kept.object.same value.object = true) (hsingular : kept.predicate.isSingular = true) :
    kept = value := by
  obtain ⟨predicate, keptObject⟩ := kept
  obtain ⟨predicate', object⟩ := value
  obtain rfl : predicate = predicate' := predicate_of_sameSlot hslot
  rcases Term.eq_or_exists_literal_of_same hsame with rfl | ⟨l, l', rfl, rfl⟩
  · rfl
  · -- two literals in one singular slot are in one language, to the letter
    have hlanguage := (Bool.and_eq_true_iff.mp hslot).2
    rw [if_pos hsingular] at hlanguage
    rw [Literal.eq_of_same hsame (of_decide_eq_true hlanguage)]

/-- A value gives way to one of its slot that says something else. -/
theorem settle_slots_of_sameSlot (hslot : kept.sameSlot value = true) :
    slots.settle kept value = if kept.object.same value.object then kept else value := by
  have hpredicate := predicate_of_sameSlot hslot
  rw [settle_slots]
  by_cases hsingular : value.predicate.isSingular = true
  · rw [if_pos hsingular]
    split
    · rename_i hsame
      exact (eq_of_sameSlot_of_same hslot hsame (hpredicate ▸ hsingular)).symm
    · rfl
  · -- in any other slot there is only one thing to say
    have hplain : kept.predicate.isSingular = false := by
      rw [hpredicate]
      exact Bool.eq_false_iff.mpr hsingular
    rw [if_neg hsingular, if_pos (same_of_sameSlot hslot hplain)]

/-- What becomes of the values of a topic when one more is filed. -/
theorem file_slots (values : List Value) (value : Value) :
    slots.file values value =
      match values.find? (·.sameSlot value) with
      | none => values ++ [value]
      | some kept =>
        if kept.object.same value.object then values else value.replaceIn values := by
  induction values with
  | nil => rfl
  | cons kept rest ih =>
    rw [Slots.file, same_slots, List.find?_cons, replaceIn]
    -- the first value is the one in the slot, or it is passed over
    by_cases hslot : kept.sameSlot value = true
    · rw [if_pos hslot, if_pos hslot, hslot, settle_slots_of_sameSlot hslot]
      dsimp only
      split <;> rfl
    · rw [if_neg hslot, if_neg hslot, Bool.eq_false_iff.mpr hslot, ih]
      cases rest.find? (·.sameSlot value) with
      | none => rfl
      | some other =>
        dsimp only
        split <;> rfl

end Value

/-! ## What a topic is told -/

namespace Topic

variable (topic : Topic)

/-- Adding a type tag is filing it. -/
theorem addType_eq (tag : Term) :
    topic.addType tag = { topic with types := Term.slots.file topic.types tag } := by
  -- a tag that is there already is not added again
  have hfile : ∀ types : List Term, Term.slots.file types tag =
      if types.any (·.same tag) then types else types ++ [tag] := by
    intro types
    induction types with
    | nil => rfl
    | cons kept rest ih =>
      rw [Slots.file, Term.same_slots, List.any_cons]
      by_cases hsame : kept.same tag = true
      · rw [if_pos hsame, hsame]
        rfl
      · rw [if_neg hsame, Bool.eq_false_iff.mpr hsame, Bool.false_or, ih]
        split <;> rfl
  rw [hfile, addType]
  split <;> rfl

/-- Adding a value is filing it. -/
theorem value_addValue (value : Value) :
    (topic.addValue value).value =
      { topic with values := Value.slots.file topic.values value } := by
  rw [Value.file_slots, addValue]
  cases topic.values.find? (·.sameSlot value) with
  | none => rfl
  | some kept =>
    dsimp only
    split <;> rfl

/-- The topic that is told some more, one after another. -/
def insertAll (values : List Value) : Topic :=
  values.foldl (fun topic value => (topic.insert value.predicate value.object).value) topic

/-- What is told in two parts is told at once. -/
theorem insertAll_append (values later : List Value) :
    topic.insertAll (values ++ later) = (topic.insertAll values).insertAll later :=
  List.foldl_append ..

end Topic

/-- The type tag that a value is. -/
def Value.tag? (value : Value) : Option Term :=
  if value.predicate = .known .type then some value.object else none

/-- Values that are not type tags. -/
def Value.isOther (value : Value) : Bool := value.predicate ≠ .known .type

namespace Topic

/-- **What a topic is told is filed in its slots**, type tags apart from all else. -/
theorem insertAll_eq (topic : Topic) (values : List Value) :
    topic.insertAll values =
      { topic with
        types := Term.slots.fileAll topic.types (values.filterMap Value.tag?)
        values := Value.slots.fileAll topic.values (values.filter Value.isOther) } := by
  induction values generalizing topic with
  | nil => rfl
  | cons value values ih =>
    rw [insertAll, List.foldl_cons, ← insertAll, ih, insert]
    by_cases htype : value.predicate = .known .type
    · -- a type tag, which is filed among the tags
      have htag : value.tag? = some value.object := if_pos htype
      have hother : ¬ value.isOther = true := by simp [Value.isOther, htype]
      rw [if_pos htype, Logged.value_pure, addType_eq, List.filterMap_cons_some htag,
        List.filter_cons_of_neg hother]
      rfl
    · -- anything else, which is filed among the values
      have htag : value.tag? = none := if_neg htype
      have hother : value.isOther = true := by simp [Value.isOther, htype]
      rw [if_neg htype, value_addValue, List.filterMap_cons_none htag,
        List.filter_cons_of_pos hother]
      rfl

/-- What a topic is told does not change what it is about. -/
theorem subject_insertAll (topic : Topic) (values : List Value) :
    (topic.insertAll values).subject = topic.subject := by
  rw [insertAll_eq]

/-- The topic of a declaration is told its facts, beginning with nothing. -/
theorem value_declaredTopic (subject : Term) (facts : List Fact) :
    (FactStore.declaredTopic subject facts).value =
      insertAll { subject := subject } (facts.map Fact.value) := by
  rw [FactStore.declaredTopic, Logged.value_foldlM, insertAll, List.foldl_map]
  rfl

/-- What a topic is told when another one is merged into it. -/
def contents (topic : Topic) : List Value :=
  topic.types.map (⟨.known .type, ·⟩) ++ topic.values

/-- Merging a topic into another one is telling it all that the topic says. -/
theorem value_merge (topic later : Topic) :
    (topic.merge later).value = topic.insertAll later.contents := by
  rw [contents, insertAll_append, insertAll, insertAll, List.foldl_map, merge, Logged.value_bind,
    Logged.value_foldlM, Logged.value_foldlM]

/-- No value of a topic is a type tag. -/
theorem isOther_of_mem_values {subject : Term} {facts : List Fact} {value : Value}
    (h : value ∈ (FactStore.declaredTopic subject facts).value.values) : value.isOther = true := by
  rw [value_declaredTopic, insertAll_eq] at h
  rcases Value.slots.mem_fileAll h with h | h
  · cases h
  · exact (List.mem_filter.mp h).2

/-- **Merging a declaration is telling its facts.** -/
theorem merge_declaredTopic (topic : Topic) (subject : Term) (facts : List Fact) :
    (topic.merge (FactStore.declaredTopic subject facts).value).value =
      topic.insertAll (facts.map Fact.value) := by
  set later := (FactStore.declaredTopic subject facts).value with hlater
  -- the contents of the declaration come apart again into its type tags and its values
  have htags : later.contents.filterMap Value.tag? = later.types := by
    have hnone : later.values.filterMap Value.tag? = [] := by
      refine List.filterMap_eq_nil_iff.mpr fun value hvalue => if_neg ?_
      simpa [Value.isOther] using isOther_of_mem_values hvalue
    have hsome : (later.types.map (⟨.known .type, ·⟩)).filterMap Value.tag? = later.types := by
      rw [List.filterMap_map]
      exact List.filterMap_some
    rw [contents, List.filterMap_append, hsome, hnone, List.append_nil]
  have hothers : later.contents.filter Value.isOther = later.values := by
    have hnil : (later.types.map (⟨.known .type, ·⟩)).filter Value.isOther = [] := by
      simp [Value.isOther]
    rw [contents, List.filter_append, hnil, List.nil_append, List.filter_eq_self]
    exact fun value hvalue => isOther_of_mem_values hvalue
  -- and what it has settled within itself, the topic would have settled
  have hdeclared := insertAll_eq { subject := subject } (facts.map Fact.value)
  rw [← value_declaredTopic, ← hlater] at hdeclared
  rw [value_merge, insertAll_eq, insertAll_eq, htags, hothers, hdeclared]
  dsimp only
  rw [Slots.fileAll_fileAll_nil, Slots.fileAll_fileAll_nil]

end Topic

/-! ## The store -/

namespace FactStore

variable {store : FactStore} {topic : Topic} {facts : List Fact}

/-- Topics are stored under the identifiers of their subjects. -/
def Filed (store : FactStore) : Prop :=
  ∀ identifier topic, store.get? identifier = some topic → topic.subject.text = identifier

/-- In an empty store nothing is filed wrongly. -/
theorem filed_empty : Filed {} := by
  intro identifier topic h
  cases h

/-- Whatever topic is put, it is put under its own identifier. -/
theorem Filed.put (h : store.Filed) (topic : Topic) : (store.put topic).Filed := by
  intro identifier other hother
  rw [get?_put] at hother
  split at hother
  · rename_i hidentifier
    obtain rfl := Option.some.inj hother
    exact hidentifier.symm
  · exact h identifier other hother

/-- Topics stay filed when a fact is added. -/
theorem Filed.addFact (h : store.Filed) (fact : Fact) : (store.addFact fact).value.Filed := by
  rw [value_addFact]
  split
  · exact h
  · exact h.put _

/-- The messages aside, facts are added one after another. -/
theorem value_addFacts (store : FactStore) (facts : List Fact) :
    (store.addFacts facts).value =
      facts.foldl (fun store fact => (store.addFact fact).value) store :=
  Logged.value_foldlM ..

/-- Topics stay filed when many facts are added. -/
theorem Filed.addFacts (h : store.Filed) (facts : List Fact) :
    (store.addFacts facts).value.Filed := by
  rw [value_addFacts]
  induction facts generalizing store with
  | nil => exact h
  | cons fact facts ih => exact ih (h.addFact fact)

/-- What is put in the place of a topic is all that is left of it. -/
theorem put_put {later : Topic} (h : later.subject = topic.subject) :
    (store.put topic).put later = store.put later := by
  rw [put, put, put, h, Keyed.set_set]

/-- Facts about a subject whose topic is there are told to that topic. -/
theorem addFacts_put (hignored : ¬ isIgnoredSubject topic.subject.text = true)
    (hsubject : ∀ fact ∈ facts, fact.subject.text = topic.subject.text) :
    ((store.put topic).addFacts facts).value =
      store.put (topic.insertAll (facts.map Fact.value)) := by
  induction facts generalizing topic with
  | nil => rfl
  | cons fact facts ih =>
    obtain ⟨hfact, hrest⟩ := List.forall_mem_cons.mp hsubject
    -- the first fact is told to the topic, which is put back where it was
    have htold : ((store.put topic).addFact fact).value =
        store.put (topic.insert fact.predicate fact.object).value := by
      rw [value_addFact, hfact, if_neg hignored, get?_put, if_pos rfl, Option.getD_some,
        put_put (Topic.subject_insert ..)]
    rw [value_addFacts, List.foldl_cons, ← value_addFacts, htold,
      ih (by rwa [Topic.subject_insert]) (by rwa [Topic.subject_insert])]
    rfl

/-- Facts about a subject go to its topic, or open one. -/
theorem addFacts_cons (hstore : store.Filed) {first : Fact}
    (hignored : ¬ isIgnoredSubject first.subject.text = true)
    (hfacts : ∀ fact ∈ facts, fact.subject.text = first.subject.text) :
    (store.addFacts (first :: facts)).value =
      store.put (((store.get? first.subject.text).getD { subject := first.subject }).insertAll
        ((first :: facts).map Fact.value)) := by
  set topic := (store.get? first.subject.text).getD { subject := first.subject } with htopic
  -- a topic that is there is about the subject, and a new one is made about it
  have htext : topic.subject.text = first.subject.text := by
    rw [htopic]
    cases hget : store.get? first.subject.text with
    | none => rfl
    | some existing => exact hstore _ _ hget
  rw [value_addFacts, List.foldl_cons, ← value_addFacts, value_addFact, if_neg hignored, ← htopic,
    addFacts_put (by rwa [Topic.subject_insert, htext]) (by rwa [Topic.subject_insert, htext])]
  rfl

/-- Facts about a subject that is left out are left out one by one. -/
theorem addFacts_of_ignored
    (hignored : ∀ fact ∈ facts, isIgnoredSubject fact.subject.text = true) :
    (store.addFacts facts).value = store := by
  rw [value_addFacts]
  induction facts with
  | nil => rfl
  | cons fact facts ih =>
    obtain ⟨hfact, hrest⟩ := List.forall_mem_cons.mp hignored
    rw [List.foldl_cons, value_addFact, if_pos hfact, ih hrest]

/-- **A declaration can be added fact by fact.** A declaration is put together by itself before it
is merged, so what it drops is dropped before anything is compared with the topic that is there.
That this makes no difference is the associativity of filing (`Topic.merge_declaredTopic`). -/
theorem addDeclaration_eq_addFacts (settings : Settings) (hstore : store.Filed)
    (hfacts : ∀ a ∈ facts, ∀ b ∈ facts, a.subject.text = b.subject.text) :
    (store.addDeclaration settings facts).value = (store.addFacts facts).value := by
  cases facts with
  | nil => rfl
  | cons first rest =>
    -- the first fact stands for all of them
    have hfirst : ∀ fact ∈ first :: rest, fact.subject.text = first.subject.text :=
      fun fact hfact => hfacts fact hfact first (List.mem_cons_self ..)
    rw [addDeclaration]
    by_cases hignored : isIgnoredSubject first.subject.text = true
    · rw [if_pos hignored, addFacts_of_ignored fun fact hfact => hfirst fact hfact ▸ hignored]
      rfl
    · rw [if_neg hignored, addFacts_cons hstore hignored (List.forall_mem_cons.mp hfirst).2,
        Logged.value_bind]
      cases hget : store.get? first.subject.text with
      | none =>
        -- it becomes the first topic of its subject
        rw [Option.getD_none, ← Topic.value_declaredTopic]
        rfl
      | some existing =>
        -- the merged topic goes back to where the existing one was
        have hput : store.put (existing.insertAll ((first :: rest).map Fact.value)) =
            ⟨Keyed.set first.subject.text (existing.insertAll ((first :: rest).map Fact.value))
              store.entries⟩ := by
          rw [put, Topic.subject_insertAll, hstore _ _ hget]
        rw [Option.getD_some, hput, ← Topic.merge_declaredTopic existing first.subject]
        rfl

/-- Declarations can be added to a store fact by fact. -/
theorem addDeclarations_eq_addFacts (settings : Settings) {declarations : List (List Fact)}
    (hstore : store.Filed)
    (hfacts : ∀ facts ∈ declarations, ∀ a ∈ facts, ∀ b ∈ facts, a.subject.text = b.subject.text) :
    declarations.foldl (fun store facts => (store.addDeclaration settings facts).value) store =
      (store.addFacts declarations.flatten).value := by
  -- one declaration after another, into a store whose topics are filed
  induction declarations generalizing store with
  | nil => rfl
  | cons facts declarations ih =>
    obtain ⟨hfirst, hrest⟩ := List.forall_mem_cons.mp hfacts
    rw [List.foldl_cons, addDeclaration_eq_addFacts settings hstore hfirst,
      ih (hstore.addFacts facts) hrest, List.flatten_cons, value_addFacts, value_addFacts,
      value_addFacts, List.foldl_append]

end FactStore

/-- **Declarations leave what their facts leave**: the same topics under the same identifiers, in
the same order, whatever the declarations are about and however they are interleaved, as long as
each of them is about one subject.

A declaration is filed among itself before it is merged, so what it overwrites within itself never
gets to the store; that nothing depends on this is `Slots.fileAll_fileAll_nil`. A declaration is
filed under the subject of its first fact, which is why it must be about one subject. Only the
messages may differ. -/
theorem ofDeclarations_eq_ofFacts (settings : Settings) (declarations : List (List Fact))
    (hfacts : ∀ facts ∈ declarations, ∀ a ∈ facts, ∀ b ∈ facts, a.subject.text = b.subject.text) :
    (FactStore.ofDeclarations settings declarations).value =
        (FactStore.ofFacts declarations.flatten).value ∧
      (groupDeclarations settings declarations).value =
        (groupFacts settings declarations.flatten).value := by
  -- the stores are the same, and so are the topics that are made of them
  have hstore : (FactStore.ofDeclarations settings declarations).value =
      (FactStore.ofFacts declarations.flatten).value := by
    rw [FactStore.ofDeclarations, Logged.value_foldlM]
    exact FactStore.addDeclarations_eq_addFacts settings FactStore.filed_empty hfacts
  refine ⟨hstore, ?_⟩
  rw [groupDeclarations, groupFacts, Logged.value_bind, Logged.value_bind, hstore]

/-- Two declarations about one subject, with others in between that are empty or about a subject
that is left out. The first one settles two comments in English within itself, and the second one
brings back the earlier of them. A comment whose language is written otherwise has a slot of its
own. -/
theorem ofDeclarations_eq_ofFacts_place :
    let place : Term := .iri "http://schema.org/Place"
    let tag : Value := ⟨.known .type, .iri "http://www.w3.org/2000/01/rdf-schema#Class"⟩
    let comment (text lang : String) : Value :=
      ⟨.known .comment, .literal { lexical := text, language := some lang }⟩
    let declare (subject : Term) (values : List Value) : List Fact :=
      values.map fun value => ⟨subject, value.predicate, value.object⟩
    let declarations :=
      [declare place [comment "A place." "en", tag, comment "Somewhere." "en"], [],
        declare (.iri "file:///places") [tag],
        declare place [tag, comment "A place." "EN", comment "A place." "en"]]
    (∀ facts ∈ declarations, ∀ a ∈ facts, ∀ b ∈ facts, a.subject.text = b.subject.text) ∧
      (FactStore.ofDeclarations {} declarations).value =
        (FactStore.ofFacts declarations.flatten).value ∧
      (groupDeclarations {} declarations).value =
        [⟨place, [tag.object], [comment "A place." "en", comment "A place." "EN"]⟩] := by
  intro place tag comment declare declarations
  have hfacts : ∀ facts ∈ declarations, ∀ a ∈ facts, ∀ b ∈ facts,
      a.subject.text = b.subject.text := by decide
  have hboth := ofDeclarations_eq_ofFacts {} declarations hfacts
  refine ⟨hfacts, hboth.1, hboth.2.trans ?_⟩
  decide

end OntoTypes
