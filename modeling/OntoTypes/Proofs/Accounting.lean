import OntoTypes.Proofs.Retention

/-!
# Nothing is lost in silence

A store is filled by facts and by declarations, in any order. A comment or label can be overwritten
at three places: while a declaration is put together, while it is merged into the topic that is
there, and when a later fact arrives. The topic of a declaration is merged value by value, so all
three come down to a topic that is told one value more, and there a value gives way only with a
warning. Every fact can therefore be accounted for at the end: the topic of its subject still says
the same, or there has been a warning about that subject.

Main definitions and results:

* `Topic.retains`, `overwriteNote` — a topic says a value, up to the equality of terms, and the
  warning that a comment or label gave way;
* `Topic.retains_insert`, `Topic.retains_insert_or_noted` — what a topic is told it says, and what
  it says no more has been warned of;
* `Topic.Accounts`, `FactStore.Accounts` — values and facts that are not lost in silence;
* `Intake`, `FactStore.ofIntakes` — stores that are filled by facts and declarations;
* `ofIntakes_retains_or_notes` — nothing that a store takes in is lost in silence.
-/

namespace OntoTypes

/-! ## Messages of a fold -/

namespace Logged

instance : LawfulMonad Logged :=
  LawfulMonad.mk' Logged
    (fun x => congrArg (Logged.mk x.value) (List.append_nil x.notes))
    (fun _ _ => rfl)
    (fun _ _ _ => congrArg (Logged.mk _) (List.append_assoc ..))

variable {f : β → α → Logged β} {P Q : β → List Diagnostic → Prop}

/-- What each step keeps, of the value and of the messages so far, all steps keep. -/
theorem foldlM_keeps
    (hstep : ∀ b notes a, P b notes → P (f b a).value (notes ++ (f b a).notes))
    (items : List α) {b : β} {notes : List Diagnostic} (h : P b notes) :
    P (items.foldlM f b).value (notes ++ (items.foldlM f b).notes) := by
  induction items generalizing b notes with
  | nil =>
    show P b (notes ++ [])
    rwa [List.append_nil]
  | cons a items ih =>
    have hrest := ih (hstep b notes a h)
    rw [List.append_assoc] at hrest
    exact hrest

/-- What the step of one item brings about holds in the end, if all later steps keep it. -/
theorem foldlM_of_mem {a : α} {items : List α}
    (hP : ∀ b notes a, P b notes → P (f b a).value (notes ++ (f b a).notes))
    (hQ : ∀ b notes a, Q b notes → Q (f b a).value (notes ++ (f b a).notes))
    (hitem : ∀ b notes, P b notes → Q (f b a).value (notes ++ (f b a).notes)) (ha : a ∈ items)
    {b : β} {notes : List Diagnostic} (h : P b notes) :
    Q (items.foldlM f b).value (notes ++ (items.foldlM f b).notes) := by
  obtain ⟨before, after, rfl⟩ := List.append_of_mem ha
  -- the items before that one, the item, and those after it
  have hbefore := foldlM_keeps hP before h
  have hafter := foldlM_keeps hQ after (hitem _ _ hbefore)
  rw [List.append_assoc, List.append_assoc] at hafter
  rw [List.foldlM_append]
  exact hafter

end Logged

/-! ## One value -/

/-- Two values are the same if they are of one predicate and their objects are. -/
theorem Value.same_iff {a b : Value} :
    a.same b = true ↔ a.predicate = b.predicate ∧ a.object.same b.object = true := by
  rw [same, Bool.and_eq_true, decide_eq_true_eq]

/-- A value is the same as itself. -/
theorem Value.same_refl (value : Value) : value.same value = true :=
  same_iff.mpr ⟨rfl, Term.same_refl _⟩

/-- Sameness is passed on, which is used for a value that one topic kept of an equal one, and
another topic of that. -/
theorem Value.same_trans {a b c : Value} (hab : a.same b = true) (hbc : b.same c = true) :
    a.same c = true := by
  rw [same_iff] at hab hbc ⊢
  exact ⟨hab.1.trans hbc.1, Term.same_trans hab.2 hbc.2⟩

/-- Only values of the slot give way to the one that is put into it. -/
theorem Value.mem_replaceIn_or_sameSlot {value kept : Value} {values : List Value}
    (h : kept ∈ values) : kept ∈ value.replaceIn values ∨ kept.sameSlot value = true := by
  -- along the list, up to the first value of the slot
  induction values with
  | nil => cases h
  | cons existing rest ih =>
    rw [replaceIn]
    split
    · rename_i hslot
      rcases List.mem_cons.mp h with rfl | h
      · exact Or.inr hslot
      · exact Or.inl (List.mem_cons_of_mem _ h)
    · rcases List.mem_cons.mp h with rfl | h
      · exact Or.inl (List.mem_cons_self ..)
      · exact (ih h).imp_left (List.mem_cons_of_mem _)

/-- A value takes the place of one in its slot. -/
theorem Value.mem_replaceIn_self {value existing : Value} {values : List Value}
    (h : existing ∈ values) (hslot : existing.sameSlot value = true) :
    value ∈ value.replaceIn values := by
  induction values with
  | nil => cases h
  | cons first rest ih =>
    rw [replaceIn]
    split
    · exact List.mem_cons_self ..
    · rename_i hother
      rcases List.mem_cons.mp h with rfl | h
      · exact absurd hslot hother
      · exact List.mem_cons_of_mem _ (ih h)

/-- Where two values share a slot and say different things, the slot is that of a comment or
label. -/
theorem Value.isSingular_of_sameSlot {a b : Value} (hslot : a.sameSlot b = true)
    (hother : ¬ a.object.same b.object = true) : b.predicate.isSingular = true := by
  rw [← predicate_of_sameSlot hslot]
  by_contra hplain
  exact hother (same_of_sameSlot hslot (Bool.eq_false_iff.mpr hplain))

/-- The warning that a comment or label of a subject gave way to another one. -/
def overwriteNote (subject : String) (predicate : Predicate) : Diagnostic :=
  ⟨.warn, "Two " ++ predicate.text ++ "s found for " ++ subject ++ ". Keeping the last one."⟩

namespace Topic

/-- A topic says a value, if it has an equal type tag, or an equal value if it is no type tag. -/
def retains (topic : Topic) (value : Value) : Bool :=
  if value.predicate = .known .type then topic.types.any (·.same value.object)
  else topic.values.any (·.same value)

variable {topic : Topic} {value : Value}

/-- Type tags are looked for among the type tags. -/
theorem retains_type_iff (htype : value.predicate = .known .type) :
    topic.retains value = true ↔ ∃ tag ∈ topic.types, tag.same value.object = true := by
  rw [retains, if_pos htype, List.any_eq_true]

/-- Anything else is looked for among the values. -/
theorem retains_other_iff (htype : value.predicate ≠ .known .type) :
    topic.retains value = true ↔ ∃ kept ∈ topic.values, kept.same value = true := by
  rw [retains, if_neg htype, List.any_eq_true]

/-- Of equal values a topic says both or neither. -/
theorem retains_of_same {kept : Value} (h : topic.retains kept = true)
    (hsame : kept.same value = true) : topic.retains value = true := by
  have hpredicate := (Value.same_iff.mp hsame).1
  by_cases htype : value.predicate = .known .type
  · rw [retains_type_iff (hpredicate.trans htype)] at h
    rw [retains_type_iff htype]
    obtain ⟨tag, htag, hkept⟩ := h
    exact ⟨tag, htag, Term.same_trans hkept (Value.same_iff.mp hsame).2⟩
  · rw [retains_other_iff (hpredicate ▸ htype)] at h
    rw [retains_other_iff htype]
    obtain ⟨other, hother, hkept⟩ := h
    exact ⟨other, hother, Value.same_trans hkept hsame⟩

/-- What a topic is told it says. -/
theorem retains_insert (topic : Topic) (predicate : Predicate) (object : Term) :
    (topic.insert predicate object).value.retains ⟨predicate, object⟩ = true := by
  -- a type tag is added, and anything else is filed in its slot
  by_cases htype : predicate = .known .type
  · subst htype
    rw [retains_type_iff rfl, insert_type]
    exact exists_same_mem_types_addType topic object
  · rw [retains_other_iff htype]
    obtain ⟨hfiles, -⟩ : Files topic.values ⟨predicate, object⟩ _ ∧ _ := files_insert htype
    generalize (topic.insert predicate object).value.values = values at hfiles ⊢
    cases hfiles with
    | new =>
      -- the slot has been empty
      exact ⟨_, List.mem_append_right _ (List.mem_singleton_self _), Value.same_refl _⟩
    | known existing hexisting hslot hsame =>
      -- an equal value is there, and stays
      exact ⟨existing, hexisting, Value.same_iff.mpr ⟨Value.predicate_of_sameSlot hslot, hsame⟩⟩
    | replaced existing hexisting hslot =>
      -- what has been there gives way
      exact ⟨_, Value.mem_replaceIn_self hexisting hslot, Value.same_refl _⟩

/-- **What a topic says no more has been warned of**, and it was a comment or label. -/
theorem retains_insert_or_noted (h : topic.retains value = true) (predicate : Predicate)
    (object : Term) :
    (topic.insert predicate object).value.retains value = true ∨
      value.predicate.isSingular = true ∧
        overwriteNote topic.subject.text value.predicate ∈
          (topic.insert predicate object).notes := by
  by_cases htag : predicate = .known .type
  · -- one type tag more leaves the values alone
    subst htag
    refine Or.inl ?_
    rw [insert_type]
    by_cases htype : value.predicate = .known .type
    · rw [retains_type_iff htype] at h ⊢
      obtain ⟨tag, hmem, hsame⟩ := h
      exact ⟨tag, subset_types_addType topic object hmem, hsame⟩
    · have hvalues : (topic.addType object).values = topic.values := by
        unfold addType
        split <;> rfl
      rwa [retains_other_iff htype, hvalues, ← retains_other_iff htype]
  by_cases htype : value.predicate = .known .type
  · -- and one value more leaves the type tags alone
    refine Or.inl ?_
    rwa [retains_type_iff htype, (files_insert htag).2, ← retains_type_iff htype]
  -- among values only one in the slot of the new one can go, and it goes with a warning
  rw [retains_other_iff htype] at h
  obtain ⟨kept, hkept, hsame⟩ := h
  rw [retains_other_iff htype, insert, if_neg htag, addValue]
  cases hfind : topic.values.find? (·.sameSlot ⟨predicate, object⟩) with
  | none => exact Or.inl ⟨kept, List.mem_append_left _ hkept, hsame⟩
  | some existing =>
    dsimp only
    split
    · exact Or.inl ⟨kept, hkept, hsame⟩
    · rename_i hother
      have hslot : existing.sameSlot ⟨predicate, object⟩ = true := by
        simpa using List.find?_some hfind
      have hsingular : predicate.isSingular = true := Value.isSingular_of_sameSlot hslot hother
      rcases Value.mem_replaceIn_or_sameSlot hkept with hkept | hgone
      · exact Or.inl ⟨kept, hkept, hsame⟩
      · have hpredicate : value.predicate = predicate :=
          (Value.same_iff.mp hsame).1.symm.trans (Value.predicate_of_sameSlot hgone)
        rw [hpredicate]
        exact Or.inr ⟨hsingular, List.mem_append_left _ (List.mem_singleton_self _)⟩

/-! ## Many values -/

/-- A value that is not lost in silence: the topic says it, or it is a comment or label and there
has been a warning. -/
def Accounts (topic : Topic) (notes : List Diagnostic) (value : Value) : Prop :=
  topic.retains value = true ∨
    value.predicate.isSingular = true ∧ overwriteNote topic.subject.text value.predicate ∈ notes

variable {notes notes' : List Diagnostic}

/-- More messages do no harm. -/
theorem Accounts.mono (h : topic.Accounts notes value) (hnotes : notes ⊆ notes') :
    topic.Accounts notes' value :=
  h.imp_right fun ⟨hsingular, hnote⟩ => ⟨hsingular, hnotes hnote⟩

/-- A value that is accounted for stays accounted for while the topic is told another one. -/
theorem Accounts.insert (h : topic.Accounts notes value) (predicate : Predicate) (object : Term) :
    (topic.insert predicate object).value.Accounts
      (notes ++ (topic.insert predicate object).notes) value := by
  rw [Accounts, subject_insert]
  rcases h with h | ⟨hsingular, hnote⟩
  · refine (retains_insert_or_noted h predicate object).imp_right ?_
    rintro ⟨hsingular, hnote⟩
    exact ⟨hsingular, List.mem_append_right _ hnote⟩
  · exact Or.inr ⟨hsingular, List.mem_append_left _ hnote⟩

/-- A topic that is told some values, one after another, with the messages on the way. -/
def tell (topic : Topic) (values : List Value) : Logged Topic :=
  values.foldlM (fun topic value => topic.insert value.predicate value.object) topic

/-- The messages aside, a topic that is told some values is one into which they are inserted. -/
theorem value_tell (topic : Topic) (values : List Value) :
    (topic.tell values).value = topic.insertAll values :=
  Logged.value_foldlM ..

/-- What a topic is told does not change what it is about. -/
theorem subject_tell (topic : Topic) (values : List Value) :
    (topic.tell values).value.subject = topic.subject := by
  rw [value_tell, subject_insertAll]

/-- A declaration makes a topic by telling it one fact after another. -/
theorem declaredTopic_eq_tell (subject : Term) (facts : List Fact) :
    FactStore.declaredTopic subject facts = tell { subject := subject } (facts.map Fact.value) := by
  rw [tell, List.foldlM_map]
  rfl

/-- Merging a topic is telling its contents, with the same messages. -/
theorem merge_eq_tell (topic later : Topic) : topic.merge later = topic.tell later.contents := by
  rw [tell, contents, List.foldlM_append, List.foldlM_map]
  rfl

/-- So a value stays accounted for while the topic is told many others. -/
theorem Accounts.tell (h : topic.Accounts notes value) (values : List Value) :
    (topic.tell values).value.Accounts (notes ++ (topic.tell values).notes) value :=
  Logged.foldlM_keeps (P := fun (topic : Topic) notes => topic.Accounts notes value)
    (fun _ _ told h => h.insert told.predicate told.object) values h

/-- No value that a topic is told is lost in silence. -/
theorem accounts_tell {values : List Value} (h : value ∈ values) (topic : Topic)
    (notes : List Diagnostic) :
    (topic.tell values).value.Accounts (notes ++ (topic.tell values).notes) value := by
  -- a value that is accounted for stays so, whatever the topic is told
  have hkept : ∀ (topic : Topic) notes (told : Value), topic.Accounts notes value →
      (topic.insert told.predicate told.object).value.Accounts
        (notes ++ (topic.insert told.predicate told.object).notes) value :=
    fun _ _ told h => h.insert told.predicate told.object
  -- a value that has just been told is what the topic says
  have htold : ∀ (topic : Topic) notes, True →
      (topic.insert value.predicate value.object).value.Accounts
        (notes ++ (topic.insert value.predicate value.object).notes) value :=
    fun topic _ _ => Or.inl (retains_insert topic value.predicate value.object)
  -- nothing is asked of the topic until it is told the value
  rw [tell]
  exact Logged.foldlM_of_mem (a := value) (P := fun _ _ => True)
    (Q := fun (topic : Topic) notes => topic.Accounts notes value) (fun _ _ _ h => h) hkept htold h
    trivial

/-- What a topic says is among its contents. -/
theorem exists_mem_contents (h : topic.retains value = true) :
    ∃ kept ∈ topic.contents, kept.same value = true := by
  by_cases htype : value.predicate = .known .type
  · rw [retains_type_iff htype] at h
    obtain ⟨tag, htag, hsame⟩ := h
    refine ⟨⟨.known .type, tag⟩, List.mem_append_left _ (List.mem_map_of_mem htag), ?_⟩
    exact Value.same_iff.mpr ⟨htype.symm, hsame⟩
  · rw [retains_other_iff htype] at h
    obtain ⟨kept, hkept, hsame⟩ := h
    exact ⟨kept, List.mem_append_right _ hkept, hsame⟩

/-- A value that a topic accounts for is accounted for when the topic has been merged into another
one of its subject. -/
theorem Accounts.merge_into {later : Topic} (h : later.Accounts notes value)
    (hsubject : later.subject.text = topic.subject.text) :
    (topic.merge later).value.Accounts (notes ++ (topic.merge later).notes) value := by
  rw [merge_eq_tell]
  rcases h with h | ⟨hsingular, hnote⟩
  · -- the topic is told an equal value, which it need not keep either
    obtain ⟨kept, hkept, hsame⟩ := exists_mem_contents h
    have hpredicate : kept.predicate = value.predicate := (Value.same_iff.mp hsame).1
    rcases accounts_tell hkept topic notes with hretained | hnoted
    · exact Or.inl (retains_of_same hretained hsame)
    · rw [hpredicate] at hnoted
      exact Or.inr hnoted
  · -- there has been a warning, which names the subject of both
    rw [hsubject] at hnote
    rw [Accounts, subject_tell]
    exact Or.inr ⟨hsingular, List.mem_append_left _ hnote⟩

end Topic

/-! ## The store -/

/-- What a store takes in: a fact, or a declaration. -/
inductive Intake where
  | fact (fact : Fact)
  | declaration (facts : List Fact)
deriving DecidableEq

namespace Intake

/-- All the facts that are taken in at once. -/
def facts : Intake → List Fact
  | fact only => [only]
  | declaration all => all

/-- All that is taken in at once is about one subject. -/
def IsAboutOne (intake : Intake) : Prop :=
  ∀ a ∈ intake.facts, ∀ b ∈ intake.facts, a.subject.text = b.subject.text

instance (intake : Intake) : Decidable intake.IsAboutOne :=
  inferInstanceAs (Decidable (∀ a ∈ intake.facts, ∀ b ∈ intake.facts, _ = _))

end Intake

namespace FactStore

/-- One step in the filling of a store. -/
def takeIn (settings : Settings) (store : FactStore) : Intake → Logged FactStore
  | .fact fact => store.addFact fact
  | .declaration facts => store.addDeclaration settings facts

/-- The store of some facts and declarations, in the order in which they come. -/
def ofIntakes (settings : Settings) (intakes : List Intake) : Logged FactStore :=
  intakes.foldlM (takeIn settings) {}

/-- A stream of facts is taken in fact by fact. -/
theorem ofFacts_eq_ofIntakes (settings : Settings) (facts : List Fact) :
    ofFacts facts = ofIntakes settings (facts.map .fact) := by
  rw [ofIntakes, List.foldlM_map]
  rfl

/-- A list of declarations is taken in declaration by declaration. -/
theorem ofDeclarations_eq_ofIntakes (settings : Settings) (declarations : List (List Fact)) :
    ofDeclarations settings declarations = ofIntakes settings (declarations.map .declaration) := by
  rw [ofIntakes, List.foldlM_map]
  rfl

/-- A fact that is not lost in silence: the topic of its subject accounts for what it says. -/
def Accounts (store : FactStore) (notes : List Diagnostic) (fact : Fact) : Prop :=
  ∃ topic, store.get? fact.subject.text = some topic ∧ topic.Accounts notes fact.value

/-- The outcome of taking some values in: the topic of their subject has been replaced by one that
accounts for them, and for all that the topic before it accounted for. -/
structure Absorbs (store : FactStore) (values : List Value) (topic : Topic)
    (outcome : Logged FactStore) : Prop where
  value_eq : outcome.value = store.put topic
  told : ∀ value ∈ values, ∀ notes, topic.Accounts (notes ++ outcome.notes) value
  kept : ∀ existing, store.get? topic.subject.text = some existing →
    ∀ notes value, existing.Accounts notes value → topic.Accounts (notes ++ outcome.notes) value

variable {settings : Settings} {store : FactStore} {fact : Fact} {notes : List Diagnostic}

/-- A fact is taken in by the topic of its subject, or by a new one if there is none. -/
theorem exists_absorbs_addFact (hstore : store.Filed)
    (hignored : ¬ isIgnoredSubject fact.subject.text = true) :
    ∃ topic, topic.subject.text = fact.subject.text ∧
      Absorbs store [fact.value] topic (store.addFact fact) := by
  -- the topic that is told the fact, which is a new one if there has been none
  set base := (store.get? fact.subject.text).getD { subject := fact.subject } with hbase
  have hsubject : base.subject.text = fact.subject.text := by
    rw [hbase]
    cases hget : store.get? fact.subject.text with
    | none => rfl
    | some existing => exact hstore _ _ hget
  -- what the topic has to say about the fact is all there is to say
  have hnotes : (store.addFact fact).notes = (base.insert fact.predicate fact.object).notes := by
    rw [addFact, if_neg hignored]
    exact List.append_nil _
  refine ⟨(base.insert fact.predicate fact.object).value, ?_, ?_, ?_, ?_⟩
  · rw [Topic.subject_insert, hsubject]
  · rw [value_addFact, if_neg hignored]
  · -- the fact that it is told
    intro value hvalue notes
    obtain rfl := List.mem_singleton.mp hvalue
    exact Or.inl (Topic.retains_insert base fact.predicate fact.object)
  · -- and whatever was accounted for before
    intro existing hget notes value haccounts
    rw [Topic.subject_insert, hsubject] at hget
    have hexisting : base = existing := by rw [hbase, hget, Option.getD_some]
    rw [hnotes, hexisting]
    exact haccounts.insert fact.predicate fact.object

/-- A declaration is taken in as a whole: it makes a topic by itself, which then is filed, or is
merged into the topic that is there. A value can get lost in either step, and is warned of in
either. -/
theorem exists_absorbs_addDeclaration (settings : Settings) (hstore : store.Filed) (first : Fact)
    (rest : List Fact) (hignored : ¬ isIgnoredSubject first.subject.text = true) :
    ∃ topic, topic.subject.text = first.subject.text ∧
      Absorbs store ((first :: rest).map Fact.value) topic
        (store.addDeclaration settings (first :: rest)) := by
  -- the topic of the declaration, made before anything is filed
  set incoming := declaredTopic first.subject (first :: rest) with hincoming
  have hdeclared := Topic.declaredTopic_eq_tell first.subject (first :: rest)
  rw [← hincoming] at hdeclared
  have hsubject : incoming.value.subject = first.subject := by
    rw [hdeclared, Topic.subject_tell]
  -- it accounts for all values of the declaration, with the messages of its making
  have htold : ∀ value ∈ (first :: rest).map Fact.value,
      incoming.value.Accounts incoming.notes value := by
    intro value hvalue
    rw [hdeclared]
    exact Topic.accounts_tell hvalue _ []
  cases hget : store.get? first.subject.text with
  | none =>
    -- it is the first topic of its subject
    have houtcome : store.addDeclaration settings (first :: rest) =
        incoming >>= fun incoming => pure (store.put incoming) := by
      rw [addDeclaration, if_neg hignored, hget]
    refine ⟨incoming.value, by rw [hsubject], ?_, ?_, ?_⟩
    · rw [houtcome]
      rfl
    · intro value hvalue notes
      rw [houtcome]
      refine (htold value hvalue).mono ?_
      intro note hnote
      exact List.mem_append_right _ (List.mem_append_left _ hnote)
    · intro existing hexisting
      rw [hsubject, hget] at hexisting
      cases hexisting
  | some existing =>
    -- the message that there are two of them comes between those of the two steps
    have houtcome : store.addDeclaration settings (first :: rest) =
        incoming >>= fun incoming => do
          Logged.noteIf settings.verbose .log ("Merging two items with ID " ++ first.subject.text)
          return ⟨Keyed.set first.subject.text (← existing.merge incoming) store.entries⟩ := by
      rw [addDeclaration, if_neg hignored, hget]
    have htext : existing.subject.text = first.subject.text := hstore _ _ hget
    have hmerged : (existing.merge incoming.value).value.subject = existing.subject := by
      rw [Topic.merge_eq_tell, Topic.subject_tell]
    refine ⟨(existing.merge incoming.value).value, by rw [hmerged, htext], ?_, ?_, ?_⟩
    · rw [houtcome, put, hmerged, htext]
      rfl
    · intro value hvalue notes
      -- of what the declaration says, each value is accounted for by its topic, and so after the
      -- merge
      have hsame : incoming.value.subject.text = existing.subject.text := by rw [hsubject, htext]
      rw [houtcome]
      refine ((htold value hvalue).merge_into hsame).mono ?_
      intro note hnote
      simp only [Logged.notes_bind, Logged.notes_pure, List.mem_append] at hnote ⊢
      tauto
    · intro other hother notes value haccounts
      rw [hmerged, htext, hget] at hother
      -- what was there before has only been told more
      obtain rfl := Option.some.inj hother
      rw [houtcome]
      have htold := haccounts.tell incoming.value.contents
      rw [← Topic.merge_eq_tell] at htold
      refine htold.mono ?_
      intro note hnote
      simp only [Logged.notes_bind, Logged.notes_pure, List.mem_append] at hnote ⊢
      tauto

/-- **What a store can become by one intake.** It stays as it is, if nothing is taken in or the
subject is one that is left out; otherwise the topic of the subject takes it all in. -/
theorem takeIn_cases (settings : Settings) (hstore : store.Filed) (intake : Intake) :
    (takeIn settings store intake = pure store ∧
        ∀ first ∈ intake.facts.head?, isIgnoredSubject first.subject.text = true) ∨
      ∃ first ∈ intake.facts.head?, ∃ topic, topic.subject.text = first.subject.text ∧
        Absorbs store (intake.facts.map Fact.value) topic (takeIn settings store intake) := by
  -- what is taken in about a subject that is left out changes nothing, and neither does an empty
  -- declaration
  cases intake with
  | fact fact =>
    by_cases hignored : isIgnoredSubject fact.subject.text = true
    · refine Or.inl ⟨if_pos hignored, fun first hfirst => ?_⟩
      obtain rfl := Option.some.inj hfirst
      exact hignored
    · exact Or.inr ⟨fact, rfl, exists_absorbs_addFact hstore hignored⟩
  | declaration facts =>
    cases facts with
    | nil => exact Or.inl ⟨rfl, fun first hfirst => nomatch hfirst⟩
    | cons first rest =>
      by_cases hignored : isIgnoredSubject first.subject.text = true
      · refine Or.inl ⟨if_pos hignored, fun other hother => ?_⟩
        obtain rfl := Option.some.inj hother
        exact hignored
      · exact Or.inr ⟨first, rfl, exists_absorbs_addDeclaration settings hstore first rest hignored⟩

/-- Topics stay filed under their subjects. -/
theorem Filed.takeIn (h : store.Filed) (settings : Settings) (intake : Intake) :
    (takeIn settings store intake).value.Filed := by
  rcases takeIn_cases settings h intake with ⟨houtcome, -⟩ | ⟨first, -, topic, -, habsorbs⟩
  · rw [houtcome]
    exact h
  · rw [habsorbs.value_eq]
    exact h.put topic

/-- A fact that is accounted for stays accounted for. -/
theorem Accounts.takeIn (h : store.Accounts notes fact) (settings : Settings)
    (hstore : store.Filed) (intake : Intake) :
    (takeIn settings store intake).value.Accounts
      (notes ++ (takeIn settings store intake).notes) fact := by
  obtain ⟨existing, hget, haccounts⟩ := h
  rcases takeIn_cases settings hstore intake with ⟨houtcome, -⟩ | ⟨first, -, topic, -, habsorbs⟩
  · rw [houtcome]
    refine ⟨existing, hget, haccounts.mono ?_⟩
    exact List.subset_append_left ..
  · -- the topic of one subject has been replaced
    rw [habsorbs.value_eq]
    by_cases hsubject : fact.subject.text = topic.subject.text
    · refine ⟨topic, ?_, habsorbs.kept existing (hsubject ▸ hget) notes _ haccounts⟩
      rw [get?_put, if_pos hsubject]
    · -- the topics of other subjects are as before
      refine ⟨existing, ?_, haccounts.mono (List.subset_append_left ..)⟩
      rw [get?_put, if_neg hsubject, hget]

/-- What is taken in is accounted for. -/
theorem accounts_takeIn (settings : Settings) (hstore : store.Filed) {intake : Intake}
    (hone : intake.IsAboutOne) (hfact : fact ∈ intake.facts)
    (hignored : ¬ isIgnoredSubject fact.subject.text = true) (notes : List Diagnostic) :
    (takeIn settings store intake).value.Accounts
      (notes ++ (takeIn settings store intake).notes) fact := by
  -- the first fact decides for all, and it is about the same subject
  have hfirst : ∀ first ∈ intake.facts.head?, first.subject.text = fact.subject.text :=
    fun first hfirst => hone first (List.mem_of_head? hfirst) fact hfact
  rcases takeIn_cases settings hstore intake with
    ⟨-, hleftOut⟩ | ⟨first, hmem, topic, hsubject, habsorbs⟩
  · -- then the subject of all its facts is left out
    cases hhead : intake.facts.head? with
    | none =>
      rw [List.head?_eq_none_iff.mp hhead] at hfact
      cases hfact
    | some first =>
      have hleft := hleftOut first hhead
      rw [hfirst first hhead] at hleft
      exact absurd hleft hignored
  · rw [habsorbs.value_eq]
    refine ⟨topic, ?_, habsorbs.told fact.value (List.mem_map_of_mem hfact) notes⟩
    rw [get?_put, hsubject, hfirst first hmem, if_pos rfl]

end FactStore

/-- **Nothing is lost in silence.** Let a store be filled by facts and by declarations, each of them
about one subject, in whatever order. Every fact that was in one of them, unless its subject is left
out, is accounted for at the end: the topic of its subject has an equal type tag, or an equal value
if the fact gives no type; or else the fact was a comment or label, and on the way there was a
warning that names its subject.

A declaration about several subjects would file all its facts under the first one, which
`IsAboutOne` excludes. Equality is that of terms, which takes language tags in upper and lower case
for equal. -/
theorem ofIntakes_retains_or_notes (settings : Settings) (intakes : List Intake)
    (hone : ∀ intake ∈ intakes, intake.IsAboutOne) :
    ∀ intake ∈ intakes, ∀ fact ∈ intake.facts, ¬ isIgnoredSubject fact.subject.text = true →
      ∃ topic,
        (FactStore.ofIntakes settings intakes).value.get? fact.subject.text = some topic ∧
          (topic.retains fact.value = true ∨
            fact.predicate.isSingular = true ∧
              overwriteNote fact.subject.text fact.predicate ∈
                (FactStore.ofIntakes settings intakes).notes) := by
  intro intake hintake fact hfact hignored
  -- a store is filed all the way, and from the intake of the fact on it accounts for it as well
  have hkept : ∀ (store : FactStore) notes intake, store.Filed ∧ store.Accounts notes fact →
      (store.takeIn settings intake).value.Filed ∧
        (store.takeIn settings intake).value.Accounts
          (notes ++ (store.takeIn settings intake).notes) fact :=
    fun store notes intake h => ⟨h.1.takeIn settings intake, h.2.takeIn settings h.1 intake⟩
  have htaken : ∀ (store : FactStore) notes, store.Filed →
      (store.takeIn settings intake).value.Filed ∧
        (store.takeIn settings intake).value.Accounts
          (notes ++ (store.takeIn settings intake).notes) fact :=
    fun store notes h => ⟨h.takeIn settings intake,
      FactStore.accounts_takeIn settings h (hone intake hintake) hfact hignored notes⟩
  -- from there on to the end of the run
  have hend : (FactStore.ofIntakes settings intakes).value.Filed ∧
      (FactStore.ofIntakes settings intakes).value.Accounts
        ([] ++ (FactStore.ofIntakes settings intakes).notes) fact :=
    Logged.foldlM_of_mem (a := intake) (P := fun (store : FactStore) _ => store.Filed)
      (Q := fun store notes => store.Filed ∧ store.Accounts notes fact)
      (fun _ _ intake h => h.takeIn settings intake) hkept htaken hintake FactStore.filed_empty
  obtain ⟨hfiled, topic, hget, haccounts⟩ := hend
  rw [Topic.Accounts, hfiled _ _ hget] at haccounts
  exact ⟨topic, hget, haccounts⟩

/-- A place is declared twice, and described by a fact in between. Its first comment gives way
within the first declaration, and what took its place gives way when the second declaration is
merged; neither is said any more, and there have been warnings. A match in a language that is
written otherwise is not kept, but an equal one is. -/
theorem ofIntakes_retains_or_notes_place :
    let place : Term := .iri "http://schema.org/Place"
    let english (word : Vocabulary) (text lang : String) : Value :=
      ⟨.known word, .literal { lexical := text, language := some lang }⟩
    let tag : Value := ⟨.known .type, .iri "http://www.w3.org/2000/01/rdf-schema#Class"⟩
    let say (value : Value) : Fact := ⟨place, value.predicate, value.object⟩
    let first : Intake := .declaration
      [say tag, say (english .comment "A place." "en"), say (english .comment "A spot." "en")]
    let second : Intake := .declaration
      [say (english .closeMatch "spot" "EN"), say (english .comment "Somewhere." "en")]
    let intakes := [first, .fact (say (english .closeMatch "spot" "en")), second,
      .fact ⟨.iri "file:///places", .known .comment, place⟩]
    (∀ intake ∈ intakes, intake.IsAboutOne) ∧
      ∃ topic, (FactStore.ofIntakes {} intakes).value.get? place.text = some topic ∧
        topic.types = [tag.object] ∧
        topic.values =
          [english .comment "Somewhere." "en", english .closeMatch "spot" "en"] ∧
        topic.retains (english .closeMatch "spot" "EN") = true ∧
        overwriteNote place.text (.known .comment) ∈ (FactStore.ofIntakes {} intakes).notes := by
  intro place english tag say first second intakes
  have hone : ∀ intake ∈ intakes, intake.IsAboutOne := by decide
  have hstored : ((FactStore.ofIntakes {} intakes).value.get? place.text).map
      (fun topic => (topic.types, topic.values)) = some ([tag.object],
        [english .comment "Somewhere." "en", english .closeMatch "spot" "en"]) := by decide
  obtain ⟨topic, htopic, hcomment⟩ := ofIntakes_retains_or_notes {} intakes hone first (by decide)
    (say (english .comment "A place." "en")) (by decide) (by decide)
  obtain ⟨topic', htopic', hmatch⟩ := ofIntakes_retains_or_notes {} intakes hone second (by decide)
    (say (english .closeMatch "spot" "EN")) (by decide) (by decide)
  obtain rfl : topic' = topic := Option.some.inj (htopic'.symm.trans htopic)
  rw [htopic, Option.map_some, Option.some.injEq, Prod.mk.injEq] at hstored
  refine ⟨hone, topic', htopic, hstored.1, hstored.2, ?_, ?_⟩
  · -- a match gives way to nothing
    exact hmatch.resolve_right fun h => Bool.false_ne_true h.1
  · refine (hcomment.resolve_left fun h => ?_).2
    rw [Topic.retains, hstored.1, hstored.2] at h
    exact absurd h (by decide)

end OntoTypes
