import OntoTypes.Proofs.Grouping
import OntoTypes.Proofs.Reading

/-!
# What a topic holds

A topic holds what its facts say, and nothing else. References are kept where they are first seen,
and type tags too; comments and labels give way to later ones in the same slot, but no slot that has
been filled becomes empty.

Main results:

* `files_insert` — what one more assertion can do to a topic;
* `references_declaredTopic` — a topic refers to what its facts refer to, each once;
* `any_types_declaredTopic`, `memberTag?_eq_some_iff` — the type tags of a topic are those of its
  facts;
* `getLast?_comments_eq_some_iff` — a topic of one comment has the comment of its facts.
-/

namespace OntoTypes

/-- A fact without its subject. -/
def Fact.value (fact : Fact) : Value := ⟨fact.predicate, fact.object⟩

/-! ## One assertion more -/

/-- A term is the same as itself. -/
theorem Term.same_refl (a : Term) : a.same a = true := by
  cases a <;> simp [same, Literal.same]

/-- Nodes are only taken for one another if they are the same. -/
theorem Term.eq_of_same {a b : Term} (hb : b.isLiteral = false) (h : a.same b = true) : a = b := by
  cases b with
  | iri value => cases a <;> simp_all [same]
  | blank label => cases a <;> simp_all [same]
  | literal value => cases hb

namespace Topic

variable {topic : Topic} {predicate : Predicate} {object : Term}

/-- What becomes of the values of a topic that is told one more, not a type tag: the value is new,
or its slot holds the same already, or it takes the place of another one. -/
inductive Files (values : List Value) (value : Value) : List Value → Prop where
  | new (hnew : ∀ existing ∈ values, existing.sameSlot value = false) :
      Files values value (values ++ [value])
  | known (existing : Value) (hexisting : existing ∈ values)
      (hslot : existing.sameSlot value = true) (hsame : existing.object.same value.object = true) :
      Files values value values
  | replaced (existing : Value) (hexisting : existing ∈ values)
      (hslot : existing.sameSlot value = true)
      (hother : existing.object.same value.object = false) :
      Files values value (value.replaceIn values)

/-- A type tag is added to the type tags, and nothing is said about it. -/
theorem insert_type (topic : Topic) (tag : Term) :
    (topic.insert (.known .type) tag).value = topic.addType tag :=
  rfl

/-- Whatever is not a type tag is filed among the values. -/
theorem files_insert (h : predicate ≠ .known .type) :
    Files topic.values ⟨predicate, object⟩ (topic.insert predicate object).value.values ∧
      (topic.insert predicate object).value.types = topic.types := by
  -- the slot is free, or it holds the same, or it holds something else
  rw [insert, if_neg h, addValue]
  cases hfind : topic.values.find? (·.sameSlot ⟨predicate, object⟩) with
  | none =>
    refine ⟨.new fun existing hexisting => ?_, rfl⟩
    simpa using List.find?_eq_none.mp hfind existing hexisting
  | some existing =>
    have hexisting := List.mem_of_find?_eq_some hfind
    have hslot := List.find?_some hfind
    dsimp only
    split
    · rename_i hsame
      exact ⟨.known existing hexisting hslot hsame, rfl⟩
    · rename_i hother
      exact ⟨.replaced existing hexisting hslot (Bool.eq_false_iff.mpr hother), rfl⟩

end Topic

/-! ## References -/

/-- The edges that are kept where they are first seen: all but type tags, comments and labels. -/
def Vocabulary.isEdge (word : Vocabulary) : Bool :=
  word ≠ .type && !(Predicate.known word).isSingular

namespace Value

/-- A value is in its own slot. -/
theorem sameSlot_refl (value : Value) : value.sameSlot value = true := by
  simp [sameSlot, Term.same_refl]

/-- Slots are filled by values of one predicate. -/
theorem predicate_of_sameSlot {a b : Value} (h : a.sameSlot b = true) :
    a.predicate = b.predicate := by
  have hpredicate := (Bool.and_eq_true_iff.mp h).1
  exact of_decide_eq_true hpredicate

/-- An edge fills its slot alone. -/
theorem same_of_sameSlot {a b : Value} (h : a.sameSlot b = true)
    (hplain : a.predicate.isSingular = false) : a.object.same b.object = true := by
  have hobject := (Bool.and_eq_true_iff.mp h).2
  rwa [hplain, if_neg Bool.false_ne_true] at hobject

/-- A reference that has no slot yet has not been made. -/
theorem not_mem_references_of_new {word : Vocabulary} {node : Term} {value : Value}
    {values : List Value} (href : value.reference? word = some node)
    (hnew : ∀ existing ∈ values, existing.sameSlot value = false) :
    node ∉ values.filterMap (reference? word) := by
  intro hmem
  obtain ⟨existing, hexisting, hnode⟩ := List.mem_filterMap.mp hmem
  obtain ⟨rfl, hliteral⟩ := reference?_eq_some_iff.mp hnode
  obtain ⟨rfl, -⟩ := reference?_eq_some_iff.mp href
  -- a value with this reference would be in the slot
  have hslot := hnew _ hexisting
  rw [sameSlot_refl] at hslot
  cases hslot

/-- A value that is replaced by one of another kind is not missed. -/
theorem reference?_replaceIn {word : Vocabulary} {value : Value}
    (hvalue : value.predicate ≠ .known word) (values : List Value) :
    (value.replaceIn values).filterMap (reference? word) = values.filterMap (reference? word) := by
  induction values with
  | nil => rfl
  | cons existing rest ih =>
    rw [replaceIn]
    split
    · -- the value that goes is of the other kind, too
      rename_i hslot
      have hexisting : existing.predicate ≠ .known word := predicate_of_sameSlot hslot ▸ hvalue
      rw [List.filterMap_cons_none (reference?_eq_none_of_predicate hvalue),
        List.filterMap_cons_none (reference?_eq_none_of_predicate hexisting)]
    · rw [List.filterMap_cons, List.filterMap_cons, ih]

end Value

namespace Topic

variable {topic : Topic} {word : Vocabulary}

/-- A reference is kept unless it is there already. -/
theorem Files.references (hword : word.isEdge = true) {values values' : List Value} {value : Value}
    (h : Files values value values') :
    values'.filterMap (Value.reference? word) =
      match value.reference? word with
      | none => values.filterMap (Value.reference? word)
      | some node =>
        if node ∈ values.filterMap (Value.reference? word) then
          values.filterMap (Value.reference? word)
        else values.filterMap (Value.reference? word) ++ [node] := by
  -- edges are not singular: each object has a slot of its own
  have hplain : (Predicate.known word).isSingular = false := by
    simpa using (Bool.and_eq_true_iff.mp hword).2
  cases h with
  | new hnew =>
    -- the value comes last, and its reference is a new one
    rw [List.filterMap_append]
    cases href : value.reference? word with
    | none => simp [href]
    | some node =>
      dsimp only
      rw [if_neg (Value.not_mem_references_of_new href hnew)]
      simp [href]
  | known existing hexisting hslot hsame =>
    -- the value is there, and its reference with it
    cases href : value.reference? word with
    | none => rfl
    | some node =>
      obtain ⟨rfl, hliteral⟩ := Value.reference?_eq_some_iff.mp href
      have hobject := Term.eq_of_same hliteral hsame
      have hpredicate : existing.predicate = .known word := Value.predicate_of_sameSlot hslot
      have hvalue : existing = ⟨.known word, node⟩ := by rw [← hobject, ← hpredicate]
      have hmem : node ∈ values.filterMap (Value.reference? word) :=
        List.mem_filterMap.mpr ⟨existing, hexisting, hvalue ▸ href⟩
      dsimp only
      rw [if_pos hmem]
  | replaced existing hexisting hslot hother =>
    by_cases hpredicate : value.predicate = .known word
    · -- an edge has its slot to itself
      have hexisting : existing.predicate.isSingular = false := by
        rw [Value.predicate_of_sameSlot hslot, hpredicate, hplain]
      rw [Value.same_of_sameSlot hslot hexisting] at hother
      cases hother
    · -- a comment or a label that is replaced refers to nothing
      rw [Value.reference?_replaceIn hpredicate, Value.reference?_eq_none_of_predicate hpredicate]

/-- **A topic refers to what its facts refer to**, each where it is first seen. The values
themselves may be replaced or dropped on the way; for references all that matters is that an edge
never shares its slot. -/
theorem references_declaredTopic (hword : word.isEdge = true) (subject : Term)
    (facts : List Fact) :
    (FactStore.declaredTopic subject facts).value.references word =
      (facts.filterMap fun fact => fact.value.reference? word).eraseDups := by
  have htype : word ≠ .type := by simpa using (Bool.and_eq_true_iff.mp hword).1
  -- fact by fact, from the end
  induction facts using List.reverseRecOn with
  | nil => rfl
  | append_singleton facts fact ih =>
    rw [FactStore.declaredTopic_concat, List.filterMap_append]
    by_cases hfact : fact.predicate = .known .type
    · -- a type tag is no reference
      have hnone : fact.value.reference? word = none :=
        Value.reference?_eq_none_of_predicate (by simpa [Fact.value, hfact] using Ne.symm htype)
      have hvalues : ((FactStore.declaredTopic subject facts).value.insert fact.predicate
          fact.object).value.values = (FactStore.declaredTopic subject facts).value.values := by
        rw [hfact, insert_type, addType]
        split <;> rfl
      rw [references, hvalues, ← references, ih]
      simp [hnone]
    · have hfiled : Files (FactStore.declaredTopic subject facts).value.values fact.value
          ((FactStore.declaredTopic subject facts).value.insert fact.predicate
            fact.object).value.values := (files_insert hfact).1
      rw [references, hfiled.references hword, ← references, ih]
      -- the reference is kept if it is new, as it is among distinct items
      cases href : fact.value.reference? word with
      | none => simp [href]
      | some node =>
        have hsingle : [fact].filterMap (fun fact => fact.value.reference? word) = [node] := by
          simp [href]
        rw [hsingle, eraseDups_concat]
        simp only [List.mem_eraseDups]

end Topic

/-! ## Type tags -/

/-- Terms that are taken for one another are the same or both literals. -/
theorem Term.eq_or_exists_literal_of_same {a b : Term} (h : a.same b = true) :
    a = b ∨ ∃ l l', a = .literal l ∧ b = .literal l' := by
  -- outside literals, sameness is equality
  cases hb : b.isLiteral with
  | false => exact Or.inl (Term.eq_of_same hb h)
  | true =>
    cases b with
    | literal l' =>
      cases a with
      | literal l => exact Or.inr ⟨l, l', rfl, rfl⟩
      | iri value => simp [same] at h
      | blank label => simp [same] at h
    | iri value => cases hb
    | blank label => cases hb

namespace Topic

variable {subject : Term} {facts : List Fact}

/-- Adding a tag adds no other one. -/
theorem mem_types_addType {topic : Topic} {tag other : Term} :
    other ∈ (topic.addType tag).types → other ∈ topic.types ∨ other = tag := by
  unfold addType
  split
  · exact Or.inl
  · intro h
    simpa using h

/-- Adding a tag takes none away. -/
theorem subset_types_addType (topic : Topic) (tag : Term) :
    topic.types ⊆ (topic.addType tag).types := by
  unfold addType
  split
  · exact List.Subset.refl _
  · exact List.subset_append_left ..

/-- Afterwards the tag is there, or one that is the same. -/
theorem exists_same_mem_types_addType (topic : Topic) (tag : Term) :
    ∃ other ∈ (topic.addType tag).types, other.same tag = true := by
  unfold addType
  split
  · rename_i h
    exact List.any_eq_true.mp h
  · exact ⟨tag, List.mem_append_right _ (List.mem_singleton_self tag), Term.same_refl tag⟩

/-- The type tags of a topic are objects of its facts. -/
theorem exists_of_mem_types {tag : Term}
    (h : tag ∈ (FactStore.declaredTopic subject facts).value.types) :
    ∃ fact ∈ facts, fact.predicate = .known .type ∧ fact.object = tag := by
  induction facts using List.reverseRecOn with
  | nil => cases h
  | append_singleton facts fact ih =>
    -- a tag from an earlier fact
    have hearlier : tag ∈ (FactStore.declaredTopic subject facts).value.types →
        ∃ fact' ∈ facts ++ [fact], fact'.predicate = .known .type ∧ fact'.object = tag := by
      intro hmem
      obtain ⟨fact', hfact', htag⟩ := ih hmem
      exact ⟨fact', List.mem_append_left _ hfact', htag⟩
    rw [FactStore.declaredTopic_concat] at h
    by_cases htype : fact.predicate = .known .type
    · rw [htype, insert_type] at h
      rcases mem_types_addType h with h | rfl
      · exact hearlier h
      · exact ⟨fact, List.mem_append_right _ (List.mem_singleton_self fact), htype, rfl⟩
    · rw [(files_insert htype).2] at h
      exact hearlier h

/-- The type of each fact about a topic is among its type tags. -/
theorem exists_same_mem_types {fact : Fact} (hfact : fact ∈ facts)
    (htype : fact.predicate = .known .type) :
    ∃ tag ∈ (FactStore.declaredTopic subject facts).value.types, tag.same fact.object = true := by
  induction facts using List.reverseRecOn with
  | nil => cases hfact
  | append_singleton facts last ih =>
    rw [FactStore.declaredTopic_concat]
    rcases List.mem_append.mp hfact with hfact | hfact
    · -- an earlier fact, whose tag is still there
      obtain ⟨tag, htag, hsame⟩ := ih hfact
      by_cases hlast : last.predicate = .known .type
      · rw [hlast, insert_type]
        exact ⟨tag, subset_types_addType _ _ htag, hsame⟩
      · rw [(files_insert hlast).2]
        exact ⟨tag, htag, hsame⟩
    · -- the last fact, whose tag has just been added
      obtain rfl := List.mem_singleton.mp hfact
      rw [htype, insert_type]
      exact exists_same_mem_types_addType _ _

/-- What does not tell literals apart is true of a type tag exactly if it is true of the type in a
fact. -/
theorem any_types_declaredTopic {keep : Term → Bool}
    (hliteral : ∀ l l' : Literal, keep (.literal l) = keep (.literal l')) :
    (FactStore.declaredTopic subject facts).value.types.any keep = true ↔
      ∃ fact ∈ facts, fact.predicate = .known .type ∧ keep fact.object = true := by
  rw [List.any_eq_true]
  constructor
  · rintro ⟨tag, htag, hkeep⟩
    obtain ⟨fact, hfact, htype, rfl⟩ := exists_of_mem_types htag
    exact ⟨fact, hfact, htype, hkeep⟩
  · rintro ⟨fact, hfact, htype, hkeep⟩
    obtain ⟨tag, htag, hsame⟩ : ∃ tag ∈ (FactStore.declaredTopic subject facts).value.types,
        tag.same fact.object = true := exists_same_mem_types hfact htype
    -- the tag that is kept may be another literal, which makes no difference
    rcases Term.eq_or_exists_literal_of_same hsame with rfl | ⟨l, l', rfl, hobject⟩
    · exact ⟨_, htag, hkeep⟩
    · rw [hobject] at hkeep
      exact ⟨.literal l, htag, (hliteral l l').trans hkeep⟩

/-- A topic of one type tag outside the vocabulary is a member by the type in its facts. -/
theorem memberTag?_eq_some_iff {tag : Term}
    (hone : ∀ a ∈ facts, ∀ b ∈ facts, a.predicate = .known .type → b.predicate = .known .type →
      a.object.isMetaType = false → b.object.isMetaType = false → a.object = b.object) :
    (FactStore.declaredTopic subject facts).value.memberTag? = some tag ↔
      ∃ fact ∈ facts, fact.predicate = .known .type ∧ fact.object.isMetaType = false ∧
        fact.object = tag := by
  -- the tag of a member comes from some fact
  have hfrom : ∀ tag, (FactStore.declaredTopic subject facts).value.memberTag? = some tag →
      ∃ fact ∈ facts, fact.predicate = .known .type ∧ fact.object.isMetaType = false ∧
        fact.object = tag := by
    intro tag htag
    obtain ⟨fact, hfact, htype, rfl⟩ := exists_of_mem_types (List.mem_of_find?_eq_some htag)
    exact ⟨fact, hfact, htype, by simpa using List.find?_some htag, rfl⟩
  refine ⟨hfrom tag, ?_⟩
  rintro ⟨fact, hfact, htype, hmeta, rfl⟩
  -- there is a tag like that of the fact, and it comes from a fact of the same tag
  have hany : (FactStore.declaredTopic subject facts).value.types.any (!·.isMetaType) = true :=
    (any_types_declaredTopic fun _ _ => rfl).mpr ⟨fact, hfact, htype, by simp [hmeta]⟩
  obtain ⟨tag, htag⟩ :=
    Option.isSome_iff_exists.mp (List.find?_isSome.mpr (List.any_eq_true.mp hany))
  obtain ⟨other, hother, hotherType, hotherMeta, rfl⟩ := hfrom tag htag
  rw [hone fact hfact other hother htype hotherType hmeta hotherMeta]
  exact htag

end Topic

/-! ## Comments -/

/-- When two literals are the same: language tags may differ in case, and nothing else may. -/
theorem Literal.same_iff {a b : Literal} : a.same b = true ↔
    a.lexical = b.lexical ∧ a.datatype = b.datatype ∧
      a.language.map Text.lowercase = b.language.map Text.lowercase := by
  simp [same, and_assoc]

/-- Equal literals in one language are the same. -/
theorem Literal.eq_of_same {a b : Literal} (hsame : a.same b = true)
    (hlanguage : a.language = b.language) : a = b := by
  obtain ⟨hlexical, hdatatype, -⟩ := Literal.same_iff.mp hsame
  cases a
  cases b
  rw [Literal.mk.injEq]
  exact ⟨hlexical, hlanguage, hdatatype⟩

/-- Sameness goes both ways. -/
theorem Term.same_symm {a b : Term} (h : a.same b = true) : b.same a = true := by
  cases a <;> cases b <;> simp_all [same, Literal.same_iff]

/-- It is passed on, too. -/
theorem Term.same_trans {a b c : Term} (hab : a.same b = true) (hbc : b.same c = true) :
    a.same c = true := by
  cases a <;> cases b <;> cases c <;> simp_all [same, Literal.same_iff]

namespace Value

/-- Being in one slot goes both ways. -/
theorem sameSlot_symm {a b : Value} (h : a.sameSlot b = true) : b.sameSlot a = true := by
  have hpredicate := predicate_of_sameSlot h
  unfold sameSlot at h ⊢
  rw [hpredicate] at h
  by_cases hsingular : b.predicate.isSingular = true
  · simp_all
  · simp only [hpredicate, hsingular] at h ⊢
    simpa using Term.same_symm (by simpa using h)

/-- It is passed on, whether the slot is that of a comment or of a single value. -/
theorem sameSlot_trans {a b c : Value} (hab : a.sameSlot b = true) (hbc : b.sameSlot c = true) :
    a.sameSlot c = true := by
  have ha := predicate_of_sameSlot hab
  have hb := predicate_of_sameSlot hbc
  unfold sameSlot at hab hbc ⊢
  rw [ha, hb] at hab ⊢
  rw [hb] at hbc
  by_cases hsingular : c.predicate.isSingular = true
  · simp_all
  · simp only [hsingular] at hab hbc ⊢
    simpa using Term.same_trans (by simpa using hab) (by simpa using hbc)

/-- Replacing brings in the new value only. -/
theorem mem_replaceIn {value other : Value} {values : List Value}
    (h : other ∈ value.replaceIn values) : other ∈ values ∨ other = value := by
  induction values with
  | nil => cases h
  | cons existing rest ih =>
    rw [replaceIn] at h
    split at h
    · rcases List.mem_cons.mp h with rfl | h
      · exact Or.inr rfl
      · exact Or.inl (List.mem_cons_of_mem _ h)
    · rcases List.mem_cons.mp h with rfl | h
      · exact Or.inl (List.mem_cons_self ..)
      · exact (ih h).imp_left (List.mem_cons_of_mem _)

/-- Replacing a value leaves no slot empty. -/
theorem exists_sameSlot_replaceIn {value other : Value} {values : List Value}
    (h : other ∈ values) : ∃ kept ∈ value.replaceIn values, kept.sameSlot other = true := by
  induction values with
  | nil => cases h
  | cons existing rest ih =>
    rw [replaceIn]
    split
    · rename_i hslot
      -- the value that is put in the slot is of that slot itself
      rcases List.mem_cons.mp h with rfl | h
      · exact ⟨value, List.mem_cons_self .., sameSlot_symm hslot⟩
      · exact ⟨other, List.mem_cons_of_mem _ h, sameSlot_refl other⟩
    · rcases List.mem_cons.mp h with rfl | h
      · exact ⟨_, List.mem_cons_self .., sameSlot_refl _⟩
      · obtain ⟨kept, hkept, hslot⟩ := ih h
        exact ⟨kept, List.mem_cons_of_mem _ hkept, hslot⟩

end Value

namespace Topic

variable {subject : Term} {facts : List Fact}

/-- A topic is told nothing that its facts do not say. -/
theorem Files.mem {values values' : List Value} {value other : Value}
    (h : Files values value values') (hmem : other ∈ values') : other ∈ values ∨ other = value := by
  cases h with
  | new => simpa using hmem
  | known => exact Or.inl hmem
  | replaced => exact Value.mem_replaceIn hmem

/-- Slots that are filled stay filled. -/
theorem Files.exists_sameSlot {values values' : List Value} {value other : Value}
    (h : Files values value values') (hmem : other ∈ values) :
    ∃ kept ∈ values', kept.sameSlot other = true := by
  cases h with
  | new => exact ⟨other, List.mem_append_left _ hmem, Value.sameSlot_refl other⟩
  | known => exact ⟨other, hmem, Value.sameSlot_refl other⟩
  | replaced => exact Value.exists_sameSlot_replaceIn hmem

/-- The slot of a value that is filed is filled. -/
theorem Files.exists_sameSlot_self {values values' : List Value} {value : Value}
    (h : Files values value values') : ∃ kept ∈ values', kept.sameSlot value = true := by
  cases h with
  | new => exact ⟨value, List.mem_append_right _ (List.mem_singleton_self value),
      Value.sameSlot_refl value⟩
  | known existing hexisting hslot => exact ⟨existing, hexisting, hslot⟩
  | replaced existing hexisting hslot =>
    obtain ⟨kept, hkept, hkeptSlot⟩ : ∃ kept ∈ value.replaceIn values,
        kept.sameSlot existing = true := Value.exists_sameSlot_replaceIn hexisting
    exact ⟨kept, hkept, Value.sameSlot_trans hkeptSlot hslot⟩

/-- What a topic is told is what becomes of its values. -/
theorem files_concat {fact : Fact} (h : fact.predicate ≠ .known .type) :
    Files (FactStore.declaredTopic subject facts).value.values fact.value
      (FactStore.declaredTopic subject (facts ++ [fact])).value.values := by
  rw [FactStore.declaredTopic_concat]
  exact (files_insert h).1

/-- A fact that gives a type leaves the values alone. -/
theorem values_concat_type {fact : Fact} (h : fact.predicate = .known .type) :
    (FactStore.declaredTopic subject (facts ++ [fact])).value.values =
      (FactStore.declaredTopic subject facts).value.values := by
  rw [FactStore.declaredTopic_concat, h, insert_type, addType]
  split <;> rfl

/-- The values of a topic are what its facts say. -/
theorem exists_of_mem_values {value : Value}
    (h : value ∈ (FactStore.declaredTopic subject facts).value.values) :
    ∃ fact ∈ facts, fact.value = value := by
  induction facts using List.reverseRecOn with
  | nil => cases h
  | append_singleton facts fact ih =>
    -- a value from an earlier fact
    have hearlier : value ∈ (FactStore.declaredTopic subject facts).value.values →
        ∃ fact' ∈ facts ++ [fact], fact'.value = value := by
      intro hmem
      obtain ⟨fact', hfact', hvalue⟩ := ih hmem
      exact ⟨fact', List.mem_append_left _ hfact', hvalue⟩
    by_cases htype : fact.predicate = .known .type
    · exact hearlier (values_concat_type htype ▸ h)
    · rcases (files_concat htype).mem h with h | rfl
      · exact hearlier h
      · exact ⟨fact, List.mem_append_right _ (List.mem_singleton_self fact), rfl⟩

/-- The slot of each fact about a topic is filled. -/
theorem exists_sameSlot_of_mem {fact : Fact} (hfact : fact ∈ facts)
    (htype : fact.predicate ≠ .known .type) :
    ∃ value ∈ (FactStore.declaredTopic subject facts).value.values,
      value.sameSlot fact.value = true := by
  induction facts using List.reverseRecOn with
  | nil => cases hfact
  | append_singleton facts last ih =>
    rcases List.mem_append.mp hfact with hfact | hfact
    · -- an earlier fact: filing the last one leaves no slot empty
      obtain ⟨value, hvalue, hslot⟩ := ih hfact
      by_cases hlast : last.predicate = .known .type
      · exact ⟨value, (values_concat_type hlast).symm ▸ hvalue, hslot⟩
      · obtain ⟨kept, hkept, hkeptSlot⟩ := (files_concat hlast).exists_sameSlot hvalue
        exact ⟨kept, hkept, Value.sameSlot_trans hkeptSlot hslot⟩
    · -- the last fact, which is filed in its slot
      obtain rfl := List.mem_singleton.mp hfact
      exact (files_concat htype).exists_sameSlot_self

/-- A topic of one comment has the comment that its facts make. -/
theorem getLast?_comments_eq_some_iff {lang text : String}
    (hone : ∀ a ∈ facts, ∀ b ∈ facts, a.predicate = .known .comment →
      b.predicate = .known .comment → a.object = b.object) :
    ((FactStore.declaredTopic subject facts).value.comments lang).getLast? = some text ↔
      ∃ fact ∈ facts, fact.value.comment? lang = some text := by
  -- every comment comes from a fact
  have hfrom : ∀ text ∈ (FactStore.declaredTopic subject facts).value.comments lang,
      ∃ fact ∈ facts, fact.value.comment? lang = some text := by
    intro text htext
    obtain ⟨value, hvalue, hcomment⟩ := List.mem_filterMap.mp htext
    obtain ⟨fact, hfact, rfl⟩ := exists_of_mem_values hvalue
    exact ⟨fact, hfact, hcomment⟩
  -- all comments are the same value
  have hsame : ∀ a ∈ facts, ∀ b ∈ facts, a.predicate = .known .comment →
      b.predicate = .known .comment → a.value = b.value := by
    intro a ha b hb hcommentA hcommentB
    rw [Fact.value, Fact.value, hone a ha b hb hcommentA hcommentB, hcommentA, hcommentB]
  constructor
  · exact fun h => hfrom text (List.mem_of_getLast? h)
  · rintro ⟨fact, hfact, hcomment⟩
    have hpredicate : fact.predicate = .known .comment := Value.predicate_of_comment? hcomment
    obtain ⟨value, hvalue, hslot⟩ : ∃ value ∈ (FactStore.declaredTopic subject facts).value.values,
        value.sameSlot fact.value = true := exists_sameSlot_of_mem hfact (by simp [hpredicate])
    obtain ⟨other, hother, rfl⟩ := exists_of_mem_values hvalue
    have hpredicate' := (Value.predicate_of_sameSlot hslot).trans hpredicate
    rw [← hsame other hother fact hfact hpredicate' hpredicate] at hcomment
    have hmem : text ∈ (FactStore.declaredTopic subject facts).value.comments lang :=
      List.mem_filterMap.mpr ⟨_, hvalue, hcomment⟩
    -- there is a comment, so there is a last one, and it says the same
    obtain ⟨last, hlast⟩ := Option.isSome_iff_exists.mp
      (List.getLast?_isSome.mpr (List.ne_nil_of_mem hmem))
    obtain ⟨third, hthird, hlastComment⟩ := hfrom last (List.mem_of_getLast? hlast)
    have hthirdPredicate : third.predicate = .known .comment :=
      Value.predicate_of_comment? hlastComment
    rw [hsame third hthird other hother hthirdPredicate hpredicate', hcomment] at hlastComment
    rw [hlast, hlastComment]

end Topic

end OntoTypes
