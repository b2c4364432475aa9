import OntoTypes.Proofs.Passes

/-!
# What topics say

The passes read the values of a topic one at a time and change the registry as they go. This module
says what a topic amounts to as a whole: which nodes it refers to by which edges, which comment it
ends up with, which edits of its class it asks for. References are followed by a function `find`
from identifiers to classes, which stands for the index of a registry whose classes are all
declared.

Main results:

* `receive_eq_ok_iff`, `foldlM_receive_eq_ok_iff` — a class takes the values of its topic exactly if
  their references resolve and the edits they ask for go through;
* `attachPropertyOf_eq_ok_iff` — a property is attached exactly if its references resolve;
* `attachMemberOf_eq_ok_iff` — a member is attached exactly if its type tag resolves.
-/

namespace OntoTypes

namespace Value

variable {value : Value}

theorem reference?_eq_some_iff {word : Vocabulary} {node : Term} :
    value.reference? word = some node ↔
      value = ⟨.known word, node⟩ ∧ node.isLiteral = false := by
  cases value with
  | mk predicate object =>
    simp only [reference?, Option.ite_none_right_eq_some, Option.some.injEq, Bool.and_eq_true,
      decide_eq_true_eq, Bool.not_eq_true', mk.injEq]
    constructor
    · rintro ⟨⟨rfl, hl⟩, rfl⟩
      exact ⟨⟨rfl, rfl⟩, hl⟩
    · rintro ⟨⟨rfl, rfl⟩, hl⟩
      exact ⟨⟨rfl, hl⟩, rfl⟩

/-- A value is a reference of at most one kind. -/
theorem reference?_eq_none_of_predicate {word : Vocabulary}
    (h : value.predicate ≠ .known word) : value.reference? word = none := by
  simp [reference?, h]

/-- Only the values of one predicate are comments. -/
theorem comment?_eq_none_of_predicate {lang : String} (h : value.predicate ≠ .known .comment) :
    value.comment? lang = none := by
  simp [comment?, h]

/-- A comment is a value of that predicate. -/
theorem predicate_of_comment? {lang text : String} (h : value.comment? lang = some text) :
    value.predicate = .known .comment := by
  by_contra hp
  rw [comment?_eq_none_of_predicate hp] at h
  cases h

/-- A reference tells the predicate of its value. -/
theorem predicate_of_reference? {word : Vocabulary} {node : Term}
    (h : value.reference? word = some node) : value.predicate = .known word := by
  rw [(reference?_eq_some_iff.mp h).1]

/-- The class that a value refers to by an edge of the given kind. -/
def target? (find : String → Option ClassId) (word : Vocabulary) (value : Value) :
    Option ClassId :=
  (value.reference? word).bind fun node => find node.text

/-- References of the given kinds name classes. -/
def Resolves (find : String → Option ClassId) (words : List Vocabulary) (value : Value) : Prop :=
  ∀ word ∈ words, ∀ node, value.reference? word = some node → (find node.text).isSome

/-- The edits that a value of its topic asks of the class at `c`. A value asks for one at most. -/
def classEdits (lang : String) (find : String → Option ClassId) (c : ClassId) (value : Value) :
    List Edit :=
  (value.comment? lang).toList.map (.describe c) ++
    (value.target? find .subClassOf).toList.map (.link c) ++
    (value.target? find .supersededBy).toList.map (.supersede c)

end Value

namespace Topic

/-- The nodes that a topic refers to by edges of one kind, in the order of its values. -/
def references (word : Vocabulary) (topic : Topic) : List Term :=
  topic.values.filterMap (Value.reference? word)

/-- The classes that a topic refers to by edges of one kind. -/
def targets (find : String → Option ClassId) (word : Vocabulary) (topic : Topic) :
    List ClassId :=
  topic.values.filterMap (Value.target? find word)

/-- The comments of a topic in the preferred language or in none. -/
def comments (lang : String) (topic : Topic) : List String :=
  topic.values.filterMap (Value.comment? lang)

/-- The type tag by which a topic is a member of an enumeration. -/
def memberTag? (topic : Topic) : Option Term := topic.types.find? (!·.isMetaType)

/-- All references of the given kinds name classes. -/
def Resolves (find : String → Option ClassId) (words : List Vocabulary) (topic : Topic) : Prop :=
  ∀ value ∈ topic.values, value.Resolves find words

/-- A topic refers to a node by an edge exactly if it has the edge to it as a value, and the node is
no literal. -/
theorem mem_references {topic : Topic} {word : Vocabulary} {node : Term} :
    node ∈ topic.references word ↔
      ⟨.known word, node⟩ ∈ topic.values ∧ node.isLiteral = false := by
  simp only [references, List.mem_filterMap, Value.reference?_eq_some_iff]
  constructor
  · rintro ⟨value, hv, rfl, hl⟩
    exact ⟨hv, hl⟩
  · rintro ⟨hv, hl⟩
    exact ⟨_, hv, rfl, hl⟩

/-- The classes that a topic refers to are the classes of the nodes that it refers to. -/
theorem targets_eq (find : String → Option ClassId) (word : Vocabulary) (topic : Topic) :
    topic.targets find word = (topic.references word).filterMap fun node => find node.text := by
  rw [targets, references, List.filterMap_filterMap]
  rfl

/-- The references of a topic can be followed if every node that it refers to names a class. -/
theorem resolves_iff {find : String → Option ClassId} {words : List Vocabulary} {topic : Topic} :
    topic.Resolves find words ↔
      ∀ word ∈ words, ∀ node ∈ topic.references word, (find node.text).isSome := by
  simp only [Resolves, Value.Resolves, references, List.mem_filterMap]
  constructor
  · rintro h word hw node ⟨value, hv, hn⟩
    exact h value hv word hw node hn
  · intro h value hv word hw node hn
    exact h word hw node ⟨value, hv, hn⟩

/-- A topic is a member of an enumeration exactly if one of its tags says so. -/
theorem hasMemberType_iff {topic : Topic} :
    hasMemberType topic.types = true ↔ topic.memberTag?.isSome := by
  rw [memberTag?, List.find?_isSome, hasMemberType, List.any_eq_true]

/-- The edits that a topic asks of its class. -/
def classEdits (lang : String) (find : String → Option ClassId) (topic : Topic) : List Edit :=
  match find topic.subject.text with
  | none => []
  | some c => topic.values.flatMap (Value.classEdits lang find c)

/-- The property that a topic describes. -/
def propertyNode (lang : String) (find : String → Option ClassId) (topic : Topic) :
    PropertyNode :=
  { subject := topic.subject
    description := (topic.comments lang).getLast?
    range := topic.targets find .rangeIncludes
    owners := topic.targets find .domainIncludes
    supersededBy := topic.references .supersededBy }

/-- The member of an enumeration that a topic describes. -/
def memberNode (lang : String) (topic : Topic) : MemberNode :=
  ⟨topic.subject, (topic.comments lang).getLast?⟩

/-- The edits by which the property of a topic is attached to its owners. -/
def propertyEdits (find : String → Option ClassId) (id : PropertyId) (topic : Topic) :
    List Edit :=
  (topic.targets find .domainIncludes).map (.attachProperty id)

/-- The edit by which the member that a topic describes is attached to its class. -/
def memberEdits (lang : String) (find : String → Option ClassId) (topic : Topic) : List Edit :=
  ((topic.memberTag?.bind fun tag => find tag.text).map
    (.attachMember (topic.memberNode lang))).toList

end Topic

/-! ## What a class takes of its topic -/

namespace Registry

variable {settings : Settings} {registry registry' : Registry}

/-- What a label asks for is nothing. -/
private theorem classEdits_of_label {lang : String} {find : String → Option ClassId} {c : ClassId}
    {value : Value} (h : value.predicate = .known .label) :
    value.classEdits lang find c = [] := by
  simp [Value.classEdits, Value.target?, h, Value.comment?_eq_none_of_predicate,
    Value.reference?_eq_none_of_predicate]

/-- A class takes a value exactly if its references resolve and the edit it asks for goes
through. -/
theorem receive_eq_ok_iff (hf : registry.isFrozen = false) {c : ClassId} {value : Value} :
    receive settings c registry value = .ok registry' ↔
      value.Resolves registry.get? [.subClassOf, .supersededBy] ∧
        Edit.applyAll registry (value.classEdits settings.lang registry.get? c) =
          .ok registry' := by
  unfold receive claim
  rw [isFrozenClass_of_unfrozen hf]
  by_cases hl : value.predicate = .known .label
  · -- a label is passed over, and asks for nothing
    rw [classEdits_of_label hl, if_pos hl]
    simp [Value.Resolves, Value.reference?_eq_none_of_predicate, hl, Edit.applyAll, pure,
      Except.pure]
  rw [if_neg hl, if_neg Bool.false_ne_true]
  -- a value is of one predicate, so at most one of the questions put to it has an answer
  cases hc : value.comment? settings.lang with
  | some text =>
    -- a comment describes the class
    have hp := Value.predicate_of_comment? hc
    simp [Value.Resolves, Value.classEdits, Value.target?, hc, hp,
      Value.reference?_eq_none_of_predicate, Edit.applyAll_singleton, Edit.apply]
  | none =>
    -- a parent is looked up and linked
    cases hs : value.reference? .subClassOf with
    | some node =>
      have hp := Value.predicate_of_reference? hs
      have hn : value.reference? .supersededBy = none := by
        simp [Value.reference?_eq_none_of_predicate, hp]
      cases hg : registry.get? node.text <;>
        simp [Value.Resolves, Value.classEdits, Value.target?, hc, hs, hn, hg, resolve,
          Edit.applyAll_singleton, Edit.apply, Except.bind]
    | none =>
      -- a replacement is looked up and noted
      cases hb : value.reference? .supersededBy with
      | some node =>
        cases hg : registry.get? node.text <;>
          simp [Value.Resolves, Value.classEdits, Value.target?, hc, hs, hb, hg, resolve,
            Edit.applyAll_singleton, Edit.apply, Except.bind]
      | none =>
        simp [Value.Resolves, Value.classEdits, Value.target?, hc, hs, hb, Edit.applyAll, pure,
          Except.pure]

/-- A class takes the values of its topic exactly if their references resolve and the edits they ask
for go through. -/
theorem foldlM_receive_eq_ok_iff (hf : registry.isFrozen = false) {c : ClassId}
    {values : List Value} :
    values.foldlM (receive settings c) registry = .ok registry' ↔
      (∀ value ∈ values, value.Resolves registry.get? [.subClassOf, .supersededBy]) ∧
        Edit.applyAll registry (values.flatMap (Value.classEdits settings.lang registry.get? c)) =
          .ok registry' := by
  -- edits change neither what references lead to nor what is frozen
  exact Edit.foldlM_eq_ok_iff (fun r => r.isFrozen = false ∧ r.get? = registry.get?) _ _
    (fun _ h => h.1) (fun _ _ h => by simpa using h)
    (fun _ _ r _ h => by rw [receive_eq_ok_iff h.1, h.2]) ⟨hf, rfl⟩

end Registry

/-! ## What a property takes of its topic -/

namespace PropertyDraft

variable {settings : Settings} {registry : Registry} {subject : String}

/-- What has been read after some more values. -/
structure Gathers (lang : String) (find : String → Option ClassId) (values : List Value)
    (draft next : PropertyDraft) : Prop where
  property : next.property =
    { draft.property with
      description := (values.filterMap (Value.comment? lang)).getLast?.or draft.property.description
      range := draft.property.range ++ values.filterMap (Value.target? find .rangeIncludes)
      supersededBy :=
        draft.property.supersededBy ++ values.filterMap (Value.reference? .supersededBy) }
  domains : next.domains = draft.domains ++ values.filterMap (Value.target? find .domainIncludes)

/-- What is gathered from values and from later values is gathered from all of them. -/
theorem Gathers.append {lang : String} {find : String → Option ClassId} {values later : List Value}
    {draft next last : PropertyDraft} (h : Gathers lang find values draft next)
    (h' : Gathers lang find later next last) : Gathers lang find (values ++ later) draft last where
  property := by
    rw [h'.property, h.property]
    simp [List.getLast?_append, Option.or_assoc]
  domains := by rw [h'.domains, h.domains, List.filterMap_append, List.append_assoc]

/-- Messages do not fail. -/
@[simp] theorem outcome_note (level : Level) (text : String) :
    (Attempt.note level text).outcome = .ok () := rfl

/-- A value is read exactly if its references resolve. -/
theorem outcome_readValue {draft : PropertyDraft} {value : Value} :
    (∀ next, (readValue settings registry subject draft value).outcome = .ok next →
      value.Resolves registry.get? [.rangeIncludes, .domainIncludes] ∧
        Gathers settings.lang registry.get? [value] draft next) ∧
    (value.Resolves registry.get? [.rangeIncludes, .domainIncludes] →
      ∃ next, (readValue settings registry subject draft value).outcome = .ok next) := by
  unfold readValue
  by_cases hl : value.predicate = .known .label
  · -- a label adds to nothing
    have hg : Gathers settings.lang registry.get? [value] draft draft := by
      constructor <;> simp [Value.target?, hl, Value.comment?_eq_none_of_predicate,
        Value.reference?_eq_none_of_predicate]
    simpa [hl, Value.Resolves, Value.reference?_eq_none_of_predicate] using hg
  simp only [if_neg hl]
  -- each kind of value is added to a list of its own, and the other lists stay
  cases hc : value.comment? settings.lang with
  | some text =>
    have hp := Value.predicate_of_comment? hc
    have hg : Gathers settings.lang registry.get? [value] draft
        { draft with property := { draft.property with description := some text } } := by
      constructor <;> simp [Value.target?, hp, hc, Value.reference?_eq_none_of_predicate]
    -- a second comment is reported, and takes the place of the first one all the same
    by_cases hd : draft.property.description.isSome = true <;>
      simpa [hd, hp, Value.Resolves, Value.reference?_eq_none_of_predicate, Attempt.outcome_bind,
        Except.bind] using hg
  | none =>
    cases hr : value.reference? .rangeIncludes with
    | some node =>
      have hp := Value.predicate_of_reference? hr
      cases hf : registry.get? node.text with
      -- a class of the range that is not there refuses the value
      | none => simp [Value.Resolves, hr, hf, Registry.resolve, Attempt.outcome_bind, Except.bind]
      | some c =>
        have hg : Gathers settings.lang registry.get? [value] draft
            { draft with property :=
              { draft.property with range := draft.property.range ++ [c] } } := by
          constructor <;>
            simp [Value.target?, hp, hc, hr, hf, Value.reference?_eq_none_of_predicate]
        simpa [Value.Resolves, hr, hf, hp, Registry.resolve, Attempt.outcome_bind, Except.bind,
          Value.reference?_eq_none_of_predicate] using hg
    | none =>
      cases hd : value.reference? .domainIncludes with
      | some node =>
        have hp := Value.predicate_of_reference? hd
        cases hf : registry.get? node.text with
        | none =>
          simp [Value.Resolves, hr, hd, hf, Registry.resolve, Attempt.outcome_bind, Except.bind]
        | some c =>
          have hg : Gathers settings.lang registry.get? [value] draft
              { draft with domains := draft.domains ++ [c] } := by
            constructor <;>
              simp [Value.target?, hp, hc, hr, hd, hf, Value.reference?_eq_none_of_predicate]
          simpa [Value.Resolves, hr, hd, hf, Registry.resolve, Attempt.outcome_bind,
            Except.bind] using hg
      | none =>
        cases hs : value.reference? .supersededBy with
        | some node =>
          have hg : Gathers settings.lang registry.get? [value] draft
              { draft with property :=
                { draft.property with
                  supersededBy := draft.property.supersededBy ++ [node] } } := by
            constructor <;> simp [Value.target?, hc, hr, hd, hs]
          simpa [Value.Resolves, hr, hd] using hg
        | none =>
          have hg : Gathers settings.lang registry.get? [value] draft
              { draft with unused := draft.unused ++ [value] } := by
            constructor <;> simp [Value.target?, hc, hr, hd, hs]
          simpa [Value.Resolves, hr, hd] using hg

/-- The values of a topic are read exactly if their references resolve. -/
theorem outcome_foldlM_readValue (values : List Value) (draft : PropertyDraft) :
    (∀ next, (values.foldlM (readValue settings registry subject) draft).outcome = .ok next →
      (∀ value ∈ values, value.Resolves registry.get? [.rangeIncludes, .domainIncludes]) ∧
        Gathers settings.lang registry.get? values draft next) ∧
    ((∀ value ∈ values, value.Resolves registry.get? [.rangeIncludes, .domainIncludes]) →
      ∃ next, (values.foldlM (readValue settings registry subject) draft).outcome = .ok next) := by
  induction values generalizing draft with
  | nil =>
    have hg : Gathers settings.lang registry.get? [] draft draft := by constructor <;> simp
    simpa using hg
  | cons value values ih =>
    simp only [List.foldlM_cons, Attempt.outcome_bind, bind_eq_ok_iff]
    -- what the first value adds and what the others add is added together
    constructor
    · rintro last ⟨next, hnext, hlast⟩
      obtain ⟨hres, hg⟩ := outcome_readValue.1 next hnext
      obtain ⟨hall, hg'⟩ := (ih next).1 last hlast
      exact ⟨List.forall_mem_cons.mpr ⟨hres, hall⟩, hg.append hg'⟩
    · intro hall
      obtain ⟨hres, hrest⟩ := List.forall_mem_cons.mp hall
      obtain ⟨next, hnext⟩ := outcome_readValue.2 hres
      obtain ⟨last, hlast⟩ := (ih next).2 hrest
      exact ⟨last, next, hnext, hlast⟩

end PropertyDraft

namespace Registry

variable {settings : Settings} {registry registry' : Registry}

/-- A new property is attached to all of its owners. -/
theorem addProperty_eq_ok (hf : registry.isFrozen = false) (property : PropertyNode)
    (owners : List ClassId) :
    registry.addProperty property owners =
      .ok ((Edit.performAll registry
        (owners.map (.attachProperty registry.properties.size))).pushProperty property) := by
  have hattach : ∀ r : Registry, r.isFrozen = false →
      owners.foldlM (fun r owner => attachProperty r registry.properties.size owner) r =
        .ok (Edit.performAll r (owners.map (.attachProperty registry.properties.size))) := by
    induction owners with
    | nil => exact fun r _ => rfl
    | cons owner owners ih =>
      intro r hr
      -- nothing is frozen, so no owner refuses the property
      have happly := (Edit.apply_eq_ok_iff_of_unfrozen hr
        (.attachProperty registry.properties.size owner)).mpr ⟨trivial, rfl⟩
      rw [List.foldlM_cons, show attachProperty r registry.properties.size owner = _ from happly]
      exact ih _ (by rw [Edit.isFrozen_perform, hr])
  rw [addProperty, hattach registry hf]
  rfl

/-- The property of a topic is attached exactly if its references resolve. -/
theorem attachPropertyOf_eq_ok_iff (hf : registry.isFrozen = false) {topic : Topic} :
    registry.attachPropertyOf settings topic = .ok registry' ↔
      topic.Resolves registry.get? [.rangeIncludes, .domainIncludes] ∧
        registry' = (Edit.performAll registry
          (topic.propertyEdits registry.get? registry.properties.size)).pushProperty
            (topic.propertyNode settings.lang registry.get?) := by
  have hread := @PropertyDraft.outcome_foldlM_readValue settings registry
    topic.subject.text topic.values { property := { subject := topic.subject } }
  -- whatever draft is read, it is the one that the values gather
  have hdraft : ∀ draft, (PropertyDraft.ofTopic settings registry topic).outcome = .ok draft →
      registry.addProperty { draft.property with owners := draft.domains } draft.domains =
        .ok ((Edit.performAll registry
          (topic.propertyEdits registry.get? registry.properties.size)).pushProperty
            (topic.propertyNode settings.lang registry.get?)) := by
    intro draft h
    obtain ⟨-, hproperty, hdomains⟩ := hread.1 draft h
    rw [addProperty_eq_ok hf, hproperty, hdomains]
    simp [Topic.propertyEdits, Topic.propertyNode, Topic.targets, Topic.comments, Topic.references]
  rw [attachPropertyOf, bind_eq_ok_iff]
  constructor
  · rintro ⟨draft, h, hadd⟩
    rw [hdraft draft h] at hadd
    exact ⟨(hread.1 draft h).1, (Except.ok.inj hadd).symm⟩
  · rintro ⟨hres, rfl⟩
    obtain ⟨draft, h⟩ := hread.2 hres
    exact ⟨draft, h, hdraft draft h⟩

end Registry

/-! ## What a member takes of its topic -/

/-- The comment of a member is the last one in the preferred language or in none. -/
theorem MemberDraft.comment_ofTopic (settings : Settings) (topic : Topic) :
    (MemberDraft.ofTopic settings topic).value.comment =
      (topic.comments settings.lang).getLast? := by
  have hread : ∀ (values : List Value) (draft : MemberDraft),
      (values.foldl (fun draft value =>
          (readValue settings topic.subject.text draft value).value) draft).comment =
        (values.filterMap (Value.comment? settings.lang)).getLast?.or draft.comment := by
    intro values
    induction values with
    | nil => simp
    | cons value values ih =>
      intro draft
      rw [List.foldl_cons, ih, List.filterMap_cons, readValue]
      -- a label is no comment, and any later comment takes the place of an earlier one
      by_cases hl : value.predicate = .known .label
      · simp [hl, Value.comment?_eq_none_of_predicate]
      rw [if_neg hl]
      cases hc : value.comment? settings.lang with
      | none => simp
      | some text =>
        cases hlast : (values.filterMap (Value.comment? settings.lang)).getLast? <;>
          simp [List.getLast?_cons, hlast]
  rw [ofTopic, Logged.value_foldlM, hread, Option.or_none, Topic.comments]

namespace Registry

variable {settings : Settings} {registry registry' : Registry}

/-- The member that a topic describes is attached exactly if its type tag resolves. -/
theorem attachMemberOf_eq_ok_iff (hf : registry.isFrozen = false) {topic : Topic} :
    registry.attachMemberOf settings topic = .ok registry' ↔
      (∀ tag, topic.memberTag? = some tag → (registry.get? tag.text).isSome) ∧
        registry' = Edit.performAll registry
          (topic.memberEdits settings.lang registry.get?) := by
  unfold attachMemberOf Topic.memberEdits Topic.memberTag?
  rw [MemberDraft.comment_ofTopic]
  cases topic.types.find? (!·.isMetaType) with
  -- a topic without a type tag describes no member
  | none => simpa [Edit.performAll] using eq_comm
  | some tag =>
    let edit (c : ClassId) : Edit := .attachMember (topic.memberNode settings.lang) c
    have happly : ∀ c, (edit c).apply registry = .ok registry' ↔ _ :=
      fun c => Edit.apply_eq_ok_iff_of_unfrozen hf (edit c)
    cases hg : registry.get? tag.text with
    -- its class is not there
    | none => simp [resolve, hg, Except.bind]
    | some c =>
      simpa [edit, resolve, hg, Except.bind, Edit.performAll, Edit.Allowed, Edit.apply,
        Topic.memberNode] using happly c

end Registry

end OntoTypes
