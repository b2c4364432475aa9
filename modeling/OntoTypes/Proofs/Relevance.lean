import OntoTypes.Proofs.Assembly

/-!
# Values that decide nothing

Of the values of a topic some decide nothing, wherever they stand and whatever becomes of the run:
labels, comments in other languages, literals in place of references, predicates that no pass knows.
A value like that may be reported, and what is reported depends on the settings too, but neither a
registry nor an error does.

The passes do not all have a use for the same values. It is enough that a value which no pass has a
use for is skipped by each of them: a class leaves the registry as it is, as long as nothing is
frozen yet, a property adds the value to those that are left over, and a member looks at comments
only. Everything else is read in the same order as before, so the first error is the same one.

Main definitions and results:

* `Value.isClaimed`, `Topic.claimed` — the values that some pass has a use for;
* `foldlM_congr` — two folds that take the same steps from where they can get to;
* `ofTopics_map_claimed` — the hierarchy, or the error, depends on claimed values alone;
* `outcome_generate_eq_of_claimed` — and so does the module, whether or not anything is reported.
-/

namespace OntoTypes

namespace Value

/-- A value that some pass has a use for: a comment in the preferred language or in none, or a
reference to a node by an edge between classes or between a property and a class. -/
def isClaimed (lang : String) : Value → Bool
  | ⟨.known .comment, .literal text⟩ => text.language.all (· = lang)
  | ⟨.known .subClassOf, object⟩ | ⟨.known .supersededBy, object⟩
  | ⟨.known .domainIncludes, object⟩ | ⟨.known .rangeIncludes, object⟩ => !object.isLiteral
  | _ => false

variable {lang : String} {value : Value}

/-- No comment is read from a value that no pass has a use for. -/
theorem comment?_of_not_isClaimed (h : value.isClaimed lang = false) :
    value.comment? lang = none := by
  obtain ⟨predicate, object⟩ := value
  by_cases hpredicate : predicate = .known .comment
  · subst hpredicate
    cases object with
    | literal text =>
      -- a comment that is a text is claimed unless it is in another language
      have hlang : text.language.all (· = lang) = false := h
      simp [comment?, hlang]
    | iri | blank => simp [comment?]
  · exact comment?_eq_none_of_predicate hpredicate

/-- The edges that some pass follows or records. -/
def edges : List Vocabulary := [.subClassOf, .supersededBy, .domainIncludes, .rangeIncludes]

/-- Nor is a reference. -/
theorem reference?_of_not_isClaimed (h : value.isClaimed lang = false) {word : Vocabulary}
    (hword : word ∈ edges) : value.reference? word = none := by
  cases hreference : value.reference? word with
  | none => rfl
  | some node =>
    obtain ⟨rfl, hnode⟩ := reference?_eq_some_iff.mp hreference
    -- a reference by one of these edges is claimed
    have hclaimed : isClaimed lang ⟨.known word, node⟩ = true := by
      simp only [edges, List.mem_cons, List.not_mem_nil, or_false] at hword
      rcases hword with rfl | rfl | rfl | rfl <;> simp [isClaimed, hnode]
    rw [h] at hclaimed
    cases hclaimed

end Value

namespace Topic

/-- A topic with nothing but the values that some pass has a use for. -/
def claimed (lang : String) (topic : Topic) : Topic :=
  { topic with values := topic.values.filter (Value.isClaimed lang) }

/-- Comments are all kept. -/
theorem comments_claimed (lang : String) (topic : Topic) :
    (topic.claimed lang).comments lang = topic.comments lang := by
  rw [comments, claimed, comments, List.filterMap_filter]
  refine List.filterMap_congr fun value _ => ?_
  split
  · rfl
  · rename_i h
    rw [Value.comment?_of_not_isClaimed (Bool.eq_false_iff.mpr h)]

end Topic

/-! ## Folds that may fail -/

/-- Two folds are the same if they take the same steps from wherever the first one can get to. -/
theorem foldlM_congr {f g : σ → α → Except ε σ} (holds : σ → Prop) {items : List α} {start : σ}
    (hstart : holds start) (hstep : ∀ s, holds s → ∀ a ∈ items, f s a = g s a)
    (hkeep : ∀ s, holds s → ∀ a ∈ items, ∀ next, f s a = .ok next → holds next) :
    items.foldlM f start = items.foldlM g start := by
  induction items generalizing start with
  | nil => rfl
  | cons a items ih =>
    rw [List.foldlM_cons, List.foldlM_cons, ← hstep start hstart a List.mem_cons_self]
    -- both take the first step, and go on from where it leads
    cases hfirst : f start a with
    | error e => rfl
    | ok next =>
      exact ih (hkeep start hstart a List.mem_cons_self next hfirst)
        (fun s hs b hb => hstep s hs b (List.mem_cons_of_mem _ hb))
        fun s hs b hb => hkeep s hs b (List.mem_cons_of_mem _ hb)

/-- Computations that agree in what the next one looks at can be exchanged for one another. It is
used where drafts differ in what has been left over, which is reported and not read again. -/
theorem bind_congr_of_map {x y : Except ε α} {f g : α → Except ε β} (seen : α → γ)
    (h : x.map seen = y.map seen) (hfg : ∀ a b, seen a = seen b → f a = g b) :
    x.bind f = y.bind g := by
  cases x with
  | error e =>
    cases y with
    | error e' => exact congrArg Except.error (Except.error.inj h)
    | ok b => cases h
  | ok a =>
    cases y with
    | error e' => cases h
    | ok b => exact hfg a b (Except.ok.inj h)

/-! ## What a class skips -/

namespace Registry

variable {settings : Settings} {registry registry' : Registry}

/-- A class that may be changed has no use for a value that no pass has a use for. -/
theorem receive_of_not_isClaimed (hf : registry.isFrozen = false) (c : ClassId) {value : Value}
    (h : value.isClaimed settings.lang = false) :
    receive settings c registry value = .ok registry := by
  rw [receive, claim, isFrozenClass_of_unfrozen hf, Value.comment?_of_not_isClaimed h,
    Value.reference?_of_not_isClaimed h (by decide),
    Value.reference?_of_not_isClaimed h (by decide)]
  exact ite_self _

/-- Following references freezes nothing. -/
theorem isFrozen_of_receive (hf : registry.isFrozen = false) {c : ClassId} {value : Value}
    (h : receive settings c registry value = .ok registry') : registry'.isFrozen = false := by
  obtain ⟨-, happly⟩ := (receive_eq_ok_iff hf).mp h
  rw [Edit.eq_performAll_of_applyAll hf happly, Edit.isFrozen_performAll, hf]

/-- A class can be given the claimed values alone, as long as the registry is open. -/
theorem foldlM_receive_filter (hf : registry.isFrozen = false) (c : ClassId)
    (values : List Value) :
    (values.filter (Value.isClaimed settings.lang)).foldlM (receive settings c) registry =
      values.foldlM (receive settings c) registry := by
  rw [List.foldlM_filter]
  refine (foldlM_congr (fun r => r.isFrozen = false) hf ?_ ?_).symm
  · -- a value that is left out would have been skipped
    intro r hr value _
    split
    · rfl
    · rename_i h
      exact receive_of_not_isClaimed hr c (Bool.eq_false_iff.mpr h)
  · intro r hr value _ next hnext
    exact isFrozen_of_receive hr hnext

/-- So a topic completes its class by its claimed values alone. -/
theorem completeTopic_claimed (hf : registry.isFrozen = false) (topic : Topic) :
    registry.completeTopic settings (topic.claimed settings.lang) =
      registry.completeTopic settings topic := by
  unfold completeTopic
  rw [Topic.claimed]
  simp only [foldlM_receive_filter hf]

/-- Completing a class leaves the registry open. -/
theorem isFrozen_of_completeTopic (hf : registry.isFrozen = false) {topic : Topic}
    (h : registry.completeTopic settings topic = .ok registry') : registry'.isFrozen = false := by
  unfold completeTopic at h
  split at h
  · exact Except.ok.inj h ▸ hf
  · split at h
    · exact Except.ok.inj h ▸ hf
    · obtain ⟨-, happly⟩ := (foldlM_receive_eq_ok_iff hf).mp h
      rw [Edit.eq_performAll_of_applyAll hf happly, Edit.isFrozen_performAll, hf]

end Registry

/-! ## What a property leaves over -/

namespace PropertyDraft

variable {settings : Settings} {registry : Registry} {subject : String}

/-- What is made of a draft: all of it but the values that are left over. -/
def gathered (draft : PropertyDraft) : PropertyNode × List ClassId :=
  (draft.property, draft.domains)

/-- Values that are left over do not decide what is read next. -/
theorem gathered_readValue {draft draft' : PropertyDraft} (h : draft.gathered = draft'.gathered)
    (value : Value) :
    (readValue settings registry subject draft value).outcome.map gathered =
      (readValue settings registry subject draft' value).outcome.map gathered := by
  obtain ⟨property, domains, unused⟩ := draft
  obtain ⟨property', domains', unused'⟩ := draft'
  obtain ⟨rfl, rfl⟩ := Prod.mk.inj h
  -- the cases are those of the reading, and none of them looks at what is left over
  unfold readValue
  dsimp only
  split
  · rfl
  cases value.comment? settings.lang with
  | some text => cases property.description.isSome <;> rfl
  | none =>
    dsimp only
    cases value.reference? .rangeIncludes with
    | some node =>
      dsimp only
      cases registry.resolve node.text subject "range class" <;> rfl
    | none =>
      dsimp only
      cases value.reference? .domainIncludes with
      | some node =>
        dsimp only
        cases registry.resolve node.text subject "domain class" <;> rfl
      | none => cases value.reference? .supersededBy <;> rfl

/-- A value that no pass has a use for is left over. -/
theorem gathered_readValue_of_not_isClaimed {value : Value}
    (h : value.isClaimed settings.lang = false) (draft : PropertyDraft) :
    (readValue settings registry subject draft value).outcome.map gathered =
      .ok draft.gathered := by
  unfold readValue
  rw [Value.comment?_of_not_isClaimed h, Value.reference?_of_not_isClaimed h (by decide),
    Value.reference?_of_not_isClaimed h (by decide),
    Value.reference?_of_not_isClaimed h (by decide)]
  split <;> rfl

/-- What is gathered from all values is gathered from those that are claimed. -/
theorem gathered_foldlM_readValue (values : List Value) {draft draft' : PropertyDraft}
    (h : draft.gathered = draft'.gathered) :
    ((values.filter (Value.isClaimed settings.lang)).foldlM (readValue settings registry subject)
        draft).outcome.map gathered =
      (values.foldlM (readValue settings registry subject) draft').outcome.map gathered := by
  -- over the values, for any two drafts: the sides read on from drafts that may differ
  induction values generalizing draft draft' with
  | nil => exact congrArg Except.ok h
  | cons value values ih =>
    have hmap : ∀ (x : Except Error PropertyDraft) (f : PropertyDraft → Except Error PropertyDraft),
        (x.bind f).map gathered = x.bind fun next => (f next).map gathered := by
      intro x f
      cases x <;> rfl
    cases hvalue : value.isClaimed settings.lang with
    | true =>
      rw [List.filter_cons_of_pos hvalue, List.foldlM_cons, List.foldlM_cons,
        Attempt.outcome_bind, Attempt.outcome_bind, hmap, hmap]
      exact bind_congr_of_map gathered (gathered_readValue h value) fun _ _ hnext => ih hnext
    | false =>
      -- the value is read on one side only, and what is gathered there stays the same
      rw [List.filter_cons_of_neg (Bool.eq_false_iff.mp hvalue), List.foldlM_cons,
        Attempt.outcome_bind, hmap]
      have hskip : (Except.ok draft : Except Error PropertyDraft).map gathered =
          (readValue settings registry subject draft' value).outcome.map gathered := by
        rw [gathered_readValue_of_not_isClaimed hvalue, ← h]
        rfl
      change (Except.ok draft).bind (fun next =>
        ((values.filter (Value.isClaimed settings.lang)).foldlM
          (readValue settings registry subject) next).outcome.map gathered) = _
      exact bind_congr_of_map gathered hskip fun _ _ hnext => ih hnext

end PropertyDraft

namespace Registry

variable {settings : Settings}

/-- So a property is attached alike. -/
theorem attachPropertyOf_claimed (registry : Registry) (topic : Topic) :
    registry.attachPropertyOf settings (topic.claimed settings.lang) =
      registry.attachPropertyOf settings topic := by
  unfold attachPropertyOf
  -- what is attached is decided by what has been gathered
  have hread : (PropertyDraft.ofTopic settings registry
      (topic.claimed settings.lang)).outcome.map PropertyDraft.gathered =
        (PropertyDraft.ofTopic settings registry topic).outcome.map PropertyDraft.gathered :=
    PropertyDraft.gathered_foldlM_readValue topic.values rfl
  refine bind_congr_of_map PropertyDraft.gathered hread ?_
  intro draft draft' h
  obtain ⟨hproperty, hdomains⟩ := Prod.mk.inj h
  rw [hproperty, hdomains]

/-! ## All passes -/

/-- A member is attached alike, too. -/
theorem attachMemberOf_claimed (registry : Registry) (topic : Topic) :
    registry.attachMemberOf settings (topic.claimed settings.lang) =
      registry.attachMemberOf settings topic := by
  unfold attachMemberOf
  rw [MemberDraft.comment_ofTopic, MemberDraft.comment_ofTopic, Topic.comments_claimed]
  rfl

/-- The kind of a topic does not depend on its values. -/
theorem filter_map_claimed (lang : String) {kind : Topic → Bool}
    (hkind : ∀ topic : Topic, kind (topic.claimed lang) = kind topic) (topics : List Topic) :
    (topics.map (Topic.claimed lang)).filter kind =
      (topics.filter kind).map (Topic.claimed lang) := by
  rw [List.filter_map]
  exact congrArg (List.map _) (List.filter_congr fun topic _ => hkind topic)

/-- Once classes are declared they are completed alike. -/
theorem buildClasses_claimed (topics : List Topic) :
    buildClasses settings (topics.map (Topic.claimed settings.lang))
        (seeded settings.namespaceIri) =
      buildClasses settings topics (seeded settings.namespaceIri) := by
  unfold buildClasses
  dsimp only
  rw [filter_map_claimed settings.lang (fun _ => rfl), List.isEmpty_map, List.foldlM_map]
  split
  · rfl
  -- a frozen registry would refuse what an open one skips, so the folds are compared while open
  have hkeeps := keepsBuiltins_seeded settings.namespaceIri
  have hunfrozen := (registers_seeded settings.namespaceIri).unfrozen
  -- classes are declared without a look at the values, and the registry stays open
  have hdeclare : ∀ registry, (topics.filter Topic.isClass).foldlM declareTopic
      (seeded settings.namespaceIri) = .ok registry → registry.isFrozen = false := by
    intro registry hdeclared
    obtain ⟨-, rfl⟩ := (foldlM_declareTopic_eq_ok_iff hkeeps hunfrozen).mp hdeclared
    rw [registerAll_seeded]
    exact (registers_declared settings.namespaceIri topics).unfrozen
  change ((topics.filter Topic.isClass).foldlM declareTopic _).bind _ = _
  cases hdeclared : (topics.filter Topic.isClass).foldlM declareTopic
      (seeded settings.namespaceIri) with
  | error e => rfl
  | ok registry =>
    change ((topics.filter Topic.isClass).map _).foldlM _ registry = _
    rw [List.foldlM_map]
    refine foldlM_congr (fun r => r.isFrozen = false) (hdeclare registry hdeclared) ?_ ?_
    · exact fun r hr topic _ => completeTopic_claimed hr topic
    · intro r hr topic _ next hnext
      rw [completeTopic_claimed hr] at hnext
      exact isFrozen_of_completeTopic hr hnext

/-- **The hierarchy of some topics depends on the claimed values alone**, and so does the error if
there is none. -/
theorem ofTopics_map_claimed (settings : Settings) (topics : List Topic) :
    ofTopics settings (topics.map (Topic.claimed settings.lang)) = ofTopics settings topics := by
  -- the other two passes go topic by topic, and each topic is attached alike
  have hproperties : attachProperties settings (topics.map (Topic.claimed settings.lang)) =
      attachProperties settings topics := by
    funext registry
    rw [attachProperties, filter_map_claimed settings.lang (fun _ => rfl), List.foldlM_map]
    simp only [attachPropertyOf_claimed]
    rfl
  have hmembers : attachMembers settings (topics.map (Topic.claimed settings.lang)) =
      attachMembers settings topics := by
    funext registry
    rw [attachMembers, filter_map_claimed settings.lang (fun _ => rfl), List.foldlM_map]
    simp only [attachMemberOf_claimed]
    rfl
  unfold ofTopics
  rw [hproperties, hmembers, seed_empty]
  change (buildClasses settings _ _).bind _ = (buildClasses settings _ _).bind _
  rw [buildClasses_claimed]

end Registry

/-! ## The module of some topics -/

/-- What is reported does not decide which hierarchy comes about. -/
theorem ofTopics_verbose (settings : Settings) (verbose : Bool) (topics : List Topic) :
    Registry.ofTopics { settings with verbose := verbose } topics =
      Registry.ofTopics settings topics := by
  rfl

/-- Nor which module is synthesized from it. -/
theorem synthesize_verbose (registry : Registry) (settings : Settings) (verbose : Bool) :
    registry.synthesize { settings with verbose := verbose } = registry.synthesize settings := by
  rfl

/-- A module is synthesized from the hierarchy, if there is one. -/
theorem outcome_generate (settings : Settings) (topics : List Topic) :
    (generate settings topics).outcome =
      (Registry.ofTopics settings topics).bind fun registry =>
        (registry.synthesize settings).map fun groups =>
          ⟨groups, Statistics.ofRegistry registry⟩ := by
  -- the last step cannot fail
  have hmap : ∀ (x : Except Error (List (List Declaration))) (s : Statistics),
      (x.bind fun groups => .ok ⟨groups, s⟩ : Except Error Generation) =
        x.map fun groups => ⟨groups, s⟩ := by
    intro x s
    cases x <;> rfl
  simp only [generate, Attempt.outcome_bind, Attempt.outcome_ofExcept, Attempt.outcome_pure,
    outcome_registryOf, hmap]

/-- **Values that no pass has a use for decide nothing**, and neither does the wish for reports:
topics that differ in nothing else have the same module, with the same statistics, or fail with the
same error.

Topics are compared by `Topic.claimed`, which leaves of a topic only what some pass may use. Of the
run only the outcome is kept, since the reports about unused values do differ. -/
theorem outcome_generate_eq_of_claimed (settings : Settings) (verbose : Bool)
    {topics topics' : List Topic}
    (h : topics.map (Topic.claimed settings.lang) = topics'.map (Topic.claimed settings.lang)) :
    (generate settings topics).outcome =
      (generate { settings with verbose := verbose } topics').outcome := by
  have hregistry : Registry.ofTopics settings topics = Registry.ofTopics settings topics' := by
    rw [← Registry.ofTopics_map_claimed, h, Registry.ofTopics_map_claimed]
  simp only [outcome_generate, hregistry, ofTopics_verbose, synthesize_verbose]

/-- A class, a property and a member, with values that nothing has a use for here and there: a
label, comments in another language, a literal in place of a parent, an unknown predicate. -/
def cluttered : List Topic := [
  { subject := .iri "http://schema.org/Thing", types := [.iri classType],
    values := [⟨.known .label, .literal { lexical := "Thing" }⟩,
      ⟨.known .comment, .literal { lexical := "Ein Ding.", language := some "de" }⟩,
      ⟨.known .comment, .literal { lexical := "A thing.", language := some "en" }⟩,
      ⟨.known .subClassOf, .literal { lexical := "nothing" }⟩,
      ⟨.known .subClassOf, .iri "http://schema.org/Entity"⟩] },
  { subject := .iri "http://schema.org/name", types := [.iri propertyType],
    values := [⟨.other "http://schema.org/isPartOf", .iri "http://schema.org/Nowhere"⟩,
      ⟨.known .domainIncludes, .iri "http://schema.org/Thing"⟩] },
  { subject := .iri "http://schema.org/North", types := [.iri "http://schema.org/Thing"],
    values := [⟨.known .source, .iri "http://schema.org/Compass"⟩,
      ⟨.known .comment, .iri "http://schema.org/Compass"⟩] }]

/-- Whatever nothing has a use for can be left out, and reports asked for, though not everything is
in order: the parent of the class is not declared, which ends both runs with the same error. -/
theorem outcome_generate_eq_of_claimed_cluttered :
    let clean := cluttered.map (Topic.claimed "en")
    let error := Error.unresolvedReference "http://schema.org/Thing" "http://schema.org/Entity"
      "parent"
    clean.map (·.values.length) = [2, 1, 0] ∧
      cluttered.map (Topic.claimed "en") = clean.map (Topic.claimed "en") ∧
      (generate {} cluttered).outcome = (generate { verbose := true } clean).outcome ∧
      (generate {} cluttered).outcome = .error error := by
  intro clean error
  have hclaimed : cluttered.map (Topic.claimed "en") = clean.map (Topic.claimed "en") := by decide
  have herror : Registry.ofTopics {} cluttered = .error error := rfl
  refine ⟨by decide, hclaimed, outcome_generate_eq_of_claimed {} true hclaimed, ?_⟩
  rw [outcome_generate, herror]
  rfl

end OntoTypes
