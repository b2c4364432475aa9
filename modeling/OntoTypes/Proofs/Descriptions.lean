import OntoTypes.Proofs.ClassGraph
import OntoTypes.Proofs.Linked
import OntoTypes.Proofs.Retention

/-!
# Which comment is recorded

Two rules decide between the comments on a subject. The store keeps the last comment in each
language, in the place where the first one in that language stood; a comment that is no text counts
as one in no language. The passes then take the last of what is kept and is text, in the preferred
language or in none. Neither rule is "the last comment wins", and taken together they are not
either: of the two languages that come into question the one that was used second has precedence,
whatever was said last, and a comment in no language can be lost to one that is no text.

So this is what is recorded, of classes, properties and members alike; and where comments are texts
in one language it is the last of them.

Main definitions and results:

* `recordedComment`, `lastComment` — the comment that is recorded, and the one that was made last;
* `OnePerKey.eq_filterMap` — a list of one item for each key, written down;
* `getLast?_comments_declaredTopic` — the comment of a topic is `recordedComment` of its facts;
* `recordedComment_eq_lastComment` — where it is the last one;
* `describedBy_recordedComment` — the descriptions of a registry.
-/

namespace OntoTypes

/-! ## Items where they are first seen -/

/-- What is read off items is first seen where they are, if it tells them apart: `eraseDups` keeps
the first of equal items, and the order in which slots are first seen is what the descriptions
depend on. -/
theorem eraseDups_filterMap [DecidableEq α] [DecidableEq β] {read : α → Option β}
    (hread : ∀ a b c, read a = some c → read b = some c → a = b) (items : List α) :
    (items.filterMap read).eraseDups = items.eraseDups.filterMap read := by
  -- from the end, as `eraseDups` decides about an item by those before it
  induction items using List.reverseRecOn with
  | nil => rfl
  | append_singleton items item ih =>
    rw [List.filterMap_append, eraseDups_concat]
    cases hitem : read item with
    | none =>
      rw [List.filterMap_cons_none hitem, List.filterMap_nil, List.append_nil, ih]
      split
      · rfl
      · rw [List.filterMap_append, List.filterMap_cons_none hitem, List.filterMap_nil,
          List.append_nil]
    | some c =>
      -- a result has been seen if the item has, and only then
      have hmem : c ∈ items.filterMap read ↔ item ∈ items := by
        rw [List.mem_filterMap]
        constructor
        · rintro ⟨other, hother, hc⟩
          rwa [hread item other c hitem hc]
        · exact fun h => ⟨item, h, hitem⟩
      rw [List.filterMap_cons_some hitem, List.filterMap_nil, eraseDups_concat, ih]
      simp only [hmem]
      split
      · rfl
      · rw [List.filterMap_append, List.filterMap_cons_some hitem, List.filterMap_nil]

/-- Where there are two items at most, the second one is seen after the first, if at all. -/
theorem eraseDups_of_two [DecidableEq α] {first second : α} {rest : List α}
    (hrest : ∀ item ∈ rest, item = first ∨ item = second) (hne : first ≠ second) :
    (first :: rest).eraseDups = if second ∈ rest then [first, second] else [first] := by
  induction rest using List.reverseRecOn with
  | nil => rfl
  | append_singleton rest item ih =>
    have hprefix := ih fun other hother => hrest other (List.mem_append_left _ hother)
    rw [← List.cons_append, eraseDups_concat, hprefix]
    rcases hrest item (List.mem_append_right _ (List.mem_singleton_self _)) with rfl | rfl
    · -- the first item is seen once more
      rw [if_pos (List.mem_cons_self ..)]
      simp [hne.symm]
    · by_cases hseen : item ∈ rest <;> simp [hseen, hne.symm]

/-- **A list of one item for each key, written down.** -/
theorem OnePerKey.eq_filterMap [DecidableEq κ] {key : α → κ} {pick : κ → List α → Option α}
    {items kept : List α} (h : OnePerKey key pick items kept) :
    kept = (items.map key).eraseDups.filterMap fun k => pick k (items.filter (key · = k)) := by
  have hnodup : (kept.map key).Nodup := h.keys ▸ nodup_eraseDups _
  -- an item is what is kept for its key
  have hfound : ∀ item ∈ kept, kept.find? (key · = key item) = some item := by
    intro item hitem
    rw [← List.head?_filter, filter_key_eq_singleton hnodup hitem]
    rfl
  rw [← h.keys, List.filterMap_map]
  -- and so it is what is picked for its key
  have hall : kept.filterMap (fun item => pick (key item) (items.filter (key · = key item))) =
      kept.filterMap some := by
    refine List.filterMap_congr fun item hitem => ?_
    rw [← h.entry, hfound item hitem]
  exact (hall.trans List.filterMap_some).symm

/-! ## Comments -/

/-- A comment in the preferred language or in none. A comment that is no text is in none. -/
def Value.contends (lang : String) (value : Value) : Bool :=
  value.predicate = .known .comment && value.object.language?.all (· = lang)

/-- The text of the last comment in a language, if it is a text that may be recorded. -/
def lastIn (lang : String) (language : Option String) (values : List Value) : Option String :=
  (values.filter fun value =>
    value.predicate = .known .comment && value.object.language? = language).getLast?.bind
      (Value.comment? lang)

/-- Of the preferred language and no language, the other one. -/
def otherLanguage (lang : String) : Option String → Option String
  | none => some lang
  | some _ => none

/-- The comment that is recorded. Of the preferred language and no language, the one that is used
second has precedence over the one that is used first. -/
def recordedComment (lang : String) (values : List Value) : Option String :=
  (values.find? (Value.contends lang)).bind fun first =>
    (lastIn lang (otherLanguage lang first.object.language?) values).or
      (lastIn lang first.object.language? values)

/-- The last comment that is a text in the preferred language or in none. -/
def lastComment (lang : String) (values : List Value) : Option String :=
  (values.filterMap (Value.comment? lang)).getLast?

/-- The two languages in question are different. -/
theorem ne_otherLanguage (lang : String) (language : Option String) :
    language ≠ otherLanguage lang language := by
  cases language <;> simp [otherLanguage]

/-- There are only two languages in question. -/
theorem eq_or_eq_otherLanguage {lang : String} {first language : Option String}
    (hfirst : first = none ∨ first = some lang)
    (hlanguage : language = none ∨ language = some lang) :
    language = first ∨ language = otherLanguage lang first := by
  rcases hfirst with rfl | rfl
  · exact hlanguage
  · exact hlanguage.symm

namespace Value

variable {lang : String} {value : Value}

/-- Which values come into question: comments in the preferred language, or in none. -/
theorem contends_iff : value.contends lang = true ↔
    value.predicate = .known .comment ∧
      (value.object.language? = none ∨ value.object.language? = some lang) := by
  rw [contends, Bool.and_eq_true, decide_eq_true_eq]
  cases value.object.language? <;> simp

/-- The texts among the comments that come into question may be recorded. -/
theorem comment?_isSome_iff : (value.comment? lang).isSome ↔
    value.contends lang = true ∧ value.object.isLiteral = true := by
  obtain ⟨predicate, object⟩ := value
  cases object with
  | iri | blank => simp [comment?, Term.isLiteral]
  | literal => rw [comment?]; split <;> simp_all [contends, Term.isLiteral, Term.language?]

/-- No other value is read as a comment. -/
theorem comment?_eq_none_of_not_contends (h : ¬ value.contends lang = true) :
    value.comment? lang = none := by
  by_contra hsome
  exact h (comment?_isSome_iff.mp (Option.isSome_iff_ne_none.mpr hsome)).1

end Value

/-- The language of a slot of comments that come into question. -/
def Slot.contending? (lang : String) : Slot → Option (Option String)
  | .singular (.known .comment) language =>
    if language.all (· = lang) then some language else none
  | _ => none

namespace Slot

variable {lang : String}

/-- A slot comes into question if it is one of comments, in one of the two languages. -/
theorem contending?_eq_some_iff {slot : Slot} {language : Option String} :
    slot.contending? lang = some language ↔
      slot = .singular (.known .comment) language ∧ language.all (· = lang) = true := by
  unfold contending?
  split
  · split
    · rename_i hlanguage
      rw [Option.some.injEq, singular.injEq]
      exact ⟨fun h => ⟨⟨rfl, h⟩, h ▸ hlanguage⟩, fun h => h.1.2⟩
    · rename_i hlanguage
      refine iff_of_false (by simp) fun h => hlanguage ?_
      rw [(singular.inj h.1).2]
      exact h.2
  · rename_i hother
    refine iff_of_false (by simp) fun h => hother _ h.1

end Slot

/-- The slot of a comment is that of its language. -/
theorem Value.slot_eq_comment_iff {value : Value} {language : Option String} :
    value.slot = .singular (.known .comment) language ↔
      value.predicate = .known .comment ∧ value.object.language? = language := by
  unfold slot
  split
  · rw [Slot.singular.injEq]
  · rename_i hplain
    simp only [reduceCtorEq, false_iff]
    rintro ⟨hpredicate, -⟩
    rw [hpredicate] at hplain
    exact hplain rfl

/-- So the slot of a value comes into question exactly if the value does. -/
theorem Value.contending?_slot (lang : String) (value : Value) :
    value.slot.contending? lang =
      if value.contends lang then some value.object.language? else none := by
  split
  · rename_i hcontends
    obtain ⟨hpredicate, hlanguage⟩ := Bool.and_eq_true_iff.mp hcontends
    -- a comment in one of the two languages
    have hslot : value.slot = .singular (.known .comment) value.object.language? :=
      slot_eq_comment_iff.mpr ⟨of_decide_eq_true hpredicate, rfl⟩
    exact Slot.contending?_eq_some_iff.mpr ⟨hslot, hlanguage⟩
  · rename_i hcontends
    -- anything else is in another slot
    rw [Option.eq_none_iff_forall_ne_some]
    intro language hsome
    obtain ⟨hslot, hlanguage⟩ := Slot.contending?_eq_some_iff.mp hsome
    obtain ⟨hpredicate, rfl⟩ := slot_eq_comment_iff.mp hslot
    exact hcontends (Bool.and_eq_true_iff.mpr ⟨decide_eq_true hpredicate, hlanguage⟩)

/-- What is picked for a slot is one of the values to pick from. -/
theorem Slot.mem_of_pick {slot : Slot} {values : List Value} {value : Value}
    (h : slot.pick values = some value) : value ∈ values := by
  cases slot with
  | singular predicate language => exact List.mem_of_getLast? h
  | plain predicate object => exact List.mem_of_head? h

section

variable (lang : String) (facts : List Fact)

/-- Comments are no type tags. -/
theorem filter_valuesOf_comment (language : Option String) :
    (valuesOf facts).filter (fun value => value.slot = .singular (.known .comment) language) =
      (facts.map Fact.value).filter fun value =>
        value.predicate = .known .comment && value.object.language? = language := by
  rw [valuesOf, List.filter_filter]
  refine List.filter_congr fun value _ => ?_
  rw [Bool.eq_iff_iff, Bool.and_eq_true, Bool.and_eq_true, decide_eq_true_eq, decide_eq_true_eq,
    decide_eq_true_eq, Value.slot_eq_comment_iff, and_iff_left_of_imp]
  rintro ⟨hpredicate, -⟩
  simp [Value.isOther, hpredicate]

/-- What is read off a slot is read off the language of its comments, if it is one of comments. -/
theorem pick_bind_comment? (slot : Slot) :
    (slot.pick ((valuesOf facts).filter (·.slot = slot))).bind (Value.comment? lang) =
      (slot.contending? lang).bind fun language =>
        lastIn lang language (facts.map Fact.value) := by
  cases hslot : slot.contending? lang with
  | none =>
    rw [Option.bind_none, Option.bind_eq_none_iff]
    intro value hvalue
    obtain rfl := of_decide_eq_true (List.mem_filter.mp (Slot.mem_of_pick hvalue)).2
    -- a value of a slot that does not come into question does not either
    refine Value.comment?_eq_none_of_not_contends fun hcontends => ?_
    rw [Value.contending?_slot, if_pos hcontends] at hslot
    cases hslot
  | some language =>
    obtain ⟨rfl, -⟩ := Slot.contending?_eq_some_iff.mp hslot
    rw [filter_valuesOf_comment]
    rfl

/-- The slots that come into question are those of the comments that do. -/
theorem filterMap_contending?_slot :
    ((valuesOf facts).map Value.slot).filterMap (Slot.contending? lang) =
      ((facts.map Fact.value).filter (Value.contends lang)).map (·.object.language?) := by
  rw [valuesOf, List.filterMap_map]
  -- value by value
  induction facts.map Fact.value with
  | nil => rfl
  | cons value values ih =>
    have hslot : (Slot.contending? lang ∘ Value.slot) value =
        if value.contends lang then some value.object.language? else none :=
      Value.contending?_slot lang value
    by_cases hcontends : value.contends lang = true
    · have hother : value.isOther = true := by
        simp [Value.isOther, (Value.contends_iff.mp hcontends).1]
      rw [if_pos hcontends] at hslot
      rw [List.filter_cons_of_pos hother, List.filterMap_cons_some hslot,
        List.filter_cons_of_pos hcontends, List.map_cons, ih]
    · rw [if_neg hcontends] at hslot
      rw [List.filter_cons_of_neg hcontends, ← ih, List.filter_cons]
      split
      · rw [List.filterMap_cons_none hslot]
      · rfl

end

/-- There is no last comment in a language that no comment is in. -/
theorem lastIn_eq_none {lang : String} {language : Option String} {values : List Value}
    (h : language ∉ (values.filter (Value.contends lang)).map (·.object.language?)) :
    lastIn lang language values = none := by
  rw [lastIn, Option.bind_eq_none_iff]
  intro value hvalue
  obtain ⟨hmem, hkeep⟩ := List.mem_filter.mp (List.mem_of_getLast? hvalue)
  obtain ⟨-, hlanguage⟩ := Bool.and_eq_true_iff.mp hkeep
  refine Value.comment?_eq_none_of_not_contends fun hcontends => h ?_
  rw [← of_decide_eq_true hlanguage]
  exact List.mem_map_of_mem (List.mem_filter.mpr ⟨hmem, hcontends⟩)

/-- Of two languages, the one that is used second has the last word. -/
theorem getLast?_filterMap_eraseDups {α β : Type} [DecidableEq α] {read : α → Option β}
    {first second : α} {rest : List α} (hrest : ∀ item ∈ rest, item = first ∨ item = second)
    (hne : first ≠ second) (hunused : second ∉ rest → read second = none) :
    ((first :: rest).eraseDups.filterMap read).getLast? = (read second).or (read first) := by
  rw [eraseDups_of_two hrest hne]
  split
  · cases hfirst : read first <;> cases hsecond : read second <;> simp [hfirst, hsecond]
  · rename_i hnot
    rw [hunused hnot, Option.none_or]
    cases hfirst : read first <;> simp [hfirst]

/-- **The comment of a topic** is the one that is recorded for its facts. -/
theorem getLast?_comments_declaredTopic (lang : String) (subject : Term) (facts : List Fact) :
    ((FactStore.declaredTopic subject facts).value.comments lang).getLast? =
      recordedComment lang (facts.map Fact.value) := by
  -- a language belongs to one slot of comments
  have hdistinct : ∀ (a b : Slot) language, a.contending? lang = some language →
      b.contending? lang = some language → a = b := by
    intro a b language ha hb
    rw [(Slot.contending?_eq_some_iff.mp ha).1, (Slot.contending?_eq_some_iff.mp hb).1]
  -- there is no last comment in a language without comments
  have hunused : ∀ language,
      language ∉ ((facts.map Fact.value).filter (Value.contends lang)).map (·.object.language?) →
        lastIn lang language (facts.map Fact.value) = none := fun _ => lastIn_eq_none
  have hlanguages : ∀ value ∈ (facts.map Fact.value).filter (Value.contends lang),
      value.object.language? = none ∨ value.object.language? = some lang :=
    fun value hvalue => (Value.contends_iff.mp (List.mem_filter.mp hvalue).2).2
  -- what is kept are the last comments in their languages, which stand as these were first used
  rw [Topic.comments, (Topic.onePerKey_values subject facts).eq_filterMap,
    List.filterMap_filterMap]
  simp only [pick_bind_comment?]
  rw [← List.filterMap_filterMap, ← eraseDups_filterMap hdistinct, filterMap_contending?_slot,
    recordedComment, ← List.head?_filter]
  -- and there are two languages at most
  generalize (facts.map Fact.value).filter (Value.contends lang) = contending at hunused hlanguages
  cases contending with
  | nil => rfl
  | cons first rest =>
    obtain ⟨hfirst, hrest⟩ := List.forall_mem_cons.mp hlanguages
    rw [List.head?_cons, List.map_cons, Option.bind_some]
    refine getLast?_filterMap_eraseDups ?_ (ne_otherLanguage lang _) fun hnot => hunused _ ?_
    · intro language hlanguage
      obtain ⟨value, hvalue, rfl⟩ := List.mem_map.mp hlanguage
      exact eq_or_eq_otherLanguage hfirst (hrest value hvalue)
    · rw [List.map_cons, List.mem_cons, not_or]
      exact ⟨(ne_otherLanguage lang _).symm, hnot⟩

/-! ## The last comment -/

/-- The comments that come into question end in a text, and if they end in the language in which
they start, they are all in that language. -/
def EndsForward (lang : String) (values : List Value) : Prop :=
  ∀ first ∈ values.find? (Value.contends lang),
    ∀ last ∈ (values.filter (Value.contends lang)).getLast?,
      last.object.isLiteral = true ∧
        (last.object.language? = first.object.language? →
          ∀ value ∈ values, value.contends lang = true →
            value.object.language? = first.object.language?)

instance (lang : String) (values : List Value) : Decidable (EndsForward lang values) :=
  inferInstanceAs (Decidable (∀ first ∈ values.find? (Value.contends lang),
    ∀ last ∈ (values.filter (Value.contends lang)).getLast?, _ ∧ (_ → ∀ value ∈ values, _ → _)))

/-- The last comment in the language of the last comment of all. -/
theorem lastIn_of_getLast? {lang : String} {values : List Value} {last : Value}
    (hlast : (values.filter (Value.contends lang)).getLast? = some last) :
    lastIn lang last.object.language? values = last.comment? lang := by
  obtain ⟨before, hbefore⟩ := List.getLast?_eq_some_iff.mp hlast
  have hcontends : last.contends lang = true :=
    (List.mem_filter.mp (List.mem_of_getLast? hlast)).2
  -- what is in the language of the last one comes into question
  have hsame : values.filter (fun value => value.predicate = .known .comment &&
      value.object.language? = last.object.language?) =
        (values.filter (Value.contends lang)).filter fun value =>
          value.object.language? = last.object.language? := by
    rw [List.filter_filter]
    refine List.filter_congr fun value _ => ?_
    obtain ⟨-, hlanguage⟩ := Bool.and_eq_true_iff.mp hcontends
    by_cases h : value.object.language? = last.object.language?
    · simp [Value.contends, h, hlanguage]
    · simp [h]
  rw [lastIn, hsame, hbefore, List.filter_append, List.filter_cons_of_pos (by simp),
    List.filter_nil, List.getLast?_concat, Option.bind_some]

/-- **Where the last comment is recorded.** -/
theorem recordedComment_eq_lastComment {lang : String} {values : List Value}
    (h : EndsForward lang values) : recordedComment lang values = lastComment lang values := by
  -- only what comes into question is read
  have hcomments : values.filterMap (Value.comment? lang) =
      (values.filter (Value.contends lang)).filterMap (Value.comment? lang) := by
    rw [List.filterMap_filter]
    refine List.filterMap_congr fun value _ => ?_
    split
    · rfl
    · rename_i hnot
      exact Value.comment?_eq_none_of_not_contends hnot
  rw [lastComment, hcomments, recordedComment]
  cases hlast : (values.filter (Value.contends lang)).getLast? with
  | none =>
    have hnone : values.filter (Value.contends lang) = [] := List.getLast?_eq_none_iff.mp hlast
    rw [← List.head?_filter, hnone]
    rfl
  | some last =>
    obtain ⟨before, hbefore⟩ := List.getLast?_eq_some_iff.mp hlast
    have hfirst : ∃ first, values.find? (Value.contends lang) = some first := by
      rw [← Option.isSome_iff_exists, ← List.head?_filter, hbefore]
      simp
    obtain ⟨first, hfirst⟩ := hfirst
    -- the last comment is a text, and wins in its language
    obtain ⟨htext, hall⟩ := h first hfirst last hlast
    have hlastContends := (List.mem_filter.mp (List.mem_of_getLast? hlast)).2
    obtain ⟨text, hcomment⟩ := Option.isSome_iff_exists.mp
      (Value.comment?_isSome_iff.mpr ⟨hlastContends, htext⟩)
    have hwins := lastIn_of_getLast? hlast
    rw [hcomment] at hwins
    rw [hbefore, List.filterMap_append, List.filterMap_cons_some hcomment, List.filterMap_nil,
      List.getLast?_concat, hfirst, Option.bind_some]
    rcases eq_or_eq_otherLanguage (Value.contends_iff.mp (List.find?_some hfirst)).2
      (Value.contends_iff.mp hlastContends).2 with hsame | hother
    · -- all comments are in one language, so there is none in the other one
      have hnone : lastIn lang (otherLanguage lang first.object.language?) values = none := by
        refine lastIn_eq_none fun hmem => ?_
        obtain ⟨value, hvalue, hlanguage⟩ := List.mem_map.mp hmem
        obtain ⟨hin, hcontends⟩ := List.mem_filter.mp hvalue
        rw [hall hsame value hin hcontends] at hlanguage
        exact ne_otherLanguage lang _ hlanguage
      rw [hnone, Option.none_or, ← hsame, hwins]
    · -- the last comment is in the language that was used second
      rw [← hother, hwins, Option.some_or]

/-! ## What a registry records -/

/-- A registry whose classes, builtin ones apart, properties and members are described by some
comments on their identifiers. -/
structure Registry.DescribedBy (registry : Registry) (comment : String → Option String) : Prop where
  classes : ∀ identifier c, registry.get? identifier = some c → registry.isBuiltin c = false →
    (registry.node? c).map (·.description) = some (comment identifier)
  properties : ∀ property ∈ registry.properties.toList,
    property.description = comment property.subject.text
  members : ∀ c node, registry.node? c = some node → ∀ member ∈ node.members,
    member.comment = comment member.subject.text

/-- What facts say about an identifier. -/
def valuesAbout (identifier : String) (facts : List Fact) : List Value :=
  (factsAbout identifier facts).map Fact.value

variable {settings : Settings} {facts : List Fact}

/-- The comment of a topic is found among the facts about its identifier. -/
theorem getLast?_comments_of_mem_groupFacts (lang : String) {topic : Topic}
    (h : topic ∈ (groupFacts settings facts).value) :
    (topic.comments lang).getLast? =
      recordedComment lang (valuesAbout topic.subject.text facts) := by
  rw [value_groupFacts] at h
  obtain ⟨identifier, -, htopic⟩ := List.mem_filterMap.mp h
  rw [text_of_topicAbout? htopic, valuesAbout]
  have hamounts := Option.eq_some_of_filter_eq_some htopic
  -- there is a topic only about what there are facts about
  cases hfacts : factsAbout identifier facts with
  | nil =>
    rw [hfacts] at hamounts
    cases hamounts
  | cons first rest =>
    rw [hfacts] at hamounts
    obtain rfl := Option.some.inj hamounts
    exact getLast?_comments_declaredTopic lang first.subject (first :: rest)

/-- **The descriptions of a registry.** In the registry of some facts, every class that is not
builtin, every property and every member of an enumeration is described by the comment that is
recorded for the facts about its identifier: of the last comments in the preferred language and in
none, the one whose language was used second, if it is a text, else the other one. Where the
comments on an identifier end in a text, and do not go back to the language in which they started
after the other one was used, this is the last comment. -/
theorem describedBy_recordedComment {registry : Registry}
    (hregistry : (registryOf settings (groupFacts settings facts).value).outcome = .ok registry) :
    registry.DescribedBy (fun identifier =>
        recordedComment settings.lang (valuesAbout identifier facts)) ∧
      ∀ identifier, EndsForward settings.lang (valuesAbout identifier facts) →
        recordedComment settings.lang (valuesAbout identifier facts) =
          lastComment settings.lang (valuesAbout identifier facts) := by
  refine ⟨?_, fun identifier => recordedComment_eq_lastComment⟩
  obtain ⟨hadmissible, rfl⟩ := outcome_registryOf_eq_ok_iff.mp hregistry
  set topics := (groupFacts settings facts).value with htopics
  have hdistinct : (topics.map (·.subject.text)).Nodup := nodup_groupFacts settings facts
  -- the comment of a topic, by the lemma above
  have hcomment : ∀ topic ∈ topics, (topic.comments settings.lang).getLast? =
      recordedComment settings.lang (valuesAbout topic.subject.text facts) :=
    fun topic htopic => getLast?_comments_of_mem_groupFacts settings.lang htopic
  refine { classes := ?_, properties := ?_, members := ?_ }
  · intro identifier c hget hplain
    have hc : classOf settings topics identifier = some c := by
      rw [← Registry.get?_hierarchy, hget]
    have hbuiltin : identifier ∉ builtinIdentifiers settings.namespaceIri := by
      rw [← Registry.isBuiltin_hierarchy_iff hc, hplain]
      exact Bool.false_ne_true
    -- so there is a topic about the class, and no other one
    obtain ⟨topic, htopic, hclass, rfl⟩ :=
      (classOf_isSome_iff.mp (by rw [hc]; rfl)).resolve_left hbuiltin
    have habout : topicsAbout settings topics topic.subject.text = [topic] :=
      Registry.topicsAbout_of_mem hdistinct (mem_classTopics.mpr ⟨htopic, hclass, hbuiltin⟩)
    rw [node?_hierarchy_of_classOf hadmissible hc, Option.map_some, recordedNode, habout,
      List.flatMap_singleton, hcomment topic htopic]
  · -- a property is described by its topic
    intro property hproperty
    obtain ⟨topic, htopic, rfl⟩ := List.mem_map.mp hproperty
    exact hcomment topic (List.mem_of_mem_filter htopic)
  · intro c node hnode member hmember
    -- where topics have different identifiers, all classes of the table are registered
    have hregistered : c ∈ (hierarchy settings topics).registered := by
      have hsize : (hierarchy settings topics).classes.size =
          (Registry.declared settings.namespaceIri topics).classes.size := Edit.size_performAll ..
      rw [Registry.registered_hierarchy, Registry.registered_declared hdistinct, List.mem_range,
        ← hsize]
      exact Registry.lt_size_of_node? hnode
    obtain ⟨identifier, hc⟩ := Registry.mem_registered_iff.mp hregistered
    rw [node?_hierarchy_of_classOf hadmissible hc] at hnode
    obtain rfl := Option.some.inj hnode
    obtain ⟨topic, htopic, rfl⟩ := List.mem_map.mp hmember
    exact hcomment topic (List.mem_of_mem_filter htopic)

/-- Three comments on a class, in no language, in English, and in no language again; and two on a
property of it, of which the second one is no text. -/
def comeAndGo : List Fact :=
  let thing : Term := .iri "http://schema.org/Thing"
  let name : Term := .iri "http://schema.org/name"
  [⟨thing, .known .type, .iri classType⟩,
    ⟨thing, .known .comment, .literal { lexical := "old" }⟩,
    ⟨thing, .known .comment, .literal { lexical := "English", language := some "en" }⟩,
    ⟨thing, .known .comment, .literal { lexical := "new" }⟩,
    ⟨name, .known .type, .iri propertyType⟩,
    ⟨name, .known .domainIncludes, thing⟩,
    ⟨name, .known .comment, .literal { lexical := "A name." }⟩,
    ⟨name, .known .comment, .blank "note"⟩]

/-- The last comment on the class is not what describes it, and of the one comment on its property
that is a text nothing is left. -/
theorem describedBy_recordedComment_comeAndGo :
    ∃ registry, (registryOf {} (groupFacts {} comeAndGo).value).outcome = .ok registry ∧
      (∃ c, registry.get? "http://schema.org/Thing" = some c ∧
        (registry.node? c).map (·.description) = some (some "English")) ∧
      lastComment "en" (valuesAbout "http://schema.org/Thing" comeAndGo) = some "new" ∧
      (registry.properties.toList.map fun property => (property.subject, property.description)) =
        [(.iri "http://schema.org/name", none)] ∧
      lastComment "en" (valuesAbout "http://schema.org/name" comeAndGo) = some "A name." ∧
      ¬ registry.DescribedBy fun identifier =>
        lastComment "en" (valuesAbout identifier comeAndGo) := by
  have hadmissible : Admissible {} (groupFacts {} comeAndGo).value :=
    { nonempty := by decide
      nameable := by decide
      classes := by decide
      acyclic := acyclic_of_rank (fun _ => 0) (by decide)
      properties := by decide
      members := by
        have hmembers : ∀ topic ∈ (groupFacts {} comeAndGo).value, ∀ tag ∈ topic.memberTag?,
            IsDeclared "http://schema.org/" (groupFacts {} comeAndGo).value tag.text := by decide
        exact hmembers }
  obtain ⟨hdescribed, -⟩ :=
    describedBy_recordedComment (outcome_registryOf_eq_ok_iff.mpr ⟨hadmissible, rfl⟩)
  have hthing : (hierarchy {} (groupFacts {} comeAndGo).value).get? "http://schema.org/Thing" =
      some 6 := by decide
  -- what the class is described by, and what was said last
  have hclass := hdescribed.classes _ 6 hthing (by decide)
  have hrecorded : recordedComment "en" (valuesAbout "http://schema.org/Thing" comeAndGo) =
      some "English" := by decide
  have hlast : lastComment "en" (valuesAbout "http://schema.org/Thing" comeAndGo) =
      some "new" := by decide
  rw [hrecorded] at hclass
  refine ⟨_, outcome_registryOf_eq_ok_iff.mpr ⟨hadmissible, rfl⟩, ⟨6, hthing, hclass⟩, hlast,
    by decide, by decide, fun hclaim => ?_⟩
  have hother := hclaim.classes _ 6 hthing (by decide)
  rw [hclass, hlast] at hother
  exact absurd hother (by decide)

end OntoTypes
