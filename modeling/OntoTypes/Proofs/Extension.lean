import OntoTypes.Proofs.ClassGraph
import OntoTypes.Proofs.Counts
import OntoTypes.Proofs.EmissionOrder
import OntoTypes.Proofs.Expansion

/-!
# A further class

An ontology grows by topics, and most of a module should not notice. A topic about a further class,
which refers to nothing but classes that are there and to which nothing refers yet, adds edges that
start at the new class and none that end there. So no class has more above it than before, none but
the parents of the new class has more below it, and only these can be leaves no longer.

In terms of outlines, a parent gains a child and whatever else it may be is no leaf, and all other
outlines are the same. Children are listed as they are sorted, and so are the classes of a module;
the sort is stable and the new class comes last, so it is put at its place and moves nothing else.

Main definitions and results:

* `Text.Inserts`, `Text.inserts_sortOn` — sorting one more item moves no other;
* `Extends` — topics about further classes;
* `Extends.admissible_concat`, `Extends.transGen_concat_iff` — they keep all in order, and
  everything below what it was below;
* `Extends.outlineFor_concat_of_mem`, `Extends.outlineFor_concat_of_not_mem` — what becomes of the
  outlines of the other classes;
* `Grows`, `generate_concat` — what becomes of the module.
-/

namespace OntoTypes

/-! ## Sorting one more item -/

namespace Text

variable {compareKeys : κ → κ → Ordering} [Std.TransCmp compareKeys] {key : α → κ}

/-- A list is another one with an item more, at its place: behind all items that do not come after
it, and in front of the others. -/
def Inserts (compareKeys : κ → κ → Ordering) (key : α → κ) (item : α) (items items' : List α) :
    Prop :=
  ∃ before after, items = before ++ after ∧ items' = before ++ item :: after ∧
    (∀ a ∈ before, (compareKeys (key a) (key item)).isLE = true) ∧
    ∀ a ∈ after, compareKeys (key item) (key a) = .lt

/-- What is not at most is less. -/
theorem lt_of_not_isLE {a b : κ} (h : ¬ (compareKeys a b).isLE = true) : compareKeys b a = .lt := by
  have hswap : compareKeys b a = (compareKeys a b).swap := Std.OrientedCmp.eq_swap
  rw [hswap]
  cases hcompare : compareKeys a b <;> simp_all

/-- An ordered list consists of what is at most a key and of what comes after it. -/
theorem exists_split_of_ordered {items : List α}
    (h : items.Pairwise fun a b => (compareKeys (key a) (key b)).isLE = true) (k : κ) :
    ∃ before after, items = before ++ after ∧
      (∀ a ∈ before, (compareKeys (key a) k).isLE = true) ∧
      ∀ a ∈ after, compareKeys k (key a) = .lt := by
  induction items with
  | nil => exact ⟨[], [], rfl, by simp, by simp⟩
  | cons a rest ih =>
    obtain ⟨ha, hrest⟩ := List.pairwise_cons.mp h
    -- the first item is on one of the two sides
    by_cases hle : (compareKeys (key a) k).isLE = true
    · obtain ⟨before, after, rfl, hbefore, hafter⟩ := ih hrest
      exact ⟨a :: before, after, rfl, List.forall_mem_cons.mpr ⟨hle, hbefore⟩, hafter⟩
    · refine ⟨[], a :: rest, rfl, by simp, List.forall_mem_cons.mpr ⟨lt_of_not_isLE hle, ?_⟩⟩
      -- nothing that comes later is at most the key, for the first item would be so, too
      intro b hb
      exact lt_of_not_isLE fun hble => hle (Std.TransCmp.isLE_trans (ha b hb) hble)

/-- Ordered lists are the same if they list the items of each key in the same order. -/
theorem eq_of_ordered {items items' : List α}
    (h : items.Pairwise fun a b => (compareKeys (key a) (key b)).isLE = true)
    (h' : items'.Pairwise fun a b => (compareKeys (key a) (key b)).isLE = true)
    (hkeys : ∀ k, items.filter (fun a => compareKeys (key a) k = .eq) =
      items'.filter fun a => compareKeys (key a) k = .eq) : items = items' := by
  have hself : ∀ k, compareKeys k k = .eq := fun _ => Std.ReflCmp.compare_self
  -- both lists are gone through at once
  induction items generalizing items' with
  | nil =>
    cases items' with
    | nil => rfl
    | cons b rest' => simpa [hself] using hkeys (key b)
  | cons a rest ih =>
    cases items' with
    | nil => simpa [hself] using hkeys (key a)
    | cons b rest' =>
      obtain ⟨ha, hrest⟩ := List.pairwise_cons.mp h
      obtain ⟨hb, hrest'⟩ := List.pairwise_cons.mp h'
      -- each of the first items is found on the other side
      have hmem : a ∈ (b :: rest').filter fun c => compareKeys (key c) (key a) = .eq := by
        rw [← hkeys (key a)]
        exact List.mem_filter.mpr ⟨List.mem_cons_self, decide_eq_true (hself _)⟩
      have hmem' : b ∈ (a :: rest).filter fun c => compareKeys (key c) (key b) = .eq := by
        rw [hkeys (key b)]
        exact List.mem_filter.mpr ⟨List.mem_cons_self, decide_eq_true (hself _)⟩
      -- each of the first items is at most the other one, so both have the same key
      have hrefl : ∀ k, (compareKeys k k).isLE = true := by
        intro k
        rw [hself k]
        rfl
      have hleast : ∀ c ∈ b :: rest', (compareKeys (key b) (key c)).isLE = true :=
        List.forall_mem_cons.mpr ⟨hrefl _, hb⟩
      have hleast' : ∀ c ∈ a :: rest, (compareKeys (key a) (key c)).isLE = true :=
        List.forall_mem_cons.mpr ⟨hrefl _, ha⟩
      have hle := hleast a (List.mem_of_mem_filter hmem)
      have hle' := hleast' b (List.mem_of_mem_filter hmem')
      have hsame : compareKeys (key b) (key a) = .eq := by
        have hswap : compareKeys (key a) (key b) = (compareKeys (key b) (key a)).swap :=
          Std.OrientedCmp.eq_swap
        rw [hswap] at hle'
        cases hcompare : compareKeys (key b) (key a) <;> simp_all
      have hfirst := hkeys (key a)
      simp only [List.filter_cons, hself, hsame, decide_true, if_true, List.cons.injEq] at hfirst
      obtain rfl := hfirst.1
      -- without the first items, each key still has the same items on both sides
      rw [ih hrest hrest']
      intro k
      have hk := hkeys k
      by_cases hak : compareKeys (key a) k = .eq <;> simpa [List.filter_cons, hak] using hk

omit [Std.TransCmp compareKeys] in
/-- Keys that are the same sort the same. -/
theorem sortOn_congr {key key' : α → κ} {items : List α} (h : ∀ a ∈ items, key a = key' a) :
    sortOn compareKeys key items = sortOn compareKeys key' items := by
  have hmap : (sortOn compareKeys key items).map id = sortOn compareKeys key' (items.map id) := by
    rw [sortOn, sortOn]
    refine List.map_mergeSort fun a ha b hb => ?_
    rw [h a ha, h b hb]
    rfl
  rwa [List.map_id, List.map_id] at hmap

/-- **Sorting one more item** that comes last puts it at its place and moves nothing else. -/
theorem inserts_sortOn (key : α → κ) (items : List α) (item : α) :
    Inserts compareKeys key item (sortOn compareKeys key items)
      (sortOn compareKeys key (items ++ [item])) := by
  have hordered : (sortOn compareKeys key items).Pairwise fun a b =>
      (compareKeys (key a) (key b)).isLE = true := pairwise_sortOn key items
  obtain ⟨before, after, hsplit, hbefore, hafter⟩ := exists_split_of_ordered hordered (key item)
  refine ⟨before, after, hsplit, ?_, hbefore, hafter⟩
  rw [hsplit] at hordered
  obtain ⟨hleft, hright, hacross⟩ := List.pairwise_append.mp hordered
  -- the list with the item in its place is ordered, and lists the items of each key in the order in
  -- which they come
  refine eq_of_ordered (pairwise_sortOn key _) (List.pairwise_append.mpr ⟨hleft,
    List.pairwise_cons.mpr ⟨fun a ha => ?_, hright⟩, fun a ha b hb => ?_⟩) fun k => ?_
  · rw [hafter a ha]
    rfl
  · rcases List.mem_cons.mp hb with rfl | hb
    · exact hbefore a ha
    · exact hacross a ha b hb
  · -- behind the item there is nothing of the same key
    have hnone : compareKeys (key item) k = .eq →
        after.filter (fun a => compareKeys (key a) k = .eq) = [] := by
      intro hitem
      refine List.filter_eq_nil_iff.mpr fun a ha hsame => ?_
      have hkey : compareKeys (key item) (key a) = .eq :=
        Std.TransCmp.eq_trans hitem (Std.OrientedCmp.eq_symm (of_decide_eq_true hsame))
      rw [hafter a ha] at hkey
      cases hkey
    rw [filter_sortOn, List.filter_append, ← filter_sortOn key k items, hsplit,
      List.filter_append, List.filter_append, List.filter_cons]
    by_cases hitem : compareKeys (key item) k = .eq
    · simp [hitem, hnone hitem]
    · simp [hitem]

end Text

/-! ## A further class topic -/

/-- A topic about a further class, which a hierarchy can be extended by: it says nothing else, its
class can be named and is not registered yet, and all that it refers to is. -/
structure Extends (registry : Registry) (topic : Topic) : Prop where
  isClass : topic.isClass = true
  types : ∀ tag ∈ topic.types, tag = .iri classType
  nameable : IsNameable topic.subject
  new : registry.get? topic.subject.text = none
  parents : ∀ node ∈ topic.references .subClassOf, (registry.get? node.text).isSome
  distinct : (topic.referenceTexts .subClassOf).Nodup
  replacements : ∀ node ∈ topic.references .supersededBy, (registry.get? node.text).isSome

variable {settings : Settings} {topics : List Topic} {topic : Topic} {identifier : String}

/-- What a hierarchy has registered is declared by its topics. -/
theorem isDeclared_of_isSome (h : ((hierarchy settings topics).get? identifier).isSome) :
    IsDeclared settings.namespaceIri topics identifier := by
  rw [Registry.get?_hierarchy] at h
  exact classOf_isSome_iff.mp h

namespace Extends

variable (hfurther : Extends (hierarchy settings topics) topic)
include hfurther

/-- The further topic is about something new. -/
theorem not_isDeclared : ¬ IsDeclared settings.namespaceIri topics topic.subject.text := by
  have hnew := hfurther.new
  rw [Registry.get?_hierarchy] at hnew
  intro hdeclared
  rw [← classOf_isSome_iff, hnew] at hdeclared
  cases hdeclared

/-- What it names as a parent was declared before. -/
theorem isDeclared_of_mem_parents
    (hparent : identifier ∈ topic.referenceTexts .subClassOf) :
    IsDeclared settings.namespaceIri topics identifier := by
  obtain ⟨node, hnode, rfl⟩ := List.mem_map.mp hparent
  exact isDeclared_of_isSome (hfurther.parents node hnode)

/-- The topic is about a class and nothing else. -/
theorem isProperty_eq_false : topic.isProperty = false := by
  refine List.any_eq_false.mpr fun tag htag => ?_
  rw [hfurther.types tag htag]
  decide

/-- It is a class, and no member of an enumeration. -/
theorem memberTag?_eq_none : topic.memberTag? = none := by
  refine List.find?_eq_none.mpr fun tag htag => ?_
  rw [hfurther.types tag htag]
  decide

/-- One identifier more is declared. -/
theorem isDeclared_concat_iff :
    IsDeclared settings.namespaceIri (topics ++ [topic]) identifier ↔
      IsDeclared settings.namespaceIri topics identifier ∨ topic.subject.text = identifier := by
  simp [IsDeclared, or_and_right, exists_or, hfurther.isClass, or_assoc]

/-- One class topic more, after the others. -/
theorem classTopics_concat :
    classTopics settings.namespaceIri (topics ++ [topic]) =
      classTopics settings.namespaceIri topics ++ [topic] := by
  have hplain : topic.subject.text ∉ builtinIdentifiers settings.namespaceIri :=
    fun hbuiltin => hfurther.not_isDeclared (Or.inl hbuiltin)
  have hkept : [topic].filter (fun topic => topic.isClass &&
      !(builtinIdentifiers settings.namespaceIri).contains topic.subject.text) = [topic] := by
    simp [hfurther.isClass, hplain]
  rw [classTopics, List.filter_append, hkept, classTopics]

/-- The new edges all start at the new class. -/
theorem isSubclass_concat_iff {child parent : String} :
    IsSubclass settings.namespaceIri (topics ++ [topic]) child parent ↔
      IsSubclass settings.namespaceIri topics child parent ∨
        topic.subject.text = child ∧ parent ∈ topic.referenceTexts .subClassOf := by
  simp [IsSubclass, hfurther.classTopics_concat, or_and_right, exists_or, Topic.referenceTexts]

/-! ## The way up -/

variable (h : Admissible settings topics)
include h

omit hfurther in
/-- Whatever something is below is declared. -/
theorem isDeclared_of_transGen {child parent : String}
    (hpath : Relation.TransGen (IsSubclass settings.namespaceIri topics) child parent) :
    IsDeclared settings.namespaceIri topics parent := by
  obtain ⟨_, -, topic, htopic, -, node, hnode, rfl⟩ := Relation.TransGen.tail'_iff.mp hpath
  exact h.classes topic htopic .subClassOf (by simp) node hnode

/-- Nothing that was there is below the new class, so it has the same classes above it. -/
theorem transGen_concat_iff {child parent : String}
    (hchild : IsDeclared settings.namespaceIri topics child) :
    Relation.TransGen (IsSubclass settings.namespaceIri (topics ++ [topic])) child parent ↔
      Relation.TransGen (IsSubclass settings.namespaceIri topics) child parent := by
  -- an edge that starts at a declared class was there before
  have hedge : ∀ {a b}, IsDeclared settings.namespaceIri topics a →
      IsSubclass settings.namespaceIri (topics ++ [topic]) a b →
        IsSubclass settings.namespaceIri topics a b := by
    intro a b ha hab
    refine (hfurther.isSubclass_concat_iff.mp hab).resolve_right ?_
    rintro ⟨rfl, -⟩
    exact hfurther.not_isDeclared ha
  constructor
  · intro hpath
    -- along the path from its start, since only what is reached is known to be declared
    induction hpath with
    | single hab => exact .single (hedge hchild hab)
    | tail _ hbc ih => exact ih.tail (hedge (isDeclared_of_transGen h ih) hbc)
  · exact Relation.TransGen.mono
      (fun _ _ hab => hfurther.isSubclass_concat_iff.mpr (Or.inl hab)) _ _

/-- **The topics are admissible together with the further one.** -/
theorem admissible_concat : Admissible settings (topics ++ [topic]) where
  nonempty := by
    obtain ⟨other, hother, hclass⟩ := h.nonempty
    exact ⟨other, List.mem_append_left _ hother, hclass⟩
  nameable := by
    rw [hfurther.classTopics_concat]
    exact List.forall_mem_append.mpr ⟨h.nameable, by simpa using hfurther.nameable⟩
  classes := by
    rw [hfurther.classTopics_concat]
    refine List.forall_mem_append.mpr ⟨?_, ?_⟩
    · -- what the topics refer to is still declared
      intro other hother word hword node hnode
      exact hfurther.isDeclared_concat_iff.mpr
        (Or.inl (h.classes other hother word hword node hnode))
    · intro other hother word hword node hnode
      -- and what the further one refers to was declared before
      obtain rfl := List.mem_singleton.mp hother
      refine hfurther.isDeclared_concat_iff.mpr (Or.inl (isDeclared_of_isSome ?_))
      rcases List.mem_pair.mp hword with rfl | rfl
      · exact hfurther.parents node hnode
      · exact hfurther.replacements node hnode
  acyclic := by
    intro identifier hcycle
    -- a cycle leads to something that was there before, so it was a cycle before
    have hdeclared : IsDeclared settings.namespaceIri topics identifier := by
      obtain ⟨_, -, hedge⟩ := Relation.TransGen.tail'_iff.mp hcycle
      rcases hfurther.isSubclass_concat_iff.mp hedge with hedge | ⟨-, hparent⟩
      · exact isDeclared_of_transGen h (.single hedge)
      · exact hfurther.isDeclared_of_mem_parents hparent
    exact h.acyclic identifier ((hfurther.transGen_concat_iff h hdeclared).mp hcycle)
  properties := by
    intro other hother hproperty word hword node hnode
    rcases List.mem_append.mp hother with hother | hother
    · exact hfurther.isDeclared_concat_iff.mpr
        (Or.inl (h.properties other hother hproperty word hword node hnode))
    · rw [List.mem_singleton.mp hother, hfurther.isProperty_eq_false] at hproperty
      cases hproperty
  members := by
    intro other hother tag htag
    rcases List.mem_append.mp hother with hother | hother
    · exact hfurther.isDeclared_concat_iff.mpr (Or.inl (h.members other hother tag htag))
    · rw [List.mem_singleton.mp hother, hfurther.memberTag?_eq_none] at htag
      cases htag

/-! ## The classes -/

omit h in
/-- The class of the further topic is registered behind all others. -/
theorem declared_concat :
    Registry.declared settings.namespaceIri (topics ++ [topic]) =
      (Registry.declared settings.namespaceIri topics).register { subject := topic.subject } := by
  rw [Registry.declared, declaredNodes, hfurther.classTopics_concat, List.map_append,
    ← List.append_assoc, Registry.registerAll_append]
  rfl

omit h in
/-- The new class has the next number. -/
theorem classOf_concat_self :
    classOf settings (topics ++ [topic]) topic.subject.text =
      some (Registry.declared settings.namespaceIri topics).classes.size := by
  rw [classOf, hfurther.declared_concat, Registry.get?_register, if_pos rfl]

omit h in
/-- Every other identifier has the class that it had. -/
theorem classOf_concat_of_ne (hne : identifier ≠ topic.subject.text) :
    classOf settings (topics ++ [topic]) identifier = classOf settings topics identifier := by
  rw [classOf, hfurther.declared_concat, Registry.get?_register, if_neg hne, classOf]

omit h in
/-- So the classes that were there keep their numbers. -/
theorem classOf_concat {c : ClassId} (hc : classOf settings topics identifier = some c) :
    classOf settings (topics ++ [topic]) identifier = some c := by
  have hdeclared : IsDeclared settings.namespaceIri topics identifier :=
    classOf_isSome_iff.mp (hc ▸ rfl)
  rw [hfurther.classOf_concat_of_ne fun heq => hfurther.not_isDeclared (heq ▸ hdeclared), hc]

omit h in
/-- They are registered as before, and the new one after them. -/
theorem registered_concat :
    (hierarchy settings (topics ++ [topic])).registered =
      (hierarchy settings topics).registered ++
        [(Registry.declared settings.namespaceIri topics).classes.size] := by
  -- nothing was registered under its identifier
  have hnew : topic.subject.text ∉
      Keyed.keys (Registry.declared settings.namespaceIri topics).index := by
    intro hmem
    exact hfurther.not_isDeclared (mem_declaredIdentifiers_iff.mp hmem)
  rw [Registry.registered_hierarchy, Registry.registered_hierarchy, hfurther.declared_concat,
    Registry.registered, Registry.register, Keyed.set_of_not_mem hnew, List.map_append]
  rfl

/-! ## The outlines -/

omit h in
/-- What is said about the classes that were there is said by the topics that were there. -/
theorem digestsAbout_concat (hne : topic.subject.text ≠ identifier) :
    digestsAbout settings.namespaceIri ((topics ++ [topic]).map (Topic.digest settings.lang))
        identifier =
      digestsAbout settings.namespaceIri (topics.map (Topic.digest settings.lang)) identifier := by
  rw [digestsAbout_map_digest, digestsAbout_map_digest, topicsAbout, hfurther.classTopics_concat,
    List.filter_append, List.filter_singleton, decide_eq_false hne, cond_false, List.append_nil,
    topicsAbout]

omit h in
/-- A class gains the new one as a child if it is one of its parents. -/
theorem childrenFor_concat (identifier : String) :
    childrenFor settings.namespaceIri ((topics ++ [topic]).map (Topic.digest settings.lang))
        identifier =
      childrenFor settings.namespaceIri (topics.map (Topic.digest settings.lang)) identifier ++
        if identifier ∈ topic.referenceTexts .subClassOf then [topic.subject] else [] := by
  -- a parent is named once, so the child is added once
  have hcount : (topic.referenceTexts .subClassOf).count identifier =
      if identifier ∈ topic.referenceTexts .subClassOf then 1 else 0 :=
    hfurther.distinct.count
  rw [childrenFor, classDigests_map_digest, hfurther.classTopics_concat, List.map_append,
    List.flatMap_append, ← classDigests_map_digest, childrenFor]
  congr 1
  rw [List.map_singleton, List.flatMap_singleton]
  change List.replicate ((topic.referenceTexts .subClassOf).count identifier)
    (Term.iri topic.subject.text) = _
  rw [hcount, ← hfurther.nameable.eq_iri]
  split <;> rfl

omit h in
/-- No class gains a property, as the further topic is about none. -/
theorem propertiesFor_concat (identifier : String) :
    propertiesFor ((topics ++ [topic]).map (Topic.digest settings.lang)) identifier =
      propertiesFor (topics.map (Topic.digest settings.lang)) identifier := by
  have hnone : [topic.digest settings.lang].filter (·.isProperty) = [] := by
    simp [Topic.digest, hfurther.isProperty_eq_false]
  rw [propertiesFor, List.map_append, List.filter_append, List.map_singleton, hnone,
    List.append_nil, propertiesFor]

omit h in
/-- No class gains a member either. -/
theorem membersFor_concat (identifier : String) :
    membersFor ((topics ++ [topic]).map (Topic.digest settings.lang)) identifier =
      membersFor (topics.map (Topic.digest settings.lang)) identifier := by
  have hnone : [topic.digest settings.lang].filter
      (fun digest => digest.memberOf = some identifier) = [] := by
    simp [Topic.digest, hfurther.memberTag?_eq_none]
  rw [membersFor, List.map_append, List.filter_append, List.map_singleton, hnone,
    List.append_nil, membersFor]

/-- A class stays a leaf unless it is a parent of the new one. -/
theorem isLeaf_concat_iff (hid : IsDeclared settings.namespaceIri topics identifier) :
    IsLeaf settings.namespaceIri ((topics ++ [topic]).map (Topic.digest settings.lang))
        identifier ↔
      identifier ∉ topic.referenceTexts .subClassOf ∧
        IsLeaf settings.namespaceIri (topics.map (Topic.digest settings.lang)) identifier := by
  -- leaves are told by what is below what
  have hbelow : ∀ topics : List Topic, IsBelow settings.namespaceIri
      (topics.map (Topic.digest settings.lang)) = IsSubclass settings.namespaceIri topics := by
    intro topics
    funext child parent
    exact propext isBelow_map_digest_iff
  rw [IsLeaf, IsLeaf, hbelow, hbelow]
  simp only [hfurther.transGen_concat_iff h hid, hfurther.isSubclass_concat_iff, not_or, not_and,
    forall_and, forall_eq']
  constructor
  · rintro ⟨⟨hchildren, hparent⟩, hbuiltin⟩
    exact ⟨hparent, hchildren, hbuiltin⟩
  · rintro ⟨hparent, hchildren, hbuiltin⟩
    exact ⟨⟨hchildren, hparent⟩, hbuiltin⟩

/-- A class that is no parent of the new one keeps its outline. -/
theorem outlineFor_concat_of_not_mem (hid : IsDeclared settings.namespaceIri topics identifier)
    (hparent : identifier ∉ topic.referenceTexts .subClassOf) :
    outlineFor settings.namespaceIri ((topics ++ [topic]).map (Topic.digest settings.lang))
        identifier =
      outlineFor settings.namespaceIri (topics.map (Topic.digest settings.lang)) identifier := by
  -- nothing that its outline is made of has changed
  have hne : topic.subject.text ≠ identifier := fun heq => hfurther.not_isDeclared (heq ▸ hid)
  have hleaf := hfurther.isLeaf_concat_iff h hid
  rw [and_iff_right hparent] at hleaf
  rw [outlineFor, outlineFor, hfurther.digestsAbout_concat hne, hfurther.childrenFor_concat,
    hfurther.propertiesFor_concat, hfurther.membersFor_concat, if_neg hparent, List.append_nil,
    propext hleaf]

/-- A parent of the new class gains a child, and is no leaf. -/
theorem outlineFor_concat_of_mem (hid : IsDeclared settings.namespaceIri topics identifier)
    (hparent : identifier ∈ topic.referenceTexts .subClassOf) :
    outlineFor settings.namespaceIri ((topics ++ [topic]).map (Topic.digest settings.lang))
        identifier =
      { outlineFor settings.namespaceIri (topics.map (Topic.digest settings.lang)) identifier with
        children := sortBySubject id (childrenFor settings.namespaceIri
          (topics.map (Topic.digest settings.lang)) identifier ++ [topic.subject])
        isLeaf := false } := by
  have hne : topic.subject.text ≠ identifier := fun heq => hfurther.not_isDeclared (heq ▸ hid)
  -- with a child, it is no leaf
  have hleaf : ¬ IsLeaf settings.namespaceIri
      ((topics ++ [topic]).map (Topic.digest settings.lang)) identifier :=
    fun hleaf => ((hfurther.isLeaf_concat_iff h hid).mp hleaf).1 hparent
  rw [outlineFor, outlineFor, hfurther.digestsAbout_concat hne, hfurther.childrenFor_concat,
    hfurther.propertiesFor_concat, hfurther.membersFor_concat, if_pos hparent]
  simp only [hleaf, decide_false]

end Extends

/-! ## The module -/

/-- The declarations of a class that is not builtin, if these are its children and there are any: a
base without a discriminant, and a public type that is either the class itself or one of them. -/
def Outline.declarationsAbove (settings : Settings) (outline : Outline) (children : List Term) :
    List Declaration :=
  outline.enumeration?.toList ++
    [.typeAlias (givenName outline.subject ++ "Base")
      ({ outline with isLeaf := false }.base settings) none false,
     .typeAlias (givenName outline.subject)
      (outline.beside (.union (.intersection [.record [.mk discriminantKey
          (.literal outline.subject.readableName) false none],
        .reference (givenName outline.subject ++ "Base")] ::
          children.map fun subject => .reference (givenName subject)))) outline.comment true]

/-- A class that is not builtin and gains the class of a topic as a child. -/
def Registry.GainsChild (registry : Registry) (topic : Topic) (c : ClassId) : Prop :=
  registry.isBuiltin c = false ∧
    ∃ node ∈ topic.references .subClassOf, registry.get? node.text = some c

/-- How a hierarchy and its declarations grow by the class of one more topic. Groups are compared as
they are emitted, so `unchanged` is an equality of declarations and not of texts. -/
structure Grows (settings : Settings) (topic : Topic) (registry registry' : Registry)
    (new : ClassId) : Prop where
  /-- The new class is registered beside the others. -/
  registered : ∀ identifier, registry'.get? identifier =
    if identifier = topic.subject.text then some new else registry.get? identifier
  /-- It has a group of its own. -/
  itself : (registry'.outline new).subject = topic.subject ∧
    registry'.declarations settings new = .ok ((registry'.outline new).declarations settings)
  /-- It is listed at its place, among the other classes as they were listed before. -/
  listed : Text.Inserts EmissionKey.compare registry'.emissionKey new registry.emissionOrder
    registry'.emissionOrder
  /-- Classes that gain no child are declared as before. -/
  unchanged : ∀ c ∈ registry.registered, ¬ registry.GainsChild topic c →
    registry'.declarations settings c = registry.declarations settings c
  /-- The others name the new class at its place among their children, and have no discriminant in
  their base. -/
  gained : ∀ c, registry.GainsChild topic c →
    registry.declarations settings c = .ok ((registry.outline c).declarations settings) ∧
    ∃ children, Text.Inserts SubjectKey.compare SubjectKey.of topic.subject
        (registry.outline c).children children ∧
      registry'.declarations settings c =
        .ok ((registry.outline c).declarationsAbove settings children)

/-- Of a builtin data type, what is below it does not show. -/
theorem Outline.declarations_of_builtin {outline : Outline} {primitive : Primitive}
    (hprimitive : outline.primitive = some primitive) (children : List Term) (isLeaf : Bool) :
    { outline with children := children, isLeaf := isLeaf }.declarations settings =
      outline.declarations settings := by
  cases outline
  dsimp only at hprimitive
  subst hprimitive
  rfl

/-- A class that is not builtin shows its children. -/
theorem Outline.declarations_of_children {outline : Outline} (hprimitive : outline.primitive = none)
    {children : List Term} (hchildren : children ≠ []) :
    { outline with children := children, isLeaf := false }.declarations settings =
      outline.declarationsAbove settings children := by
  cases outline
  dsimp only at hprimitive
  subst hprimitive
  cases children with
  | nil => exact absurd rfl hchildren
  | cons => rfl

/-- The declarations of a class are those of the outline that the digests give it. -/
theorem declarations_hierarchy (h : Admissible settings topics) {c : ClassId}
    (hc : classOf settings topics identifier = some c) :
    (hierarchy settings topics).declarations settings c =
      .ok ((outlineFor settings.namespaceIri (topics.map (Topic.digest settings.lang))
        identifier).declarations settings) := by
  have hwf := Registry.wellFormed_hierarchy h
  have hregistered : c ∈ (hierarchy settings topics).registered :=
    Registry.mem_registered_iff.mpr ⟨_, hc⟩
  rw [hwf.declarations_eq hregistered, Registry.declarationsOf_eq_outline hwf hregistered,
    outline_hierarchy h hc]

/-- A class has a primitive in its outline exactly if it is builtin. -/
theorem isSome_primitive_outlineFor {c : ClassId} (hc : classOf settings topics identifier = some c)
    (digests : List Digest) :
    (outlineFor settings.namespaceIri digests identifier).primitive.isSome =
      (hierarchy settings topics).isBuiltin c := by
  rw [Bool.eq_iff_iff, Registry.isBuiltin_hierarchy_iff hc]
  exact isSome_primitive_declaredNode_iff

section

variable (h : Admissible settings topics) (hfurther : Extends (hierarchy settings topics) topic)
  {c : ClassId} (hc : classOf settings topics identifier = some c)
include h hfurther hc

/-- A class that was there is listed by the key that it had. -/
theorem emissionKey_concat :
    (hierarchy settings (topics ++ [topic])).emissionKey c =
      (hierarchy settings topics).emissionKey c := by
  have hc' := hfurther.classOf_concat hc
  have hbuiltin : (hierarchy settings (topics ++ [topic])).isBuiltin c =
      (hierarchy settings topics).isBuiltin c := by
    rw [Bool.eq_iff_iff, Registry.isBuiltin_hierarchy_iff hc', Registry.isBuiltin_hierarchy_iff hc]
  rw [Registry.emissionKey, Registry.emissionKey, hbuiltin, subjectOf_hierarchy h hc,
    subjectOf_hierarchy (hfurther.admissible_concat h) hc']

/-- A class that gains no child has the declarations that it had. -/
theorem declarations_concat_of_not_gainsChild
    (hplain : ¬ (hierarchy settings topics).GainsChild topic c) :
    (hierarchy settings (topics ++ [topic])).declarations settings c =
      (hierarchy settings topics).declarations settings c := by
  have hid := classOf_isSome_iff.mp (hc ▸ rfl : (classOf settings topics identifier).isSome)
  rw [declarations_hierarchy h hc,
    declarations_hierarchy (hfurther.admissible_concat h) (hfurther.classOf_concat hc)]
  by_cases hparent : identifier ∈ topic.referenceTexts .subClassOf
  · -- a parent that gains no child is a builtin data type
    have hbuiltin : (hierarchy settings topics).isBuiltin c = true := by
      rw [← Bool.not_eq_false]
      intro hbuiltin
      obtain ⟨node, hnode, rfl⟩ := List.mem_map.mp hparent
      refine hplain ⟨hbuiltin, node, hnode, ?_⟩
      rw [Registry.get?_hierarchy, hc]
    rw [← isSome_primitive_outlineFor hc (topics.map (Topic.digest settings.lang))] at hbuiltin
    obtain ⟨primitive, hprimitive⟩ := Option.isSome_iff_exists.mp hbuiltin
    rw [hfurther.outlineFor_concat_of_mem h hid hparent,
      Outline.declarations_of_builtin hprimitive]
  · rw [hfurther.outlineFor_concat_of_not_mem h hid hparent]

omit hc in
/-- A class that gains a child names it among those that it had. -/
theorem declarations_concat_of_gainsChild
    (hgains : (hierarchy settings topics).GainsChild topic c) :
    (hierarchy settings topics).declarations settings c =
        .ok (((hierarchy settings topics).outline c).declarations settings) ∧
      ∃ children, Text.Inserts SubjectKey.compare SubjectKey.of topic.subject
          ((hierarchy settings topics).outline c).children children ∧
        (hierarchy settings (topics ++ [topic])).declarations settings c =
          .ok (((hierarchy settings topics).outline c).declarationsAbove settings children) := by
  obtain ⟨hbuiltin, node, hnode, hget⟩ := hgains
  -- the class that gains a child is named by the further topic
  have hc : classOf settings topics node.text = some c := by
    rw [← Registry.get?_hierarchy, hget]
  have hid := classOf_isSome_iff.mp (hc ▸ rfl : (classOf settings topics node.text).isSome)
  have hparent : node.text ∈ topic.referenceTexts .subClassOf := List.mem_map_of_mem hnode
  have hprimitive : (outlineFor settings.namespaceIri
      (topics.map (Topic.digest settings.lang)) node.text).primitive = none := by
    rw [← Option.not_isSome_iff_eq_none, isSome_primitive_outlineFor hc, hbuiltin]
    exact Bool.false_ne_true
  -- among the children, which are sorted, there is one more
  have hinserts : Text.Inserts SubjectKey.compare SubjectKey.of topic.subject
      (sortBySubject id (childrenFor settings.namespaceIri
        (topics.map (Topic.digest settings.lang)) node.text))
      (sortBySubject id (childrenFor settings.namespaceIri
        (topics.map (Topic.digest settings.lang)) node.text ++ [topic.subject])) :=
    Text.inserts_sortOn ..
  rw [declarations_hierarchy h hc, outline_hierarchy h hc]
  refine ⟨rfl, _, hinserts, ?_⟩
  rw [declarations_hierarchy (hfurther.admissible_concat h) (hfurther.classOf_concat hc),
    hfurther.outlineFor_concat_of_mem h hid hparent, Outline.declarations_of_children hprimitive]
  -- there is a child now, the new one
  obtain ⟨before, after, -, hsplit, -, -⟩ := hinserts
  rw [hsplit]
  simp

end

/-- **A hierarchy grows by the class of a further topic.** -/
theorem grows_concat (h : Admissible settings topics)
    (hfurther : Extends (hierarchy settings topics) topic) :
    Grows settings topic (hierarchy settings topics) (hierarchy settings (topics ++ [topic]))
      (Registry.declared settings.namespaceIri topics).classes.size where
  registered := by
    intro identifier
    rw [Registry.get?_hierarchy, Registry.get?_hierarchy, classOf, hfurther.declared_concat,
      Registry.get?_register]
    rfl
  itself := by
    have h' := hfurther.admissible_concat h
    have hnew := hfurther.classOf_concat_self
    rw [outline_hierarchy h' hnew]
    exact ⟨hfurther.nameable.eq_iri.symm, declarations_hierarchy h' hnew⟩
  listed := by
    -- classes keep their keys, so the sort differs in one item
    have hkeys : ∀ c ∈ (hierarchy settings topics).registered,
        (hierarchy settings topics).emissionKey c =
          (hierarchy settings (topics ++ [topic])).emissionKey c := by
      intro c hregistered
      obtain ⟨identifier, hc⟩ := Registry.mem_registered_iff.mp hregistered
      exact (emissionKey_concat h hfurther hc).symm
    rw [Registry.emissionOrder_eq_sortOn, Registry.emissionOrder_eq_sortOn,
      Text.sortOn_congr hkeys, hfurther.registered_concat]
    exact Text.inserts_sortOn _ _ _
  unchanged := by
    intro c hregistered hplain
    obtain ⟨identifier, hc⟩ := Registry.mem_registered_iff.mp hregistered
    exact declarations_concat_of_not_gainsChild h hfurther hc hplain
  gained := fun _ hgains => declarations_concat_of_gainsChild h hfurther hgains

/-- The groups of a module are the declarations of the classes, as they are listed. -/
theorem map_declarations_emissionOrder (h : Admissible settings topics) :
    (hierarchy settings topics).emissionOrder.map
        ((hierarchy settings topics).declarations settings) =
      (generation settings topics).groups.map .ok := by
  have hwf := Registry.wellFormed_hierarchy h
  rw [generation, List.map_map]
  refine List.map_congr_left fun c hc => ?_
  exact hwf.declarations_eq (Registry.mem_emissionOrder.mp hc)

/-- **A further class leaves a module as it is**, but for the classes that it is below and a group
of its own. That the run still succeeds is part of the statement; `Grows` says class by class what
has changed and what has not.

The topic is about a class that nothing refers to yet, below classes that are there (`Extends`).
Both modules are compared class by class through their registries, in which the classes have the
same positions. -/
theorem generate_concat {registry : Registry} {g : Generation}
    (hregistry : (registryOf settings topics).outcome = .ok registry)
    (hg : (generate settings topics).outcome = .ok g) (hfurther : Extends registry topic) :
    ∃ registry' g' new, (registryOf settings (topics ++ [topic])).outcome = .ok registry' ∧
      (generate settings (topics ++ [topic])).outcome = .ok g' ∧
      registry.emissionOrder.map (registry.declarations settings) = g.groups.map .ok ∧
      registry'.emissionOrder.map (registry'.declarations settings) = g'.groups.map .ok ∧
      Grows settings topic registry registry' new := by
  obtain ⟨h, rfl⟩ := outcome_registryOf_eq_ok_iff.mp hregistry
  obtain ⟨-, rfl⟩ := outcome_generate_eq_ok_iff.mp hg
  have h' := hfurther.admissible_concat h
  exact ⟨_, _, _, outcome_registryOf_eq_ok_iff.mpr ⟨h', rfl⟩,
    outcome_generate_eq_ok_iff.mpr ⟨h', rfl⟩, map_declarations_emissionOrder h,
    map_declarations_emissionOrder h', grows_concat h hfurther⟩

/-- A class below a place, a thing and a builtin data type. -/
def museum : Topic :=
  { subject := .iri "http://schema.org/Museum", types := [.iri classType],
    values := [⟨.known .subClassOf, .iri "http://schema.org/Place"⟩,
      ⟨.known .subClassOf, .iri "http://schema.org/Thing"⟩,
      ⟨.known .subClassOf, .iri "http://schema.org/Text"⟩] }

/-- The museum is the first child of the place, and the second one of the thing; the builtin data
type does not show it. -/
theorem generate_concat_museum :
    ∃ registry g, (registryOf {} thingAndPlace).outcome = .ok registry ∧
      (generate {} thingAndPlace).outcome = .ok g ∧ Extends registry museum ∧
      ["Thing", "Place", "Text"].map (fun name =>
          (registry.get? ("http://schema.org/" ++ name)).map registry.isBuiltin) =
        [some false, some false, some true] ∧
      ∃ registry' g' new, (registryOf {} (thingAndPlace ++ [museum])).outcome = .ok registry' ∧
        (generate {} (thingAndPlace ++ [museum])).outcome = .ok g' ∧
        registry.emissionOrder.map (registry.declarations {}) = g.groups.map .ok ∧
        registry'.emissionOrder.map (registry'.declarations {}) = g'.groups.map .ok ∧
        Grows {} museum registry registry' new := by
  have hregistry : (registryOf {} thingAndPlace).outcome = .ok (hierarchy {} thingAndPlace) :=
    outcome_registryOf_eq_ok_iff.mpr ⟨admissible_thingAndPlace, rfl⟩
  have hg : (generate {} thingAndPlace).outcome = .ok (generation {} thingAndPlace) :=
    outcome_generate_eq_ok_iff.mpr ⟨admissible_thingAndPlace, rfl⟩
  have hfurther : Extends (hierarchy {} thingAndPlace) museum :=
    { isClass := by decide
      types := by decide
      nameable := by decide
      new := by decide
      parents := by decide
      distinct := by decide
      replacements := by decide }
  exact ⟨_, _, hregistry, hg, hfurther, by decide, generate_concat hregistry hg hfurther⟩

end OntoTypes
