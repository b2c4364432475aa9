import Mathlib.Data.List.Forall2
import OntoTypes.Proofs.Counts

/-!
# Values in another order

The order in which a topic lists its values is kept in three lists that nothing sorts: the parents
of a class, the classes that a property ranges over, and the replacements that a notice names. Two
digests are rearrangements of each other if they differ in the order of these lists only. Topics
whose digests are rearrangements of each other are admissible together, are counted alike, and give
their classes outlines that are rearrangements in turn; so whatever else a module shows of a topic
does not depend on the order of its values.

Main definitions and results:

* `Digest.Rearranged`, `Outline.Rearranged` — equality up to the order of those lists;
* `Admissible.of_covered` — rearranged topics are admissible together;
* `outlineFor_rearranged` — rearranged digests give rearranged outlines.
-/

namespace OntoTypes

/-- Two digests of topics that list their values in different orders. -/
structure Digest.Rearranged (a b : Digest) : Prop where
  subject      : a.subject = b.subject
  isClass      : a.isClass = b.isClass
  isProperty   : a.isProperty = b.isProperty
  comment      : a.comment = b.comment
  parents      : a.parents.Perm b.parents
  range        : a.range.Perm b.range
  domains      : a.domains = b.domains
  supersededBy : a.supersededBy.Perm b.supersededBy
  memberOf     : a.memberOf = b.memberOf

/-- Two outlines of properties whose lists are in different orders. -/
structure PropertyOutline.Rearranged (a b : PropertyOutline) : Prop where
  subject      : a.subject = b.subject
  description  : a.description = b.description
  range        : a.range.Perm b.range
  supersededBy : a.supersededBy.Perm b.supersededBy

/-- Two outlines of classes whose lists are in different orders. -/
structure Outline.Rearranged (a b : Outline) : Prop where
  subject      : a.subject = b.subject
  primitive    : a.primitive = b.primitive
  description  : a.description = b.description
  parents      : a.parents.Perm b.parents
  children     : a.children = b.children
  isLeaf       : a.isLeaf = b.isLeaf
  properties   : List.Forall₂ PropertyOutline.Rearranged a.properties b.properties
  members      : a.members = b.members
  supersededBy : a.supersededBy.Perm b.supersededBy

namespace Digest.Rearranged

/-- A digest agrees with itself. -/
theorem refl (a : Digest) : a.Rearranged a where
  subject := rfl
  isClass := rfl
  isProperty := rfl
  comment := rfl
  parents := .refl _
  range := .refl _
  domains := rfl
  supersededBy := .refl _
  memberOf := rfl

variable {a b : Digest} (h : a.Rearranged b)
include h

/-- Agreement goes both ways. -/
theorem symm : b.Rearranged a where
  subject := h.subject.symm
  isClass := h.isClass.symm
  isProperty := h.isProperty.symm
  comment := h.comment.symm
  parents := h.parents.symm
  range := h.range.symm
  domains := h.domains.symm
  supersededBy := h.supersededBy.symm
  memberOf := h.memberOf.symm

/-- Rearranged digests make properties that agree. -/
theorem property : a.property.Rearranged b.property where
  subject := h.subject
  description := h.comment
  range := h.range.map _
  supersededBy := h.supersededBy

/-- Rearranged digests make the same member. -/
theorem member : a.member = b.member := by
  rw [Digest.member, Digest.member, h.subject, h.comment]

end Digest.Rearranged

/-! ## Admissibility -/

/-- Every topic has its like among some others. -/
def Covered (lang : String) (topics topics' : List Topic) : Prop :=
  ∀ topic ∈ topics, ∃ topic' ∈ topics', (topic.digest lang).Rearranged (topic'.digest lang)

section

variable {settings : Settings} {topics topics' : List Topic}

/-- What is declared stays so if each topic has a rearranged one. -/
theorem IsDeclared.of_covered {lang namespaceIri identifier : String}
    (hcovered : Covered lang topics topics') (h : IsDeclared namespaceIri topics identifier) :
    IsDeclared namespaceIri topics' identifier := by
  rcases h with h | ⟨topic, htopic, hclass, rfl⟩
  · exact Or.inl h
  · obtain ⟨topic', htopic', hlike⟩ := hcovered topic htopic
    exact Or.inr ⟨topic', htopic', hlike.isClass.symm.trans hclass,
      congrArg Term.text hlike.subject.symm⟩

/-- The likes of class topics are class topics. -/
theorem mem_classTopics_of_rearranged {lang namespaceIri : String} {topic topic' : Topic}
    (hlike : (topic.digest lang).Rearranged (topic'.digest lang))
    (htopic : topic ∈ classTopics namespaceIri topics) (hin : topic' ∈ topics') :
    topic' ∈ classTopics namespaceIri topics' := by
  obtain ⟨-, hclass, hbuiltin⟩ := mem_classTopics.mp htopic
  have hsubject : topic.subject = topic'.subject := hlike.subject
  exact mem_classTopics.mpr ⟨hin, hlike.isClass.symm.trans hclass, hsubject ▸ hbuiltin⟩

/-- What is stated to be a subclass stays so if each topic has a rearranged one. -/
theorem IsSubclass.of_covered {lang namespaceIri child parent : String}
    (hcovered : Covered lang topics topics') (h : IsSubclass namespaceIri topics child parent) :
    IsSubclass namespaceIri topics' child parent := by
  obtain ⟨topic, htopic, rfl, node, hnode, rfl⟩ := h
  obtain ⟨topic', hin, hlike⟩ := hcovered topic (mem_classTopics.mp htopic).1
  have hparent : node.text ∈ topic'.referenceTexts .subClassOf :=
    hlike.parents.mem_iff.mp (List.mem_map_of_mem hnode)
  exact ⟨topic', mem_classTopics_of_rearranged hlike htopic hin,
    congrArg Term.text hlike.subject.symm, List.mem_map.mp hparent⟩

/-- Rearranged topics are admissible together. -/
theorem Admissible.of_covered (hto : Covered settings.lang topics topics')
    (hfrom : Covered settings.lang topics' topics) (h : Admissible settings topics) :
    Admissible settings topics' where
  nonempty := by
    obtain ⟨topic, htopic, hclass⟩ := h.nonempty
    obtain ⟨topic', htopic', hlike⟩ := hto topic htopic
    exact ⟨topic', htopic', hlike.isClass.symm.trans hclass⟩
  nameable := by
    intro topic' htopic'
    obtain ⟨topic, htopic, hlike⟩ := hfrom topic' (mem_classTopics.mp htopic').1
    have hsubject : topic'.subject = topic.subject := hlike.subject
    exact hsubject ▸ h.nameable topic (mem_classTopics_of_rearranged hlike htopic' htopic)
  classes := by
    -- parents are compared by their identifiers and replacements as terms
    intro topic' htopic' word hword node hnode
    obtain ⟨topic, htopic, hlike⟩ := hfrom topic' (mem_classTopics.mp htopic').1
    have hclass := mem_classTopics_of_rearranged hlike htopic' htopic
    have htext : node.text ∈ topic.referenceTexts word := by
      rcases List.mem_pair.mp hword with rfl | rfl
      · exact hlike.parents.mem_iff.mp (List.mem_map_of_mem hnode)
      · exact (hlike.supersededBy.map Term.text).mem_iff.mp (List.mem_map_of_mem hnode)
    exact (isDeclared_of_mem_classTopics h hclass hword htext).of_covered hto
  acyclic := by
    intro identifier hcycle
    refine h.acyclic identifier (Relation.TransGen.mono ?_ _ _ hcycle)
    exact fun child parent hsub => hsub.of_covered hfrom
  properties := by
    intro topic' htopic' hproperty word hword node hnode
    -- owners are compared without regard to order, like ranges
    obtain ⟨topic, htopic, hlike⟩ := hfrom topic' htopic'
    have htext : node.text ∈ topic.referenceTexts word := by
      rcases List.mem_pair.mp hword with rfl | rfl
      · exact hlike.range.mem_iff.mp (List.mem_map_of_mem hnode)
      · exact (Multiset.coe_eq_coe.mp hlike.domains).mem_iff.mp (List.mem_map_of_mem hnode)
    obtain ⟨node', hnode', hsame⟩ := List.mem_map.mp htext
    have hdeclared := h.properties topic htopic (hlike.isProperty.symm.trans hproperty) word hword
      node' hnode'
    exact hsame ▸ hdeclared.of_covered hto
  members := by
    intro topic' htopic' tag htag
    obtain ⟨topic, htopic, hlike⟩ := hfrom topic' htopic'
    have hmember : topic'.memberTag?.map Term.text = topic.memberTag?.map Term.text :=
      hlike.memberOf
    rw [htag] at hmember
    obtain ⟨tag', htag', hsame⟩ := Option.map_eq_some_iff.mp hmember.symm
    exact hsame ▸ (h.members topic htopic tag' htag').of_covered hto

end

/-! ## Outlines -/

/-- Lists whose items have the same keys pairwise are sorted alike. -/
theorem Text.sortOn_forall₂ {α β κ : Type} {R : α → β → Prop} {compareKeys : κ → κ → Ordering}
    {key : α → κ} {key' : β → κ} (hkey : ∀ a b, R a b → key a = key' b) {items : List α}
    {items' : List β} (h : List.Forall₂ R items items') :
    List.Forall₂ R (sortOn compareKeys key items) (sortOn compareKeys key' items') := by
  let first (pair : {pair : α × β // R pair.1 pair.2}) : α := pair.1.1
  let second (pair : {pair : α × β // R pair.1 pair.2}) : β := pair.1.2
  -- both lists are the sides of one list of pairs
  obtain ⟨pairs, rfl, rfl⟩ : ∃ pairs, items = List.map first pairs ∧
      items' = List.map second pairs := by
    induction h with
    | nil => exact ⟨[], rfl, rfl⟩
    | @cons a b _ _ hab _ ih =>
      obtain ⟨pairs, rfl, rfl⟩ := ih
      exact ⟨⟨(a, b), hab⟩ :: pairs, rfl, rfl⟩
  have hsame : (fun pair => key (first pair)) = fun pair => key' (second pair) :=
    funext fun pair => hkey _ _ pair.2
  rw [sortOn_map, sortOn_map, hsame, List.forall₂_map_left_iff, List.forall₂_map_right_iff]
  exact List.forall₂_same.mpr fun pair _ => pair.2

/-- Pieces that are rearranged pairwise make up a rearranged whole. -/
theorem perm_flatMap_of_forall₂ {R : α → α → Prop} {f : α → List β}
    (hf : ∀ a b, R a b → (f a).Perm (f b)) {items items' : List α}
    (h : List.Forall₂ R items items') : (items.flatMap f).Perm (items'.flatMap f) := by
  induction h with
  | nil => exact .nil
  | cons hab _ ih => exact (hf _ _ hab).append ih

/-- What is the same of the items pairwise is the same of the lists. -/
theorem map_eq_of_forall₂ {R : α → α → Prop} {f : α → β} (hf : ∀ a b, R a b → f a = f b)
    {items items' : List α} (h : List.Forall₂ R items items') : items.map f = items'.map f := by
  induction h with
  | nil => rfl
  | cons hab _ ih => rw [List.map_cons, List.map_cons, hf _ _ hab, ih]

/-- Pieces that are the same pairwise make up the same whole. -/
theorem flatMap_eq_of_forall₂ {R : α → α → Prop} {f : α → List β} (hf : ∀ a b, R a b → f a = f b)
    {items items' : List α} (h : List.Forall₂ R items items') :
    items.flatMap f = items'.flatMap f := by
  rw [List.flatMap_def, List.flatMap_def, map_eq_of_forall₂ hf h]

section

variable {namespaceIri : String} {digests digests' : List Digest}
  (h : List.Forall₂ Digest.Rearranged digests digests')
include h

/-- Digests picked by what is the same in rearranged digests are rearranged. -/
theorem filter_rearranged {keep : Digest → Bool}
    (hkeep : ∀ a b : Digest, a.Rearranged b → keep a = keep b) :
    List.Forall₂ Digest.Rearranged (digests.filter keep) (digests'.filter keep) :=
  List.rel_filter (fun a b hab => iff_of_eq (congrArg (· = true) (hkeep a b hab))) h

/-- Each digest has a rearranged one on the other side. -/
theorem exists_rearranged_of_mem {a : Digest} (ha : a ∈ digests) :
    ∃ b ∈ digests', a.Rearranged b := by
  induction h with
  | nil => cases ha
  | cons hab _ ih =>
    rcases List.mem_cons.mp ha with rfl | ha
    · exact ⟨_, List.mem_cons_self .., hab⟩
    · obtain ⟨b, hb, hab⟩ := ih ha
      exact ⟨b, List.mem_cons_of_mem _ hb, hab⟩

/-- The digests of classes agree one by one. -/
theorem classDigests_rearranged :
    List.Forall₂ Digest.Rearranged (classDigests namespaceIri digests)
      (classDigests namespaceIri digests') :=
  filter_rearranged h fun _ _ hab => by rw [hab.isClass, hab.subject]

/-- The digests about one identifier agree one by one. -/
theorem digestsAbout_rearranged (identifier : String) :
    List.Forall₂ Digest.Rearranged (digestsAbout namespaceIri digests identifier)
      (digestsAbout namespaceIri digests' identifier) :=
  filter_rearranged (classDigests_rearranged h) fun _ _ hab => by rw [hab.subject]

/-- The children of a class do not depend on how the parents of these are ordered. -/
theorem childrenFor_rearranged (identifier : String) :
    childrenFor namespaceIri digests identifier = childrenFor namespaceIri digests' identifier := by
  refine flatMap_eq_of_forall₂ (fun a b hab => ?_) (classDigests_rearranged h)
  rw [hab.parents.count_eq, hab.subject]

/-- The properties of a class agree one by one. -/
theorem propertiesFor_rearranged (identifier : String) :
    List.Forall₂ PropertyOutline.Rearranged (propertiesFor digests identifier)
      (propertiesFor digests' identifier) := by
  refine List.rel_flatMap (filter_rearranged h fun _ _ hab => hab.isProperty) fun a b hab => ?_
  rw [hab.domains]
  induction b.domains.count identifier with
  | zero => exact .nil
  | succ n ih => exact .cons hab.property ih

/-- The members of a class are the same. -/
theorem membersFor_rearranged (identifier : String) :
    membersFor digests identifier = membersFor digests' identifier := by
  refine map_eq_of_forall₂ (fun a b hab => hab.member) (filter_rearranged h ?_)
  exact fun _ _ hab => by rw [hab.memberOf]

/-- What is below what does not depend on how parents are ordered. -/
theorem IsBelow.of_rearranged {child parent : String}
    (hbelow : IsBelow namespaceIri digests child parent) :
    IsBelow namespaceIri digests' child parent := by
  obtain ⟨digest, hdigest, rfl, hparent⟩ := hbelow
  obtain ⟨digest', hdigest', hlike⟩ := exists_rearranged_of_mem (classDigests_rearranged h) hdigest
  exact ⟨digest', hdigest', congrArg Term.text hlike.subject.symm,
    hlike.parents.mem_iff.mp hparent⟩

/-- The agreement of all digests goes both ways. -/
theorem flip_rearranged : List.Forall₂ Digest.Rearranged digests' digests :=
  List.Forall₂.flip (h.imp fun _ _ hab => hab.symm)

/-- The same classes are leaves. -/
theorem isLeaf_eq_of_rearranged : IsLeaf namespaceIri digests = IsLeaf namespaceIri digests' := by
  have hbelow : IsBelow namespaceIri digests = IsBelow namespaceIri digests' := by
    funext child parent
    exact propext ⟨fun hbelow => hbelow.of_rearranged h,
      fun hbelow => hbelow.of_rearranged (flip_rearranged h)⟩
  funext identifier
  rw [IsLeaf, IsLeaf, hbelow]

/-- **Rearranged digests give rearranged outlines.** -/
theorem outlineFor_rearranged (identifier : String) :
    (outlineFor namespaceIri digests identifier).Rearranged
      (outlineFor namespaceIri digests' identifier) where
  subject := rfl
  primitive := rfl
  description := by
    have hcomments : (digestsAbout namespaceIri digests identifier).filterMap (·.comment) =
        (digestsAbout namespaceIri digests' identifier).filterMap (·.comment) := by
      rw [List.filterMap_eq_flatMap_toList, List.filterMap_eq_flatMap_toList]
      exact flatMap_eq_of_forall₂ (fun _ _ hab => by rw [hab.comment])
        (digestsAbout_rearranged h identifier)
    exact congrArg List.getLast? hcomments
  parents := perm_flatMap_of_forall₂ (fun _ _ hab => hab.parents.map _)
    (digestsAbout_rearranged h identifier)
  children := congrArg (sortBySubject id) (childrenFor_rearranged h identifier)
  isLeaf := by
    rw [outlineFor, outlineFor, isLeaf_eq_of_rearranged h]
  properties := Text.sortOn_forall₂ (fun _ _ hab => by rw [hab.subject])
    (propertiesFor_rearranged h identifier)
  members := congrArg (Text.sortOn _ _) (membersFor_rearranged h identifier)
  supersededBy := perm_flatMap_of_forall₂ (fun _ _ hab => hab.supersededBy.map _)
    (digestsAbout_rearranged h identifier)

end

/-! ## Modules -/

/-- Rearranged outlines are counted alike. -/
theorem Statistics.ofOutlines_eq_of_rearranged {outlines outlines' : List Outline}
    (h : List.Forall₂ Outline.Rearranged outlines outlines') :
    ofOutlines outlines = ofOutlines outlines' := by
  -- filters keep or drop outlines that agree together
  have hclasses : List.Forall₂ Outline.Rearranged (outlines.filter (·.primitive.isNone))
      (outlines'.filter (·.primitive.isNone)) :=
    List.rel_filter (fun _ _ hab => by simp only [hab.primitive]) h
  have hdeprecated : List.Forall₂ Outline.Rearranged
      ((outlines.filter (·.primitive.isNone)).filter (!·.supersededBy.isEmpty))
      ((outlines'.filter (·.primitive.isNone)).filter (!·.supersededBy.isEmpty)) :=
    List.rel_filter (fun _ _ hab => by simp only [hab.supersededBy.isEmpty_eq]) hclasses
  have hproperties : ((outlines.filter (·.primitive.isNone)).flatMap (·.properties)).map
        (·.subject.text) =
      ((outlines'.filter (·.primitive.isNone)).flatMap (·.properties)).map (·.subject.text) := by
    rw [List.map_flatMap, List.map_flatMap]
    refine flatMap_eq_of_forall₂ (fun a b hab => ?_) hclasses
    rw [← List.forall₂_eq_eq_eq, List.forall₂_map_left_iff, List.forall₂_map_right_iff]
    exact hab.properties.imp fun _ _ hproperty => congrArg Term.text hproperty.subject
  -- only lengths are counted, and members, which are the same
  have hmembers : outlines.flatMap (·.members) = outlines'.flatMap (·.members) :=
    flatMap_eq_of_forall₂ (fun _ _ hab => hab.members) h
  simp only [ofOutlines, h.length_eq, hclasses.length_eq, hdeprecated.length_eq, hproperties,
    hmembers]

section

variable {settings : Settings} {topics topics' : List Topic}
  (h : List.Forall₂ Digest.Rearranged (topics.map (Topic.digest settings.lang))
    (topics'.map (Topic.digest settings.lang)))
include h

/-- Each topic has a rearranged one on the other side. -/
theorem covered_of_rearranged : Covered settings.lang topics topics' := by
  intro topic htopic
  obtain ⟨digest, hdigest, hlike⟩ := exists_rearranged_of_mem h (List.mem_map_of_mem htopic)
  obtain ⟨topic', htopic', rfl⟩ := List.mem_map.mp hdigest
  exact ⟨topic', htopic', hlike⟩

/-- Classes are declared under the same identifiers in the same order. -/
theorem declaredIdentifiers_eq_of_rearranged :
    declaredIdentifiers settings topics = declaredIdentifiers settings topics' := by
  let node (digest : Digest) : ClassNode := { subject := digest.subject }
  have hnodes : ∀ topics : List Topic, declaredNodes settings.namespaceIri topics =
      catalogue.map (builtinNode settings.namespaceIri) ++
        (classDigests settings.namespaceIri
          (topics.map (Topic.digest settings.lang))).map node := by
    intro topics
    rw [classDigests_map_digest, List.map_map]
    rfl
  have hclasses : (classDigests settings.namespaceIri (topics.map _)).map node =
      (classDigests settings.namespaceIri (topics'.map _)).map node :=
    map_eq_of_forall₂ (fun _ _ hab => by simp only [node, hab.subject]) (classDigests_rearranged h)
  -- only the subjects of digests are registered, and these are the same
  rw [declaredIdentifiers, declaredIdentifiers, Registry.declared, hnodes, hclasses, ← hnodes,
    Registry.declared]

/-- The classes of rearranged topics have rearranged outlines. -/
theorem outlines_rearranged :
    List.Forall₂ Outline.Rearranged (outlines settings topics) (outlines settings topics') := by
  rw [outlines, outlines, declaredIdentifiers_eq_of_rearranged h, List.forall₂_map_left_iff,
    List.forall₂_map_right_iff]
  exact List.forall₂_same.mpr fun identifier _ => outlineFor_rearranged h identifier

end

end OntoTypes
