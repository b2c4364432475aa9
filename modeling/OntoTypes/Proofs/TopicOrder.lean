import OntoTypes.Proofs.Expansion
import OntoTypes.Proofs.ValueOrder

/-!
# Topics in another order

The order of topics decides in which order classes are registered, children, properties and members
are recorded, and which edge is refused first. Nothing of it reaches the module: what is recorded is
sorted before it is listed, the sort keys tell subjects apart, and a cycle is a property of the set
of edges.

Main results:

* `outlineFor_eq_of_perm` — the outline of a class does not depend on the order of the digests;
* `generation_eq_of_digests` — nor does the whole module, or its statistics;
* `generate_eq_of_perm` — so topics may come in any order.
-/

namespace OntoTypes

variable {settings : Settings} {topics topics' : List Topic}

/-- Digests in another order are the digests of topics that are like the first ones. -/
theorem covered_of_perm {lang : String}
    (hperm : (topics.map (Topic.digest lang)).Perm (topics'.map (Topic.digest lang))) :
    Covered lang topics topics' := by
  intro topic htopic
  obtain ⟨topic', htopic', hdigest⟩ :=
    List.mem_map.mp (hperm.mem_iff.mp (List.mem_map_of_mem htopic))
  exact ⟨topic', htopic', hdigest ▸ .refl _⟩

/-! ## Outlines -/

/-- No two digests are about one identifier, and no two of their identifiers have one key. -/
structure ToldApart (digests : List Digest) : Prop where
  distinct : (digests.map (·.subject.text)).Nodup
  keys : ∀ a ∈ digests, ∀ b ∈ digests,
    Text.SortKey.of a.subject.text = Text.SortKey.of b.subject.text →
      a.subject.text = b.subject.text

section

variable {namespaceIri : String} {digests digests' : List Digest}

/-- Digests are told apart by their keys. -/
theorem ToldApart.eq_of_key (h : ToldApart digests) {a b : Digest} (ha : a ∈ digests)
    (hb : b ∈ digests)
    (hkey : Text.SortKey.of a.subject.text = Text.SortKey.of b.subject.text) : a = b :=
  List.inj_on_of_nodup_map h.distinct ha hb (h.keys a ha b hb hkey)

/-- Things made of digests are sorted alike in whatever order they come, if their keys contain those
of the digests. -/
theorem ToldApart.sortOn_eq (h : ToldApart digests)
    {compareKeys : κ → κ → Ordering} [Std.TransCmp compareKeys] {key : α → κ} {make : Digest → α}
    {items items' : List α} (hperm : items.Perm items')
    (hmade : ∀ item ∈ items, ∃ digest ∈ digests, item = make digest)
    (hkey : ∀ a b : Digest, compareKeys (key (make a)) (key (make b)) = .eq →
      Text.SortKey.of a.subject.text = Text.SortKey.of b.subject.text) :
    Text.sortOn compareKeys key items = Text.sortOn compareKeys key items' := by
  refine Text.sortOn_eq_of_perm hperm ?_
  intro a ha b hb hcompare
  -- items that compare as equal are made of one digest
  obtain ⟨digest, hdigest, rfl⟩ := hmade a ha
  obtain ⟨digest', hdigest', rfl⟩ := hmade b hb
  rw [h.eq_of_key hdigest hdigest' (hkey digest digest' hcompare)]

/-- What is repeated for each of some digests is made of those digests. -/
theorem exists_of_mem_flatMap_replicate {keep : Digest → Bool} {times : Digest → Nat}
    {make : Digest → α} {item : α}
    (h : item ∈ (digests.filter keep).flatMap fun digest =>
      List.replicate (times digest) (make digest)) :
    ∃ digest ∈ digests, item = make digest := by
  obtain ⟨digest, hdigest, hitem⟩ := List.mem_flatMap.mp h
  exact ⟨digest, List.mem_of_mem_filter hdigest, List.eq_of_mem_replicate hitem⟩

variable (hperm : digests.Perm digests')
include hperm

/-- Digests that are told apart are so in any order. -/
theorem ToldApart.of_perm (h : ToldApart digests) : ToldApart digests' where
  distinct := (hperm.map (·.subject.text)).nodup_iff.mp h.distinct
  keys a ha b hb := h.keys a (hperm.mem_iff.mpr ha) b (hperm.mem_iff.mpr hb)

/-- One identifier has at most one digest, which is the same in any order. -/
theorem digestsAbout_eq_of_perm (hdistinct : (digests.map (·.subject.text)).Nodup)
    (identifier : String) :
    digestsAbout namespaceIri digests identifier =
      digestsAbout namespaceIri digests' identifier := by
  have hrearranged : (digestsAbout namespaceIri digests identifier).Perm
      (digestsAbout namespaceIri digests' identifier) := (hperm.filter _).filter _
  -- two of them would be about one identifier, so there is one at most
  have hpairwise : (digestsAbout namespaceIri digests identifier).Pairwise
      fun a b => a.subject.text ≠ b.subject.text :=
    ((List.pairwise_map.mp hdistinct).filter _).filter _
  have hpairwise' := hrearranged.pairwise hpairwise fun hne => hne.symm
  refine hrearranged.eq_of_pairwise ?_ hpairwise hpairwise'
  intro a b ha hb hne
  have hatext := of_decide_eq_true (List.mem_filter.mp ha).2
  have hbtext := of_decide_eq_true (List.mem_filter.mp hb).2
  exact absurd (hatext.trans hbtext.symm) hne

/-- What is below what does not depend on the order of the digests. -/
theorem isLeaf_eq_of_perm : IsLeaf namespaceIri digests = IsLeaf namespaceIri digests' := by
  have hbelow : IsBelow namespaceIri digests = IsBelow namespaceIri digests' := by
    funext child parent
    simp only [IsBelow, classDigests, (hperm.filter _).mem_iff]
  funext identifier
  rw [IsLeaf, IsLeaf, hbelow]

/-- **The outline of a class does not depend on the order of the digests**, if they are told
apart. -/
theorem outlineFor_eq_of_perm (h : ToldApart digests) (identifier : String) :
    outlineFor namespaceIri digests identifier = outlineFor namespaceIri digests' identifier := by
  -- a subject is sorted by a key that contains that of its identifier
  have hkey : ∀ a b : Digest,
      (SubjectKey.of (.iri a.subject.text)).compare (SubjectKey.of (.iri b.subject.text)) = .eq →
        Text.SortKey.of a.subject.text = Text.SortKey.of b.subject.text :=
    fun _ _ hcompare => congrArg SubjectKey.identifier (SubjectKey.eq_of_compare hcompare)
  -- so children, properties and members have one order each
  have hchildren : sortBySubject id (childrenFor namespaceIri digests identifier) =
      sortBySubject id (childrenFor namespaceIri digests' identifier) :=
    h.sortOn_eq ((hperm.filter _).flatMap_right _)
      (fun _ hchild => exists_of_mem_flatMap_replicate hchild) hkey
  have hproperties : sortBySubject PropertyOutline.subject (propertiesFor digests identifier) =
      sortBySubject PropertyOutline.subject (propertiesFor digests' identifier) :=
    h.sortOn_eq ((hperm.filter _).flatMap_right _)
      (fun _ hproperty => exists_of_mem_flatMap_replicate hproperty)
      fun _ _ hcompare => congrArg SubjectKey.identifier (SubjectKey.eq_of_compare hcompare)
  have hmembers : Text.sortOn Text.SortKey.compare (fun member => Text.SortKey.of member.value)
        (membersFor digests identifier) =
      Text.sortOn Text.SortKey.compare (fun member => Text.SortKey.of member.value)
        (membersFor digests' identifier) := by
    have hmade : ∀ member ∈ membersFor digests identifier,
        ∃ digest ∈ digests, member = digest.member := by
      intro member hmember
      obtain ⟨digest, hdigest, rfl⟩ := List.mem_map.mp hmember
      exact ⟨digest, List.mem_of_mem_filter hdigest, rfl⟩
    exact h.sortOn_eq ((hperm.filter _).map _) hmade
      fun _ _ hcompare => Text.SortKey.eq_of_compare hcompare
  -- what is not sorted comes from one topic, and what is sorted is sorted alike
  rw [outlineFor, outlineFor, digestsAbout_eq_of_perm hperm h.distinct, hchildren, hproperties,
    hmembers, isLeaf_eq_of_perm hperm]

end

/-! ## Modules -/

/-- The builtin data types differ in more than case. -/
private theorem caseFold_catalogue : ∀ a ∈ catalogue, ∀ b ∈ catalogue,
    Text.caseFold a.name.toList = Text.caseFold b.name.toList → a.name = b.name := by
  decide

/-- The builtin data types are told apart by their keys. -/
theorem eq_of_key_of_mem_builtinIdentifiers {namespaceIri a b : String}
    (ha : a ∈ builtinIdentifiers namespaceIri) (hb : b ∈ builtinIdentifiers namespaceIri)
    (hkey : Text.SortKey.of a = Text.SortKey.of b) : a = b := by
  obtain ⟨primitive, hprimitive, rfl⟩ := List.mem_map.mp ha
  obtain ⟨primitive', hprimitive', rfl⟩ := List.mem_map.mp hb
  -- the namespace folds to the same beginning on both sides
  have hfolded := congrArg Text.SortKey.folded hkey
  simp only [Text.SortKey.of, Text.caseFold, String.toList_append, List.flatMap_append,
    List.append_cancel_left_eq] at hfolded
  rw [caseFold_catalogue primitive hprimitive primitive' hprimitive' hfolded]

section

variable (hkeys : ToldApart (topics.map (Topic.digest settings.lang)))
include hkeys

/-- Classes that are not builtin are told apart by their keys. -/
theorem eq_of_key_of_not_builtin {namespaceIri a b : String}
    (ha : IsDeclared namespaceIri topics a) (hb : IsDeclared namespaceIri topics b)
    (ha' : a ∉ builtinIdentifiers namespaceIri) (hb' : b ∉ builtinIdentifiers namespaceIri)
    (hkey : Text.SortKey.of a = Text.SortKey.of b) : a = b := by
  obtain ⟨topic, htopic, -, rfl⟩ := ha.resolve_left ha'
  obtain ⟨topic', htopic', -, rfl⟩ := hb.resolve_left hb'
  exact hkeys.keys _ (List.mem_map_of_mem htopic) _ (List.mem_map_of_mem htopic') hkey

/-- The outlines of a module are told apart by what they are listed by. -/
theorem eq_of_emissionKey {outline outline' : Outline}
    (houtline : outline ∈ outlines settings topics)
    (houtline' : outline' ∈ outlines settings topics)
    (hcompare : outline.emissionKey.compare outline'.emissionKey = .eq) : outline = outline' := by
  obtain ⟨a, ha, rfl⟩ := List.mem_map.mp houtline
  obtain ⟨b, hb, rfl⟩ := List.mem_map.mp houtline'
  have hemission := EmissionKey.eq_of_compare hcompare
  have hkey : Text.SortKey.of a = Text.SortKey.of b :=
    congrArg (fun key => key.subject.identifier) hemission
  -- the key says whether a data type is builtin
  have hbuiltin : a ∈ builtinIdentifiers settings.namespaceIri ↔
      b ∈ builtinIdentifiers settings.namespaceIri := by
    rw [← isSome_primitive_declaredNode_iff, ← isSome_primitive_declaredNode_iff]
    exact iff_of_eq (congrArg (·.isBuiltin = true) hemission)
  -- keys tell builtin data types from each other, and all other classes from each other
  have hsame : a = b := by
    by_cases ha' : a ∈ builtinIdentifiers settings.namespaceIri
    · exact eq_of_key_of_mem_builtinIdentifiers ha' (hbuiltin.mp ha') hkey
    · exact eq_of_key_of_not_builtin hkeys (mem_declaredIdentifiers_iff.mp ha)
        (mem_declaredIdentifiers_iff.mp hb) ha' (mt hbuiltin.mpr ha') hkey
  rw [hsame]

/-- Topics whose digests are told apart are about different identifiers. -/
theorem ToldApart.nodup_subjects : (topics.map (·.subject.text)).Nodup := by
  have hdistinct := hkeys.distinct
  rwa [List.map_map] at hdistinct

/-- A module in terms of its outlines. -/
theorem generation_eq_outlines (h : Admissible settings topics) :
    generation settings topics =
      { groups := (Text.sortOn EmissionKey.compare Outline.emissionKey
          (outlines settings topics)).map (Outline.declarations settings)
        statistics := Statistics.ofOutlines (outlines settings topics) } := by
  rw [generation, statistics_hierarchy h hkeys.nodup_subjects, ← registered_map_outline h,
    Registry.groups_eq_outlines (Registry.wellFormed_hierarchy h)]

variable (hperm : (topics.map (Topic.digest settings.lang)).Perm
  (topics'.map (Topic.digest settings.lang)))
include hperm

/-- The same digests in another order give the same outlines in another order. -/
theorem outlines_perm : (outlines settings topics).Perm (outlines settings topics') := by
  -- the same identifiers are declared, each once
  have hidentifiers : (declaredIdentifiers settings topics).Perm
      (declaredIdentifiers settings topics') := by
    refine (List.perm_ext_iff_of_nodup (nodup_declaredIdentifiers settings topics)
      (nodup_declaredIdentifiers settings topics')).mpr fun identifier => ?_
    rw [mem_declaredIdentifiers_iff, mem_declaredIdentifiers_iff]
    exact ⟨IsDeclared.of_covered (covered_of_perm hperm),
      IsDeclared.of_covered (covered_of_perm hperm.symm)⟩
  have houtline : outlineFor settings.namespaceIri (topics.map (Topic.digest settings.lang)) =
      outlineFor settings.namespaceIri (topics'.map (Topic.digest settings.lang)) :=
    funext (outlineFor_eq_of_perm hperm hkeys)
  rw [outlines, outlines, houtline]
  exact hidentifiers.map _

/-- **A module is a function of the digests**, in whatever order they come. -/
theorem generation_eq_of_digests (h : Admissible settings topics) :
    generation settings topics = generation settings topics' := by
  have h' := h.of_covered (covered_of_perm hperm) (covered_of_perm hperm.symm)
  have houtlines := outlines_perm hkeys hperm
  -- the module lists the same outlines, sorted by keys that differ
  have hsorted : Text.sortOn EmissionKey.compare Outline.emissionKey (outlines settings topics) =
      Text.sortOn EmissionKey.compare Outline.emissionKey (outlines settings topics') :=
    Text.sortOn_eq_of_perm houtlines fun _ ha _ hb => eq_of_emissionKey hkeys ha hb
  rw [generation_eq_outlines hkeys h,
    generation_eq_outlines (hkeys.of_perm hperm) h', hsorted,
    Statistics.ofOutlines_eq_of_perm houtlines]

/-- Topics of the same digests generate the same. -/
theorem outcome_generate_eq_ok_iff_of_digests {g : Generation} :
    (generate settings topics).outcome = .ok g ↔ (generate settings topics').outcome = .ok g := by
  rw [outcome_generate_eq_ok_iff, outcome_generate_eq_ok_iff]
  constructor
  · rintro ⟨h, rfl⟩
    exact ⟨h.of_covered (covered_of_perm hperm) (covered_of_perm hperm.symm),
      generation_eq_of_digests hkeys hperm h⟩
  · rintro ⟨h, rfl⟩
    have h' := h.of_covered (covered_of_perm hperm.symm) (covered_of_perm hperm)
    exact ⟨h', (generation_eq_of_digests hkeys hperm h').symm⟩

end

/-- Topics of different identifiers have digests that are told apart, if the identifiers are. -/
theorem toldApart_of_topics (lang : String) (hdistinct : (topics.map (·.subject.text)).Nodup)
    (hkeys : ∀ a ∈ topics, ∀ b ∈ topics,
      Text.SortKey.of a.subject.text = Text.SortKey.of b.subject.text →
        a.subject.text = b.subject.text) :
    ToldApart (topics.map (Topic.digest lang)) where
  distinct := by
    rw [List.map_map]
    exact hdistinct
  keys := by
    simp only [List.forall_mem_map]
    exact hkeys

/-- Subjects that differ in more than case have different keys. -/
theorem eq_of_key_of_nodup
    (h : (topics.map fun topic => Text.caseFold topic.subject.text.toList).Nodup) :
    ∀ a ∈ topics, ∀ b ∈ topics,
      Text.SortKey.of a.subject.text = Text.SortKey.of b.subject.text →
        a.subject.text = b.subject.text := by
  intro a ha b hb hkey
  rw [List.inj_on_of_nodup_map h ha hb (congrArg Text.SortKey.folded hkey)]

/-- **The order of topics does not matter.** If topics have different identifiers, and these have
different keys, then the topics generate a module in every order or in none, and the declarations,
the statistics and the text of the module are the same in every order.

Topics are taken up in their order, so it is the order in which classes are registered and in which
children, properties and members grow. All of these are sorted before they are written, and what has
equal keys stays in the order in which it came; this is why different identifiers are not enough. -/
theorem generate_eq_of_perm (settings : Settings) (hperm : topics.Perm topics')
    (hdistinct : (topics.map (·.subject.text)).Nodup)
    (hkeys : ∀ a ∈ topics, ∀ b ∈ topics,
      Text.SortKey.of a.subject.text = Text.SortKey.of b.subject.text →
        a.subject.text = b.subject.text) :
    ((∃ g, (generate settings topics).outcome = .ok g) ↔
      ∃ g, (generate settings topics').outcome = .ok g) ∧
    ∀ g g', (generate settings topics).outcome = .ok g →
      (generate settings topics').outcome = .ok g' →
        g.groups = g'.groups ∧ g.statistics = g'.statistics ∧ g.render = g'.render := by
  have htold := toldApart_of_topics settings.lang hdistinct hkeys
  -- what can be generated in one order is generated in the other, and is the same
  have hiff := fun g =>
    outcome_generate_eq_ok_iff_of_digests htold (hperm.map (Topic.digest settings.lang)) (g := g)
  refine ⟨exists_congr hiff, ?_⟩
  intro g g' hg hg'
  have hsame := ((hiff g).mp hg).symm.trans hg'
  cases hsame
  exact ⟨rfl, rfl, rfl⟩

/-- A class and the class above it may come in either order. -/
theorem generate_eq_of_perm_thing :
    (∃ g, (generate {} thingAndPlace.reverse).outcome = .ok g) ∧
    ∀ g g', (generate {} thingAndPlace).outcome = .ok g →
      (generate {} thingAndPlace.reverse).outcome = .ok g' →
        g.groups = g'.groups ∧ g.statistics = g'.statistics ∧ g.render = g'.render := by
  obtain ⟨hiff, hsame⟩ := generate_eq_of_perm {} (List.reverse_perm thingAndPlace).symm (by decide)
    (eq_of_key_of_nodup (by decide))
  exact ⟨hiff.mp ⟨_, outcome_generate_eq_ok_iff.mpr ⟨admissible_thingAndPlace, rfl⟩⟩, hsame⟩

end OntoTypes
