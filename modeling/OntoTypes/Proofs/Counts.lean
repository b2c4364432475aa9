import Mathlib.Data.Finset.Card
import OntoTypes.Proofs.Digest

/-!
# Counting outlines

The statistics of a module are counts over the outlines of its classes. Only the count of properties
needs an argument: the program counts numbers of properties, each once, and an outline shows the
subjects of its properties; the two counts agree where no two properties have one subject.

Main definitions and results:

* `Statistics.ofOutlines` — the counts for some outlines;
* `Statistics.ofRegistry_eq` — which are those of the hierarchy with these outlines;
* `registered_map_outline`, `statistics_hierarchy` — the outlines of the hierarchy of some topics,
  one for each identifier that is declared, and its counts.
-/

namespace OntoTypes

/-- What is left without duplicates is counted by the set. -/
theorem length_eraseDups [DecidableEq α] (items : List α) :
    items.eraseDups.length = items.toFinset.card := by
  have hset : items.eraseDups.toFinset = items.toFinset := by
    ext item
    simp only [List.mem_toFinset, List.mem_eraseDups]
  rw [← hset, List.toFinset_card_of_nodup (nodup_eraseDups items)]

namespace Statistics

/-- The counts for some outlines. A property counts once, however many classes share it, and only if
one of them is not builtin. -/
def ofOutlines (outlines : List Outline) : Statistics :=
  let classes := outlines.filter (·.primitive.isNone)
  { classes := classes.length
    builtins := outlines.length - classes.length
    properties := ((classes.flatMap (·.properties)).map (·.subject.text)).toFinset.card
    enumMembers := (outlines.flatMap (·.members)).length
    deprecated := (classes.filter (!·.supersededBy.isEmpty)).length }

/-- Rearranged outlines are counted alike. -/
theorem ofOutlines_eq_of_perm {outlines outlines' : List Outline}
    (h : outlines.Perm outlines') : ofOutlines outlines = ofOutlines outlines' := by
  have hclasses := h.filter (·.primitive.isNone)
  have hproperties := (hclasses.flatMap_right (·.properties)).map (·.subject.text)
  have hmembers := h.flatMap_right (·.members)
  have hdeprecated := hclasses.filter (!·.supersededBy.isEmpty)
  simp only [ofOutlines, hclasses.length_eq, h.length_eq, List.toFinset_eq_of_perm _ _ hproperties,
    hmembers.length_eq, hdeprecated.length_eq]

end Statistics

namespace Registry

variable {registry : Registry}

/-- The subject of a property by its number. -/
def propertyText (registry : Registry) (id : PropertyId) : String :=
  ((registry.properties[id]?).map (·.subject.text)).getD ""

/-- A property is recorded with its subject. -/
theorem text_mem_properties_outline_iff {c : ClassId}
    (howned : ∀ id ∈ (registry.nodeOf c).properties, id < registry.properties.size)
    {text : String} :
    text ∈ (registry.outline c).properties.map (·.subject.text) ↔
      text ∈ (registry.nodeOf c).properties.map registry.propertyText := by
  -- an outline lists properties sorted, which does not matter here
  have hperm : ((registry.outline c).properties.map (·.subject.text)).Perm
      ((registry.propertyNodes (registry.nodeOf c).properties).map (·.subject.text)) := by
    have hsorted := (Text.sortOn_perm SubjectKey.compare
      (fun property : PropertyOutline => SubjectKey.of property.subject)
      ((registry.propertyNodes (registry.nodeOf c).properties).map registry.propertyOutline)).map
        (·.subject.text)
    rwa [List.map_map] at hsorted
  -- every number of the class is that of a property
  have hnodes : (registry.propertyNodes (registry.nodeOf c).properties).map (·.subject.text) =
      (registry.nodeOf c).properties.map registry.propertyText := by
    rw [propertyNodes, List.map_filterMap, ← List.filterMap_eq_map]
    refine List.filterMap_congr fun id hid => ?_
    simp only [propertyText, Function.comp_apply, Array.getElem?_eq_getElem (howned id hid)]
    rfl
  rw [hperm.mem_iff, hnodes]

/-- Properties of different subjects are told apart by them. -/
theorem propertyText_inj
    (hdistinct : (registry.properties.toList.map (·.subject.text)).Nodup) {a b : PropertyId}
    (ha : a < registry.properties.size) (hb : b < registry.properties.size)
    (h : registry.propertyText a = registry.propertyText b) : a = b := by
  rw [propertyText, propertyText, Array.getElem?_eq_getElem ha, Array.getElem?_eq_getElem hb] at h
  -- the subjects of all properties, in a row
  let texts := registry.properties.toList.map (·.subject.text)
  have ha' : a < texts.length := by simpa [texts] using ha
  have hb' : b < texts.length := by simpa [texts] using hb
  have hsame : texts.get ⟨a, ha'⟩ = texts.get ⟨b, hb'⟩ := by simpa [texts] using h
  exact Fin.mk.inj (List.nodup_iff_injective_get.mp hdistinct hsame)

end Registry

/-- Counting the numbers of properties is counting the subjects that outlines show. -/
theorem Registry.length_eraseDups_properties {registry : Registry} {kept : List ClassId}
    (hdistinct : (registry.properties.toList.map (·.subject.text)).Nodup)
    (howned : ∀ c ∈ kept, ∀ id ∈ (registry.nodeOf c).properties, id < registry.properties.size) :
    ((kept.map registry.nodeOf).flatMap (·.properties)).eraseDups.length =
      (((kept.map registry.outline).flatMap (·.properties)).map
        (·.subject.text)).toFinset.card := by
  -- the subjects that are shown are those of the numbers
  have hset : (((kept.map registry.outline).flatMap (·.properties)).map
        (·.subject.text)).toFinset =
      ((kept.map registry.nodeOf).flatMap (·.properties)).toFinset.image
        registry.propertyText := by
    ext text
    have hiff : ∀ c ∈ kept,
        text ∈ (registry.outline c).properties.map (·.subject.text) ↔
          text ∈ (registry.nodeOf c).properties.map registry.propertyText :=
      fun c hc => text_mem_properties_outline_iff (howned c hc)
    simp only [List.mem_map] at hiff
    simp only [List.mem_toFinset, List.mem_map, List.mem_flatMap, Finset.mem_image]
    constructor
    · rintro ⟨property, ⟨_, ⟨c, hc, rfl⟩, hproperty⟩, htext⟩
      obtain ⟨id, hid, htext⟩ := (hiff c hc).mp ⟨property, hproperty, htext⟩
      exact ⟨id, ⟨_, ⟨c, hc, rfl⟩, hid⟩, htext⟩
    · rintro ⟨id, ⟨_, ⟨c, hc, rfl⟩, hid⟩, htext⟩
      obtain ⟨property, hproperty, htext⟩ := (hiff c hc).mpr ⟨id, hid, htext⟩
      exact ⟨property, ⟨_, ⟨c, hc, rfl⟩, hproperty⟩, htext⟩
  rw [length_eraseDups, hset, Finset.card_image_of_injOn]
  -- two numbers that are owned have one subject only if they are the same
  intro a ha b hb hab
  simp only [Finset.mem_coe, List.mem_toFinset, List.mem_flatMap, List.mem_map] at ha hb
  obtain ⟨_, ⟨c, hc, rfl⟩, ha⟩ := ha
  obtain ⟨_, ⟨d, hd, rfl⟩, hb⟩ := hb
  exact propertyText_inj hdistinct (howned c hc a ha) (howned d hd b hb) hab

/-- The counts for a hierarchy are those for its outlines. -/
theorem Statistics.ofRegistry_eq {registry : Registry} (h : registry.WellFormed)
    (hdistinct : (registry.properties.toList.map (·.subject.text)).Nodup) :
    Statistics.ofRegistry registry =
      Statistics.ofOutlines (registry.registered.map registry.outline) := by
  -- classes are counted by their records
  have hnodes : registry.registeredNodes = registry.registered.map registry.nodeOf :=
    h.nodes_eq_map fun _ hc => hc
  let kept := registry.registered.filter fun c => (registry.nodeOf c).primitive.isNone
  -- those that are not builtin, once as records and once as outlines
  have hclasses : registry.registeredNodes.filter (!·.isBuiltin) = kept.map registry.nodeOf := by
    rw [hnodes, List.filter_map]
    simp only [kept, ClassNode.isBuiltin, Function.comp_def, Option.not_isSome]
  have houtlines : (registry.registered.map registry.outline).filter (·.primitive.isNone) =
      kept.map registry.outline := by
    rw [List.filter_map]
    rfl
  -- what they own is on record
  have howned : ∀ c ∈ kept, ∀ id ∈ (registry.nodeOf c).properties,
      id < registry.properties.size := by
    intro c hc
    have hregistered := List.mem_of_mem_filter hc
    exact h.owned c hregistered _ (h.node?_nodeOf hregistered)
  -- outlines list members sorted, which changes no count
  have hmembers : (registry.registeredNodes.flatMap (·.members)).length =
      ((registry.registered.map registry.outline).flatMap (·.members)).length := by
    rw [hnodes, List.flatMap_map, List.flatMap_map]
    exact (List.Perm.flatMap_left _ fun c _ => (Text.sortOn_perm ..).symm).length_eq
  simp only [ofRegistry, ofOutlines, hclasses, houtlines, hmembers,
    Registry.length_eraseDups_properties hdistinct howned, List.length_map, List.filter_map]
  rw [hnodes, List.length_map]
  simp [ClassNode.isDeprecated, Registry.outline, Function.comp_def]

/-! ## The outlines of some topics -/

variable {settings : Settings} {topics : List Topic}

/-- The identifiers that classes are declared under, in order. -/
def declaredIdentifiers (settings : Settings) (topics : List Topic) : List String :=
  Keyed.keys (Registry.declared settings.namespaceIri topics).index

/-- No identifier is listed twice, however often it has been declared. -/
theorem nodup_declaredIdentifiers (settings : Settings) (topics : List Topic) :
    (declaredIdentifiers settings topics).Nodup :=
  (Registry.registers_declared settings.namespaceIri topics).keys

/-- What is listed is what is declared. -/
theorem mem_declaredIdentifiers_iff {identifier : String} :
    identifier ∈ declaredIdentifiers settings topics ↔
      IsDeclared settings.namespaceIri topics identifier := by
  rw [← classOf_isSome_iff]
  exact Keyed.isSome_lookup_iff.symm

/-- The outlines of a hierarchy, one for each identifier that is declared. -/
noncomputable def outlines (settings : Settings) (topics : List Topic) : List Outline :=
  (declaredIdentifiers settings topics).map
    (outlineFor settings.namespaceIri (topics.map (Topic.digest settings.lang)))

/-- The registered classes have the outlines of the declared identifiers. -/
theorem registered_map_outline (h : Admissible settings topics) :
    (hierarchy settings topics).registered.map (hierarchy settings topics).outline =
      outlines settings topics := by
  have hkeys := (Registry.registers_declared settings.namespaceIri topics).keys
  rw [Registry.registered_hierarchy, Registry.registered, outlines, declaredIdentifiers,
    Keyed.keys, List.map_map, List.map_map]
  refine List.map_congr_left ?_
  rintro ⟨identifier, c⟩ hentry
  have hc : classOf settings topics identifier = some c :=
    (Keyed.lookup_eq_some_iff_mem hkeys).mpr hentry
  exact outline_hierarchy h hc

/-- The counts for some topics are those for their outlines. -/
theorem statistics_hierarchy (h : Admissible settings topics)
    (hdistinct : (topics.map (·.subject.text)).Nodup) :
    Statistics.ofRegistry (hierarchy settings topics) =
      Statistics.ofOutlines (outlines settings topics) := by
  -- there is one property for each topic about a property, under its subject
  have hsubjects : ((hierarchy settings topics).properties.toList.map (·.subject.text)) =
      (topics.filter Topic.isProperty).map (·.subject.text) := by
    simp only [hierarchy, describedProperties, List.map_map]
    rfl
  rw [← registered_map_outline h]
  refine Statistics.ofRegistry_eq (Registry.wellFormed_hierarchy h) ?_
  rw [hsubjects]
  exact hdistinct.sublist (List.filter_sublist.map _)

end OntoTypes
