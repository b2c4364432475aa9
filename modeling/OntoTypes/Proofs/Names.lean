import OntoTypes.Proofs.Circularity
import OntoTypes.Proofs.Digest

/-!
# Names of declarations

References are made by name, so a name that two declarations share leads astray. Every declaration
of a class is meant by a link of its own, and different links may well be written alike: the name of
a type forgets the namespace of an identifier and the characters that a name cannot hold, and the
names of bases and enumerations are made by appending a word, with nothing that keeps the result
from being the name of another type.

No further names coincide. The appended words tell bases and enumerations apart, and what they were
appended to can be read off again. This leaves three ways for a name to be shared, and each of them
is a condition on the topics.

Main definitions and results:

* `Registry.linksOf` — the links that the declarations of a class are meant by;
* `nodup_names_iff_inj` — no name is shared exactly if these links are all written differently;
* `NamesApart`, `nodup_names_iff_namesApart` — which is the case exactly if the topics keep the
  names apart.
-/

namespace OntoTypes

/-! ## One link for each declaration -/

namespace Registry

variable {registry : Registry} {settings : Settings} {c : ClassId} {node : ClassNode}

/-- A link that is the only one to be meant for some declaration. A builtin data type has no base of
its own, and a class without members has no enumeration. -/
def isNamed (registry : Registry) : Link → Bool
  | .base c => !registry.isBuiltin c
  | .whole _ => true
  | .enumeration c => !(registry.nodeOf c).members.isEmpty

/-- The links that the declarations of a class are meant by, in order. -/
def linksOf (registry : Registry) (c : ClassId) : List Link :=
  [.enumeration c, .base c, .whole c].filter registry.isNamed

/-- The links by which the declarations of a class are meant. -/
theorem mem_linksOf_iff {target : Link} :
    target ∈ registry.linksOf c ↔ target.owner = c ∧ registry.isNamed target = true := by
  have howner : target ∈ [.enumeration c, .base c, .whole c] ↔ target.owner = c := by
    cases target <;> simp [Link.owner]
  rw [linksOf, List.mem_filter, howner]

/-- There is one link for each of them. -/
theorem nodup_linksOf (registry : Registry) (c : ClassId) : (registry.linksOf c).Nodup :=
  List.Nodup.filter _ (by simp)

/-- Declarations have the names of the links that they are meant by. -/
theorem map_name_declarationsOf (hnode : registry.node? c = some node) :
    (registry.declarationsOf settings c).map Declaration.name =
      (registry.linksOf c).map registry.linkName := by
  obtain rfl := nodeOf_eq hnode
  -- an enumeration, if there are members
  have henumeration : (enumerationOf (registry.nodeOf c)).toList.map Declaration.name =
      ([Link.enumeration c].filter registry.isNamed).map registry.linkName := by
    rw [enumerationOf]
    cases hmembers : (registry.nodeOf c).members.isEmpty with
    | true => simp [isNamed, hmembers]
    | false => simp [isNamed, hmembers, Declaration.name, linkName, nameOf, subject_nodeOf]
  -- and one alias or two
  have haliases : (registry.aliasesOf settings c (registry.nodeOf c)).map Declaration.name =
      ([Link.base c, .whole c].filter registry.isNamed).map registry.linkName := by
    rw [aliasesOf]
    cases hprimitive : (registry.nodeOf c).primitive with
    | some primitive =>
      have hbuiltin := isBuiltin_of_primitive hnode hprimitive
      simp [List.filter_cons, isNamed, hbuiltin, Declaration.name]
    | none =>
      have hbuiltin : registry.isBuiltin c = false := by
        rw [isBuiltin_eq_nodeOf, hprimitive]
        rfl
      simp [List.filter_cons, isNamed, hbuiltin, Declaration.name]
  rw [declarationsOf, hnode]
  dsimp only
  rw [List.map_append, henumeration, haliases, ← List.map_append, ← List.filter_append]
  rfl

/-- Links to different classes are different. -/
theorem nodup_flatMap_linksOf (h : registry.registered.Nodup) :
    (registry.registered.flatMap registry.linksOf).Nodup := by
  refine List.nodup_flatMap.mpr ⟨fun c _ => registry.nodup_linksOf c, h.imp fun hne => ?_⟩
  intro target hc hd
  obtain ⟨howner, -⟩ := mem_linksOf_iff.mp hc
  obtain ⟨howner', -⟩ := mem_linksOf_iff.mp hd
  exact hne (howner.symm.trans howner')

/-! ## Links that are written alike -/

/-- A declaration of a registered class introduces what the link is meant for. -/
def Introduces (registry : Registry) (target : Link) : Prop :=
  target.owner ∈ registry.registered ∧ registry.isNamed target = true

/-- A base that is declared has a name of its own. -/
theorem linkName_base (h : registry.Introduces (.base c)) :
    registry.linkName (.base c) = registry.nameOf c ++ "Base" := by
  have hbuiltin : registry.isBuiltin c = false := by
    simpa [isNamed] using h.2
  rw [linkName, hbuiltin]
  rfl

/-- No base is named like an enumeration. -/
theorem append_base_ne_append_enum (a b : String) : a ++ "Base" ≠ b ++ "Enum" := by
  intro h
  have hlast := congrArg (fun name => name.toList.getLast?) h
  simp at hlast

/-- **Names are shared in three ways only**: by two types, or by a type with a base or an
enumeration. -/
theorem linkName_inj_iff :
    (∀ target, registry.Introduces target → ∀ target', registry.Introduces target' →
        registry.linkName target = registry.linkName target' → target = target') ↔
      (∀ c, registry.Introduces (.whole c) → ∀ d, registry.Introduces (.whole d) →
          registry.nameOf c = registry.nameOf d → c = d) ∧
        (∀ c, registry.Introduces (.base c) → ∀ d, registry.Introduces (.whole d) →
          registry.nameOf c ++ "Base" ≠ registry.nameOf d) ∧
        ∀ c, registry.Introduces (.enumeration c) → ∀ d, registry.Introduces (.whole d) →
          registry.nameOf c ++ "Enum" ≠ registry.nameOf d := by
  -- what has a base or an enumeration has a type
  have hwhole : ∀ target, registry.Introduces target → registry.Introduces (.whole target.owner) :=
    fun _ htarget => ⟨htarget.1, rfl⟩
  constructor
  · intro hinj
    -- a shared name would make two kinds of link the same
    refine ⟨fun c hc d hd hname => ?_, fun c hc d hd hname => ?_, fun c hc d hd hname => ?_⟩
    · exact Link.whole.inj (hinj _ hc _ hd hname)
    · exact Link.noConfusion (hinj _ hc _ hd ((linkName_base hc).trans hname))
    · exact Link.noConfusion (hinj _ hc _ hd hname)
  · rintro ⟨htypes, hbases, henumerations⟩ target htarget target' htarget' hname
    -- what a word was appended to is the name of a type, too
    cases target with
    | whole c =>
      cases target' with
      | whole d => rw [htypes c htarget d htarget' hname]
      | base d =>
        rw [linkName_base htarget'] at hname
        exact absurd hname.symm (hbases d htarget' c htarget)
      | enumeration d => exact absurd hname.symm (henumerations d htarget' c htarget)
    | base c =>
      rw [linkName_base htarget] at hname
      cases target' with
      | whole d => exact absurd hname (hbases c htarget d htarget')
      | base d =>
        rw [linkName_base htarget', String.append_left_inj] at hname
        rw [htypes c (hwhole _ htarget) d (hwhole _ htarget') hname]
      | enumeration d => exact absurd hname (append_base_ne_append_enum _ _)
    | enumeration c =>
      cases target' with
      | whole d => exact absurd hname (henumerations c htarget d htarget')
      | base d =>
        rw [linkName_base htarget'] at hname
        exact absurd hname.symm (append_base_ne_append_enum _ _)
      | enumeration d =>
        have hsame : registry.nameOf c = registry.nameOf d := (String.append_left_inj _).mp hname
        rw [htypes c (hwhole _ htarget) d (hwhole _ htarget') hsame]

end Registry

/-! ## The module of some topics -/

variable {settings : Settings} {topics : List Topic}

/-- No name is shared in a module exactly if what its declarations are meant by is all written
differently. -/
theorem nodup_names_iff_inj (h : Admissible settings topics) :
    ((generation settings topics).groups.flatten.map Declaration.name).Nodup ↔
      ∀ target, (hierarchy settings topics).Introduces target →
        ∀ target', (hierarchy settings topics).Introduces target' →
          (hierarchy settings topics).linkName target =
            (hierarchy settings topics).linkName target' → target = target' := by
  have hwf := Registry.wellFormed_hierarchy h
  -- the names are those of the links
  have hnames : ((hierarchy settings topics).registered.flatMap fun c =>
      ((hierarchy settings topics).declarationsOf settings c).map Declaration.name) =
        ((hierarchy settings topics).registered.flatMap
          (hierarchy settings topics).linksOf).map (hierarchy settings topics).linkName := by
    rw [List.map_flatMap]
    exact List.flatMap_congr fun c hc => Registry.map_name_declarationsOf (hwf.node?_nodeOf hc)
  -- and the links are what the module introduces
  have hmem : ∀ target, target ∈ (hierarchy settings topics).registered.flatMap
      (hierarchy settings topics).linksOf ↔ (hierarchy settings topics).Introduces target := by
    intro target
    simp only [List.mem_flatMap, Registry.mem_linksOf_iff, Registry.Introduces]
    exact ⟨fun ⟨_, hc, howner, hnamed⟩ => ⟨howner ▸ hc, hnamed⟩,
      fun ⟨hc, hnamed⟩ => ⟨_, hc, rfl, hnamed⟩⟩
  rw [nodup_names_iff, hnames,
    List.nodup_map_iff_inj_on (Registry.nodup_flatMap_linksOf hwf.nodup)]
  simp only [hmem]

/-- The topics keep the names of a module apart: no two types have one name, and no type has the
name of a base or of an enumeration. -/
structure NamesApart (settings : Settings) (topics : List Topic) : Prop where
  types : ∀ a, IsDeclared settings.namespaceIri topics a →
    ∀ b, IsDeclared settings.namespaceIri topics b →
      givenName (.iri a) = givenName (.iri b) → a = b
  /-- All classes but the builtin ones have a base. -/
  bases : ∀ a, IsDeclared settings.namespaceIri topics a →
    a ∉ builtinIdentifiers settings.namespaceIri →
      ∀ b, IsDeclared settings.namespaceIri topics b →
        givenName (.iri a) ++ "Base" ≠ givenName (.iri b)
  /-- Classes that something is a member of have an enumeration. -/
  enumerations : ∀ topic ∈ topics, ∀ tag, topic.memberTag? = some tag →
    ∀ b, IsDeclared settings.namespaceIri topics b →
      givenName (.iri tag.text) ++ "Enum" ≠ givenName (.iri b)

section

variable (h : Admissible settings topics) {identifier : String} {c : ClassId}
include h

/-- A class is named after its identifier. -/
theorem nameOf_hierarchy (hc : classOf settings topics identifier = some c) :
    (hierarchy settings topics).nameOf c = givenName (.iri identifier) := by
  rw [Registry.nameOf, subjectOf_hierarchy h hc]

omit h in
/-- Every class with an identifier has a type. -/
theorem introduces_whole (hc : classOf settings topics identifier = some c) :
    (hierarchy settings topics).Introduces (.whole c) :=
  ⟨Registry.mem_registered_iff.mpr ⟨_, hc⟩, rfl⟩

omit h in
/-- All but the builtin data types have a base of their own. -/
theorem introduces_base_iff (hc : classOf settings topics identifier = some c) :
    (hierarchy settings topics).Introduces (.base c) ↔
      identifier ∉ builtinIdentifiers settings.namespaceIri := by
  rw [Registry.Introduces, Link.owner, Registry.isNamed, Bool.not_eq_true',
    ← Bool.not_eq_true, Registry.isBuiltin_hierarchy_iff hc]
  exact and_iff_right (Registry.mem_registered_iff.mpr ⟨_, hc⟩)

/-- The enumeration of a class is declared if something is a member of the class. -/
theorem introduces_enumeration_iff (hc : classOf settings topics identifier = some c) :
    (hierarchy settings topics).Introduces (.enumeration c) ↔
      ∃ topic ∈ topics, ∃ tag, topic.memberTag? = some tag ∧ tag.text = identifier := by
  -- members are those of the digests that name the identifier
  have hmembers : ((hierarchy settings topics).nodeOf c).members =
      membersFor (topics.map (Topic.digest settings.lang)) identifier := by
    rw [nodeOf_hierarchy h hc, ← members_recorded hc]
    rfl
  have hnone : ((hierarchy settings topics).nodeOf c).members.isEmpty = true ↔
      ∀ topic ∈ topics, topic.memberTag?.map Term.text ≠ some identifier := by
    rw [hmembers, membersFor, List.isEmpty_map, List.isEmpty_iff, List.filter_eq_nil_iff]
    simp [Topic.digest]
  rw [Registry.Introduces, Link.owner, Registry.isNamed, Bool.not_eq_true', ← Bool.not_eq_true,
    hnone]
  refine (and_iff_right (Registry.mem_registered_iff.mpr ⟨_, hc⟩)).trans ?_
  simp

/-- What is declared has a class, which is named after it. -/
theorem exists_classOf_of_isDeclared (hid : IsDeclared settings.namespaceIri topics identifier) :
    ∃ c, classOf settings topics identifier = some c ∧
      (hierarchy settings topics).nameOf c = givenName (.iri identifier) := by
  obtain ⟨c, hc⟩ := Option.isSome_iff_exists.mp (classOf_isSome_iff.mpr hid)
  exact ⟨c, hc, nameOf_hierarchy h hc⟩

/-- What something is introduced for has been declared, and is named after what was declared. -/
theorem exists_isDeclared_of_introduces {target : Link}
    (htarget : (hierarchy settings topics).Introduces target) :
    ∃ identifier, IsDeclared settings.namespaceIri topics identifier ∧
      classOf settings topics identifier = some target.owner ∧
      (hierarchy settings topics).nameOf target.owner = givenName (.iri identifier) := by
  obtain ⟨identifier, hclass⟩ := Registry.mem_registered_iff.mp htarget.1
  exact ⟨identifier, classOf_isSome_iff.mp (hclass ▸ rfl), hclass, nameOf_hierarchy h hclass⟩

/-! ## What the topics have to keep apart -/

/-- No two types have one name exactly if no two classes have. -/
theorem types_apart_iff :
    (∀ c, (hierarchy settings topics).Introduces (.whole c) →
      ∀ d, (hierarchy settings topics).Introduces (.whole d) →
        (hierarchy settings topics).nameOf c = (hierarchy settings topics).nameOf d → c = d) ↔
      ∀ a, IsDeclared settings.namespaceIri topics a →
        ∀ b, IsDeclared settings.namespaceIri topics b →
          givenName (.iri a) = givenName (.iri b) → a = b := by
  constructor
  · -- identifiers of one name have classes of one name
    intro htypes a ha b hb hname
    obtain ⟨c, hc, hnamec⟩ := exists_classOf_of_isDeclared h ha
    obtain ⟨d, hd, hnamed⟩ := exists_classOf_of_isDeclared h hb
    rw [← hnamec, ← hnamed] at hname
    obtain rfl := htypes c (introduces_whole hc) d (introduces_whole hd) hname
    exact Registry.classOf_inj hc hd
  · -- and back
    intro htypes c hc d hd hname
    obtain ⟨a, ha, hac, hnamec⟩ := exists_isDeclared_of_introduces h hc
    obtain ⟨b, hb, hbd, hnamed⟩ := exists_isDeclared_of_introduces h hd
    rw [Link.owner] at hac hnamec hbd hnamed
    rw [hnamec, hnamed] at hname
    obtain rfl := htypes a ha b hb hname
    exact Option.some.inj (hac.symm.trans hbd)

/-- A word appended to the name of a class does not make it the name of a type exactly if it does
not make it the name of anything declared. -/
theorem suffix_apart_iff (hc : classOf settings topics identifier = some c) (suffix : String) :
    (∀ d, (hierarchy settings topics).Introduces (.whole d) →
      (hierarchy settings topics).nameOf c ++ suffix ≠ (hierarchy settings topics).nameOf d) ↔
      ∀ b, IsDeclared settings.namespaceIri topics b →
        givenName (.iri identifier) ++ suffix ≠ givenName (.iri b) := by
  rw [nameOf_hierarchy h hc]
  constructor
  · -- whatever is declared has a class
    intro hsuffix b hb
    obtain ⟨d, hd, hname⟩ := exists_classOf_of_isDeclared h hb
    rw [← hname]
    exact hsuffix d (introduces_whole hd)
  · -- and whatever has a type was declared
    intro hsuffix d hd
    obtain ⟨b, hb, -, hname⟩ := exists_isDeclared_of_introduces h hd
    rw [Link.owner] at hname
    rw [hname]
    exact hsuffix b hb

/-- Links are all written differently exactly if the topics keep the names apart. -/
theorem linkName_inj_iff_namesApart :
    (∀ target, (hierarchy settings topics).Introduces target →
      ∀ target', (hierarchy settings topics).Introduces target' →
        (hierarchy settings topics).linkName target =
          (hierarchy settings topics).linkName target' → target = target') ↔
      NamesApart settings topics := by
  rw [Registry.linkName_inj_iff, types_apart_iff h]
  constructor
  · -- what was declared has classes, to which the links belong
    rintro ⟨htypes, hbases, henumerations⟩
    refine { types := htypes, bases := ?_, enumerations := ?_ }
    · intro a ha hplain
      obtain ⟨c, hc, -⟩ := exists_classOf_of_isDeclared h ha
      exact (suffix_apart_iff h hc "Base").mp
        (hbases c ((introduces_base_iff hc).mpr hplain))
    · intro topic htopic tag htag
      obtain ⟨c, hc, -⟩ := exists_classOf_of_isDeclared h (h.members topic htopic tag htag)
      exact (suffix_apart_iff h hc "Enum").mp (henumerations c
        ((introduces_enumeration_iff h hc).mpr ⟨topic, htopic, tag, htag, rfl⟩))
  · intro happart
    -- links belong to classes, the conditions are about what was declared for them
    refine ⟨happart.types, fun c hc => ?_, fun c hc => ?_⟩
    · obtain ⟨a, ha, hclass, -⟩ := exists_isDeclared_of_introduces h hc
      exact (suffix_apart_iff h hclass "Base").mpr
        (happart.bases a ha ((introduces_base_iff hclass).mp hc))
    · obtain ⟨_, -, hclass, -⟩ := exists_isDeclared_of_introduces h hc
      obtain ⟨topic, htopic, tag, htag, rfl⟩ := (introduces_enumeration_iff h hclass).mp hc
      exact (suffix_apart_iff h hclass "Enum").mpr
        (happart.enumerations topic htopic tag htag)

end

/-- **When no name is shared.** The declarations of a module have different names exactly if the
topics keep the names apart that are made of their identifiers.

Names are made by appending `Base` and `Enum` to what is made of a local name, and nothing reserves
the result. So two identifiers may compete for a name although they are different: they may be made
into one name, or into two of which one is the other with such a suffix. -/
theorem nodup_names_iff_namesApart {g : Generation}
    (hg : (generate settings topics).outcome = .ok g) :
    (g.groups.flatten.map Declaration.name).Nodup ↔ NamesApart settings topics := by
  obtain ⟨hadmissible, rfl⟩ := outcome_generate_eq_ok_iff.mp hg
  rw [nodup_names_iff_inj hadmissible, linkName_inj_iff_namesApart hadmissible]

/-- Two classes, one of which is named like the base of the other one. -/
def things : List Topic := [
  { subject := .iri "http://schema.org/Thing", types := [.iri classType] },
  { subject := .iri "http://schema.org/ThingBase", types := [.iri classType] }]

theorem admissible_things : Admissible {} things where
  nonempty := by decide
  nameable := by decide
  classes := by decide
  acyclic := acyclic_of_rank (fun _ => 0) (by decide)
  properties := by decide
  members := by
    have hmembers : ∀ topic ∈ things, ∀ tag ∈ topic.memberTag?,
        IsDeclared "http://schema.org/" things tag.text := by decide
    exact hmembers

/-- The module for the two classes declares a name twice, once for the base and once for the other
class. -/
theorem nodup_names_iff_namesApart_things :
    ∃ g, (generate {} things).outcome = .ok g ∧ ¬ NamesApart {} things ∧
      ¬ (g.groups.flatten.map Declaration.name).Nodup ∧
      (g.groups.flatten.map Declaration.name).Perm ["Text", "Number", "Time", "Date", "DateTime",
        "Boolean", "ThingBase", "Thing", "ThingBaseBase", "ThingBase"] := by
  have hg : (generate {} things).outcome = .ok (generation {} things) :=
    outcome_generate_eq_ok_iff.mpr ⟨admissible_things, rfl⟩
  have hshared : ¬ NamesApart {} things := by
    intro happart
    -- the base of a thing is named like the other class
    have hname : givenName (.iri "http://schema.org/Thing") ++ "Base" =
        givenName (.iri "http://schema.org/ThingBase") := by decide +kernel
    exact happart.bases _ (by decide) (by decide) _ (by decide) hname
  have hnames : ((hierarchy {} things).registered.flatMap fun c =>
      ((hierarchy {} things).declarationsOf {} c).map Declaration.name) =
        ["Text", "Number", "Time", "Date", "DateTime", "Boolean", "ThingBase", "Thing",
          "ThingBaseBase", "ThingBase"] := by decide +kernel
  exact ⟨_, hg, hshared, (nodup_names_iff_namesApart hg).not.mpr hshared,
    hnames ▸ names_perm {} things⟩

end OntoTypes
