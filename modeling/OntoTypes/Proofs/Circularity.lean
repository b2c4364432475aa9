import OntoTypes.Proofs.Closed

/-!
# No alias in circles

An alias may lead back to itself if the way goes through the field of a record: what a field holds
is asked only of a value that is there. A reference outside all fields has to be followed to know
what an alias stands for at all, and following it must come to an end.

The immediate references of a module go three ways. The type of a class leads across to its base and
down to the types of its children; a base leads up to the bases of the parents; and from an
enumeration nothing is left to follow. No base leads back to the type of a class. The way down and
the way up are therefore followed one after the other, and each of them ends because no class is
above itself. References are made by name, so this is first shown for links, and carries over to a
module whose names tell its declarations apart.

Main definitions and results:

* `TypeExpr.immediateReferences`, `Shape.immediateLinks` — what is referred to outside all fields;
* `WellFormed.wellFounded_leads` — following immediate links ends;
* `Generation.Mentions` — one declaration refers to another one immediately;
* `wellFounded_mentions` — no alias of a module is circular.
-/

namespace OntoTypes

mutual

/-- The names that a type refers to outside the fields of records. -/
def TypeExpr.immediateReferences : TypeExpr → List String
  | .reference name => [name]
  | .keyword _ | .literal _ | .record _ => []
  | .array element => element.immediateReferences
  | .union members | .intersection members => immediateMemberReferences members

/-- The names that some types refer to outside the fields of records. -/
def immediateMemberReferences : List TypeExpr → List String
  | [] => []
  | member :: members => member.immediateReferences ++ immediateMemberReferences members

end

/-- The names that a declaration refers to outside the fields of records. -/
def Declaration.immediateReferences : Declaration → List String
  | enumeration .. => []
  | typeAlias _ value _ _ => value.immediateReferences

mutual

/-- The links of a shape outside its records. -/
def Shape.immediateLinks : Shape → List Link
  | .link target => [target]
  | .keyword _ | .record _ => []
  | .union members | .intersection members => immediateMemberLinks members

/-- The links of some shapes outside their records. -/
def immediateMemberLinks : List Shape → List Link
  | [] => []
  | member :: members => member.immediateLinks ++ immediateMemberLinks members

end

/-- The recursion over members, as a list operation. -/
theorem immediateMemberLinks_eq_flatMap (members : List Shape) :
    immediateMemberLinks members = members.flatMap Shape.immediateLinks := by
  induction members with
  | nil => rfl
  | cons member members ih => rw [immediateMemberLinks, ih, List.flatMap_cons]

/-! ## Immediate links of shapes -/

namespace Shape

variable (registry : Registry)

mutual

/-- Links are written as references, in records and outside them. -/
theorem immediateReferences_erase : ∀ shape : Shape,
    (shape.erase registry).immediateReferences = shape.immediateLinks.map registry.linkName
  | .link _ | .keyword _ | .record _ => rfl
  | .union members => immediateReferences_eraseAll members
  | .intersection members => immediateReferences_eraseAll members

theorem immediateReferences_eraseAll : ∀ shapes : List Shape,
    immediateMemberReferences (eraseAll registry shapes) =
      (immediateMemberLinks shapes).map registry.linkName
  | [] => rfl
  | shape :: shapes => by
    rw [eraseAll, immediateMemberReferences, immediateMemberLinks, List.map_append,
      immediateReferences_erase shape, immediateReferences_eraseAll shapes]

end

/-- Immediate links are of the kind that all links of a shape are of. -/
theorem Within.immediateLinks {kind : Link → Prop} {shape : Shape} (h : shape.Within kind) :
    ∀ target ∈ shape.immediateLinks, kind target := by
  intro target htarget
  -- a record has no immediate links, and a union those of its members
  induction h with
  | link of_kind =>
    rw [List.mem_singleton.mp htarget]
    exact of_kind
  | keyword => cases htarget
  | record => cases htarget
  | union _ ih | intersection _ ih =>
    rw [Shape.immediateLinks, immediateMemberLinks_eq_flatMap] at htarget
    obtain ⟨member, hmember, htarget⟩ := List.mem_flatMap.mp htarget
    exact ih member hmember htarget

end Shape

namespace Registry

variable {registry : Registry} {settings : Settings} {c : ClassId} {node : ClassNode}

/-- The own fields of a class are those of a record, so a base leads to the bases of the parents and
nowhere else. -/
theorem immediateLinks_linkedBase (c : ClassId) (node : ClassNode) :
    (registry.linkedBase settings c node).immediateLinks = node.parents.map Link.base := by
  -- one link for each parent
  have hinherited : (node.parents.map fun p => Shape.link (.base p)).flatMap
      Shape.immediateLinks = node.parents.map Link.base := by
    rw [List.flatMap_map, List.map_eq_flatMap]
    rfl
  -- in whichever of its forms the base is written
  have hjoined : ∀ inherited entries, (Shape.joined inherited entries).immediateLinks =
      inherited.flatMap Shape.immediateLinks ++ (Shape.record entries).immediateLinks :=
    Shape.flatMap_joined rfl rfl immediateMemberLinks_eq_flatMap
  rw [linkedBase_eq_joined, hjoined, hinherited]
  exact List.append_nil _

/-- A closed type leads across to the base, and down to the types of the children. -/
theorem mem_immediateLinks_linkedClosed {target : Link}
    (h : target ∈ (registry.linkedClosed c node).immediateLinks) :
    target = .base c ∨ ∃ d ∈ node.children, target = .whole d := by
  rw [linkedClosed] at h
  split at h
  · exact Or.inl (List.mem_singleton.mp h)
  · -- beside the base there are the types of the children, in another order
    rw [Shape.immediateLinks, immediateMemberLinks_eq_flatMap, List.flatMap_cons,
      List.flatMap_map] at h
    rcases List.mem_append.mp h with h | h
    · exact Or.inl (List.mem_singleton.mp h)
    · obtain ⟨d, hd, h⟩ := List.mem_flatMap.mp h
      have hchild : d ∈ node.children := (Text.sortOn_perm ..).mem_iff.mp hd
      exact Or.inr ⟨d, hchild, List.mem_singleton.mp h⟩

/-- The type of a class leads across to its enumeration and its base, and down to the types of its
children. -/
theorem mem_immediateLinks_linkedTotal {target : Link}
    (h : target ∈ (registry.linkedTotal c node).immediateLinks) :
    target = .enumeration c ∨ target = .base c ∨ ∃ d ∈ node.children, target = .whole d := by
  rw [linkedTotal] at h
  split at h
  · exact Or.inr (mem_immediateLinks_linkedClosed h)
  · rw [Shape.immediateLinks, immediateMemberLinks_eq_flatMap, List.flatMap_cons,
      List.flatMap_singleton] at h
    rcases List.mem_append.mp h with h | h
    · exact Or.inl (List.mem_singleton.mp h)
    · exact Or.inr (mem_immediateLinks_linkedClosed h)

/-- A builtin data type leads to its enumeration at most, whatever is below it. -/
theorem mem_immediateLinks_linkedBuiltin {primitive : Primitive} {target : Link}
    (h : target ∈ (linkedBuiltin c node primitive).immediateLinks) : target = .enumeration c := by
  rw [linkedBuiltin] at h
  split at h
  · cases h
  · exact List.mem_singleton.mp h

/-! ## Following links -/

/-- One link leads immediately to another one. -/
def Leads (registry : Registry) (settings : Settings) (target next : Link) : Prop :=
  ∃ shape, registry.shapeOf settings target = some shape ∧ next ∈ shape.immediateLinks

/-- Following the immediate links of a link ends. -/
def Ends (registry : Registry) (settings : Settings) (target : Link) : Prop :=
  Acc (fun next target => registry.Leads settings target next) target

/-- From an enumeration there is nothing to follow. -/
theorem ends_enumeration (c : ClassId) : registry.Ends settings (.enumeration c) := by
  refine Acc.intro _ fun next hnext => ?_
  obtain ⟨shape, hleads, -⟩ := hnext
  cases hleads

namespace WellFormed

variable (h : registry.WellFormed)
include h

/-- From a base the way goes up, where it ends at the classes without parents. -/
theorem ends_base (c : ClassId) : registry.Ends settings (.base c) := by
  -- induction from the top of the hierarchy down
  induction c using induction_up h.parentsInRange h.acyclic with | step c ih
  refine Acc.intro _ fun next hnext => ?_
  obtain ⟨shape, hleads, hmem⟩ := hnext
  obtain ⟨node, hnode, rfl⟩ := Option.map_eq_some_iff.mp hleads
  cases hprimitive : node.primitive with
  | some primitive =>
    -- a data type leads to its enumeration at most
    rw [hprimitive] at hmem
    rw [mem_immediateLinks_linkedBuiltin hmem]
    exact ends_enumeration c
  | none =>
    rw [hprimitive] at hmem
    -- any other base leads to those of the parents
    dsimp only at hmem
    rw [immediateLinks_linkedBase] at hmem
    obtain ⟨p, hp, rfl⟩ := List.mem_map.mp hmem
    refine ih p ?_
    rwa [parents_of_node? hnode]

/-- From the type of a class the way goes down, and where it leaves for a base it goes up from
there. -/
theorem ends_whole (c : ClassId) : registry.Ends settings (.whole c) := by
  -- induction the other way, from the bottom up
  induction c using induction_down h.acyclic with | step c ih
  refine Acc.intro _ fun next hnext => ?_
  obtain ⟨shape, hleads, hmem⟩ := hnext
  obtain ⟨node, hnode, rfl⟩ := Option.map_eq_some_iff.mp hleads
  cases hprimitive : node.primitive with
  | some primitive =>
    rw [hprimitive] at hmem
    rw [mem_immediateLinks_linkedBuiltin hmem]
    exact ends_enumeration c
  | none =>
    rw [hprimitive] at hmem
    -- across to the enumeration, across to the base, or down to a child
    rcases mem_immediateLinks_linkedTotal hmem with rfl | rfl | ⟨d, hd, rfl⟩
    · exact ends_enumeration c
    · exact h.ends_base c
    · have hchild : registry.HasParent d c := by
        rwa [← h.mem_children_iff, children_of_node? hnode]
      exact ih d hchild

/-- **Following immediate links ends**, wherever it starts. -/
theorem wellFounded_leads :
    WellFounded fun next target => registry.Leads settings target next := by
  refine ⟨fun target => ?_⟩
  cases target with
  | base c => exact h.ends_base c
  | whole c => exact h.ends_whole c
  | enumeration c => exact ends_enumeration c

end WellFormed

/-! ## From links to declarations -/

/-- The declaration that a link is meant for: it has the name that the link is written as, and it
refers immediately to what the link leads to. -/
structure IsFor (registry : Registry) (settings : Settings) (target : Link)
    (declaration : Declaration) : Prop where
  name : declaration.name = registry.linkName target
  leads : ∀ name ∈ declaration.immediateReferences,
    ∃ next, registry.Leads settings target next ∧ registry.linkName next = name

/-- The alias that a link leads to is meant by it. -/
theorem isFor_typeAlias {target : Link} {shape : Shape}
    (hleads : registry.shapeOf settings target = some shape) (comment : Option String)
    (isExported : Bool) : registry.IsFor settings target
      (.typeAlias (registry.linkName target) (shape.erase registry) comment isExported) where
  name := rfl
  leads := by
    intro name hname
    rw [Declaration.immediateReferences, Shape.immediateReferences_erase] at hname
    obtain ⟨next, hnext, rfl⟩ := List.mem_map.mp hname
    exact ⟨next, ⟨shape, hleads, hnext⟩, rfl⟩

/-- An enumeration is meant by the link to it. -/
theorem isFor_enumerationOf {declaration : Declaration} (hnode : registry.node? c = some node)
    (hdeclaration : declaration ∈ enumerationOf node) :
    registry.IsFor settings (.enumeration c) declaration := by
  rw [enumerationOf] at hdeclaration
  split at hdeclaration
  · cases hdeclaration
  · obtain rfl := Option.some.inj hdeclaration
    refine { name := ?_, leads := ?_ }
    · rw [linkName, nameOf, subjectOf_eq hnode, Declaration.name]
    · simp [Declaration.immediateReferences]

/-- Each declaration of a class is meant by some link to the class. -/
theorem exists_isFor_of_mem {declaration : Declaration}
    (hmem : declaration ∈ registry.declarationsOf settings c) :
    ∃ target, target.owner = c ∧ registry.IsFor settings target declaration := by
  rw [declarationsOf] at hmem
  cases hnode : registry.node? c with
  | none =>
    rw [hnode] at hmem
    cases hmem
  | some node =>
    rw [hnode] at hmem
    rcases List.mem_append.mp hmem with henumeration | halias
    · exact ⟨.enumeration c, rfl, isFor_enumerationOf hnode (Option.mem_toList.mp henumeration)⟩
    · -- a builtin data type has one alias, any other class has two
      rw [aliasesOf] at halias
      cases hprimitive : node.primitive with
      | some primitive =>
        rw [hprimitive] at halias
        rw [List.mem_singleton.mp halias]
        exact ⟨.whole c, rfl,
          isFor_typeAlias (by rw [shapeOf, hnode, Option.map_some, hprimitive]) ..⟩
      | none =>
        rw [hprimitive] at halias
        rcases List.mem_pair.mp halias with rfl | rfl
        · exact ⟨.base c, rfl,
            isFor_typeAlias (by rw [shapeOf, hnode, Option.map_some, hprimitive]) ..⟩
        · exact ⟨.whole c, rfl,
            isFor_typeAlias (by rw [shapeOf, hnode, Option.map_some, hprimitive]) ..⟩

/-- Only registered classes have something emitted for them. -/
theorem registered_of_emitted {target : Link} (htarget : registry.Emitted target) :
    target.owner ∈ registry.registered := by
  cases target with
  | base c => exact htarget
  | whole c => exact htarget
  | enumeration c => exact htarget.1

namespace WellFormed

variable (h : registry.WellFormed)
include h

/-- What is linked to has a declaration that is meant by the link. -/
theorem exists_isFor {target : Link} (htarget : registry.Emitted target) :
    ∃ declaration ∈ registry.declarationsOf settings target.owner,
      registry.IsFor settings target declaration := by
  have halias : ∀ target, (registry.shapeOf settings target).isSome = true →
      ∃ declaration ∈ registry.declarationsOf settings target.owner,
        registry.IsFor settings target declaration := by
    -- what a link has a shape for is declared as an alias of that shape
    intro target hsome
    obtain ⟨shape, hleads⟩ := Option.isSome_iff_exists.mp hsome
    obtain ⟨comment, isExported, hmem⟩ := exists_mem_declarationsOf hleads
    exact ⟨_, hmem, isFor_typeAlias hleads comment isExported⟩
  -- bases and types have a shape, and enumerations are declared apart
  cases target with
  | base c => exact halias (.base c) (by simp [shapeOf, h.node?_nodeOf htarget])
  | whole c => exact halias (.whole c) (by simp [shapeOf, h.node?_nodeOf htarget])
  | enumeration c =>
    obtain ⟨hc, hmembers⟩ := htarget
    -- an enumeration that is linked to has members, so it is there
    have hnode := h.node?_nodeOf hc
    obtain ⟨declaration, hdeclaration⟩ : ∃ declaration,
        enumerationOf (registry.nodeOf c) = some declaration := by
      rw [enumerationOf, if_neg (Bool.eq_false_iff.mp hmembers)]
      exact ⟨_, rfl⟩
    refine ⟨declaration, ?_, isFor_enumerationOf hnode hdeclaration⟩
    rw [Link.owner, declarationsOf, hnode]
    exact List.mem_append_left _ (Option.mem_toList.mpr hdeclaration)

/-- What a registered class links to is emitted. -/
theorem emitted_of_leads {target next : Link} (howner : target.owner ∈ registry.registered)
    (hnext : registry.Leads settings target next) : registry.Emitted next := by
  obtain ⟨shape, hleads, hmem⟩ := hnext
  -- it is enough that all links of the shape are of this kind
  suffices hwithin : shape.Within registry.Emitted from hwithin.immediateLinks next hmem
  cases target with
  | base c =>
    obtain ⟨node, hnode, rfl⟩ := Option.map_eq_some_iff.mp hleads
    cases hprimitive : node.primitive with
    | some primitive => exact within_linkedBuiltin howner hnode primitive
    | none => exact h.within_linkedBase hnode
  | whole c =>
    obtain ⟨node, hnode, rfl⟩ := Option.map_eq_some_iff.mp hleads
    cases hprimitive : node.primitive with
    | some primitive => exact within_linkedBuiltin howner hnode primitive
    | none => exact h.within_linkedTotal howner hnode
  | enumeration c => cases hleads

end WellFormed

end Registry

/-! ## The module of some topics -/

/-- One declaration of a module refers to another one outside the fields of records. -/
def Generation.Mentions (g : Generation) (declaration next : Declaration) : Prop :=
  declaration ∈ g.groups.flatten ∧ next ∈ g.groups.flatten ∧
    next.name ∈ declaration.immediateReferences

/-- Whatever declaration a link is meant for, its references are followed in step with the link. -/
theorem acc_mentions {settings : Settings} {topics : List Topic}
    (hadmissible : Admissible settings topics)
    (hnames : ((generation settings topics).groups.flatten.map Declaration.name).Nodup)
    {target : Link} (howner : target.owner ∈ (hierarchy settings topics).registered)
    {declaration : Declaration}
    (hfor : (hierarchy settings topics).IsFor settings target declaration) :
    Acc (fun next declaration => (generation settings topics).Mentions declaration next)
      declaration := by
  have hwf := Registry.wellFormed_hierarchy hadmissible
  have hends : (hierarchy settings topics).Ends settings target :=
    hwf.wellFounded_leads.apply target
  -- induction on what the link leads to, for all declarations that it may be meant for
  induction hends generalizing declaration with
  | intro target _ ih =>
    refine Acc.intro _ fun next hmentions => ?_
    obtain ⟨-, hnext, hname⟩ := hmentions
    obtain ⟨link, hleads, hlink⟩ := hfor.leads next.name hname
    -- the name is that of one declaration only, which is the one that the link is meant for
    have hemitted := hwf.emitted_of_leads howner hleads
    have hregistered := Registry.registered_of_emitted hemitted
    obtain ⟨other, hother, hotherFor⟩ : ∃ other ∈ (hierarchy settings topics).declarationsOf
        settings link.owner, (hierarchy settings topics).IsFor settings link other :=
      hwf.exists_isFor hemitted
    have hmem : other ∈ (generation settings topics).groups.flatten :=
      List.mem_flatten_of_mem (declarationsOf_mem_groups hregistered) hother
    have hsame : other.name = next.name := hotherFor.name.trans hlink
    obtain rfl : other = next := List.inj_on_of_nodup_map hnames hmem hnext hsame
    exact ih link hleads hregistered hotherFor

/-- **No alias is circular.** In a module whose declarations have different names, following the
references from one declaration to another ends wherever it starts, as long as those in the fields
of records are left alone.

The hypothesis is on names: a reference is followed to a declaration that has the name, and with two
of one name it might go on with the wrong one. -/
theorem wellFounded_mentions {settings : Settings} {topics : List Topic} {g : Generation}
    (hg : (generate settings topics).outcome = .ok g)
    (hnames : (g.groups.flatten.map Declaration.name).Nodup) :
    WellFounded fun next declaration => g.Mentions declaration next := by
  obtain ⟨hadmissible, rfl⟩ := outcome_generate_eq_ok_iff.mp hg
  refine ⟨fun declaration => ?_⟩
  by_cases hmem : declaration ∈ (generation settings topics).groups.flatten
  · -- what is declared is meant by some link to a registered class
    rw [generation, ← List.flatMap_def, List.mem_flatMap] at hmem
    obtain ⟨c, hc, hmem⟩ := hmem
    obtain ⟨target, rfl, hfor⟩ := Registry.exists_isFor_of_mem hmem
    exact acc_mentions hadmissible hnames (Registry.mem_emissionOrder.mp hc) hfor
  · exact Acc.intro _ fun next hmentions => absurd hmentions.1 hmem

/-- Bringing the classes into order rearranges the names of a module. -/
theorem names_perm (settings : Settings) (topics : List Topic) :
    ((generation settings topics).groups.flatten.map Declaration.name).Perm
      ((hierarchy settings topics).registered.flatMap fun c =>
        ((hierarchy settings topics).declarationsOf settings c).map Declaration.name) := by
  have hperm : (hierarchy settings topics).emissionOrder.Perm
      (hierarchy settings topics).registered := Text.sortOn_perm ..
  rw [generation, ← List.flatMap_def, List.map_flatMap]
  exact hperm.flatMap_right _

/-- The names of a module can be told apart before the classes are brought into order. -/
theorem nodup_names_iff {settings : Settings} {topics : List Topic} :
    ((generation settings topics).groups.flatten.map Declaration.name).Nodup ↔
      ((hierarchy settings topics).registered.flatMap fun c =>
        ((hierarchy settings topics).declarationsOf settings c).map Declaration.name).Nodup :=
  (names_perm settings topics).nodup_iff

/-- The type of a class with a member and a parent leads to its enumeration, across to its base, up
to the base of the parent and no further, though a property of the parent ranges over the class. -/
theorem wellFounded_mentions_directions :
    ∃ g, (generate {} directions).outcome = .ok g ∧
      (g.groups.flatten.map Declaration.name).Nodup ∧
      (WellFounded fun next declaration => g.Mentions declaration next) ∧
      ∃ declaration ∈ g.groups.flatten, declaration.name = "Direction" ∧
        ∃ next, g.Mentions declaration next ∧ next.name = "DirectionBase" := by
  have hg : (generate {} directions).outcome = .ok (generation {} directions) :=
    outcome_generate_eq_ok_iff.mpr ⟨admissible_directions, rfl⟩
  have hnames : ((generation {} directions).groups.flatten.map Declaration.name).Nodup := by
    rw [nodup_names_iff]
    decide
  have hclass : classOf {} directions "http://schema.org/Direction" = some 6 := by decide
  have hregistered : 6 ∈ (hierarchy {} directions).registered :=
    Registry.mem_registered_iff.mpr ⟨_, hclass⟩
  -- both links of the class lead to an alias, and the aliases are declared
  have hmem : ∀ target shape, target.owner = 6 →
      (hierarchy {} directions).shapeOf {} target = some shape →
        ∃ comment isExported, .typeAlias ((hierarchy {} directions).linkName target)
          (shape.erase (hierarchy {} directions)) comment isExported ∈
            (generation {} directions).groups.flatten := by
    intro target shape howner hleads
    obtain ⟨comment, isExported, hmem⟩ := Registry.exists_mem_declarationsOf hleads
    rw [howner] at hmem
    exact ⟨comment, isExported,
      List.mem_flatten_of_mem (declarationsOf_mem_groups hregistered) hmem⟩
  have hwhole : ((hierarchy {} directions).shapeOf {} (.whole 6)).map
      (fun shape => (shape.erase (hierarchy {} directions)).immediateReferences) =
        some ["DirectionEnum", "DirectionBase"] := by decide
  have hbase : ((hierarchy {} directions).shapeOf {} (.base 6)).isSome = true := by decide
  -- the two declarations, and what the first one refers to
  obtain ⟨shape, hleads, hreferences⟩ := Option.map_eq_some_iff.mp hwhole
  obtain ⟨base, hleadsBase⟩ := Option.isSome_iff_exists.mp hbase
  obtain ⟨comment, isExported, hpublic⟩ := hmem (.whole 6) shape rfl hleads
  obtain ⟨baseComment, baseIsExported, hdeclared⟩ := hmem (.base 6) base rfl hleadsBase
  have hname : (hierarchy {} directions).linkName (.whole 6) = "Direction" := by decide
  have hbaseName : (hierarchy {} directions).linkName (.base 6) = "DirectionBase" := by decide
  refine ⟨_, hg, hnames, wellFounded_mentions hg hnames, _, hpublic, hname, _,
    ⟨hpublic, hdeclared, ?_⟩, hbaseName⟩
  rw [Declaration.name, hbaseName, Declaration.immediateReferences, hreferences]
  exact List.mem_cons_of_mem _ (List.mem_singleton_self _)

end OntoTypes
