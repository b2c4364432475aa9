import OntoTypes.Proofs.Expansion

/-!
# Classes below builtin data types

A class below a builtin data type stands for a primitive, and a primitive has no field by which it
could be told from others. Of the two places where a distinguishing field is made only one looks at
that: the own record of a class has the field if the class is a leaf, and what is below a builtin
data type is no leaf. The public type of a class with children sets the class itself beside them,
marked by the field, whatever is above it.

Main definitions and results:

* `Declaration.discriminants` — the distinguishing fields of a declaration, at any depth;
* `Registry.discriminants_of_mem` — which declarations of a class have one;
* `discriminants_belowBuiltin` — below a builtin data type, the public types of classes with
  children do, and nothing else does.
-/

namespace OntoTypes

/-- The texts of the distinguishing fields in a declaration. -/
def Declaration.discriminants : Declaration → List String
  | enumeration .. => []
  | typeAlias _ value _ _ => value.discriminants

namespace Registry

variable {registry : Registry} {settings : Settings} {c : ClassId} {node : ClassNode}

/-- What is inherited is referred to, so a base has the distinguishing field of its own record. -/
theorem discriminants_linkedBase (c : ClassId) (node : ClassNode) :
    (registry.linkedBase settings c node).discriminants registry =
      if registry.isLeaf c then [(registry.subjectOf c).readableName] else [] := by
  -- a link to a base has no fields of its own
  have hparents : (node.parents.map fun p => Shape.link (.base p)).flatMap
      (Shape.discriminants registry) = [] := by
    rw [List.flatMap_map]
    exact List.flatMap_eq_nil_iff.mpr fun _ _ => rfl
  rw [linkedBase_eq_joined, discriminants_joined, hparents, List.nil_append,
    discriminants_ownEntries]

/-- Beside its children a class is told from them, and by itself it is only referred to. -/
theorem discriminants_linkedClosed (c : ClassId) (node : ClassNode) :
    (registry.linkedClosed c node).discriminants registry =
      if node.children.isEmpty then [] else [(registry.subjectOf c).readableName] := by
  rw [linkedClosed]
  split
  · rfl
  · -- the children are links, so the class itself is the only record
    have hchildren : ((registry.sortedChildren node).map fun d => Shape.link (.whole d)).flatMap
        (Shape.discriminants registry) = [] := by
      rw [List.flatMap_map]
      exact List.flatMap_eq_nil_iff.mpr fun _ _ => rfl
    rw [discriminants_union, List.flatMap_cons, hchildren, List.append_nil,
      discriminants_marked c rfl]

/-- The public type adds an enumeration to that, if there is one. An enumeration tells nothing
apart. -/
theorem discriminants_linkedTotal (c : ClassId) (node : ClassNode) :
    (registry.linkedTotal c node).discriminants registry =
      if node.children.isEmpty then [] else [(registry.subjectOf c).readableName] := by
  rw [linkedTotal, ← discriminants_linkedClosed c node]
  split
  · rfl
  · rw [discriminants_union, List.flatMap_cons, List.flatMap_singleton]
    rfl

/-- The type of a class is not called like its base or its enumeration. -/
theorem append_ne_nameOf (c : ClassId) {suffix : String} (hsuffix : suffix ≠ "") :
    registry.nameOf c ++ suffix ≠ registry.nameOf c := by
  simpa using hsuffix

/-- Of the declarations of a class that is neither builtin nor a leaf, none but the public type has
a distinguishing field, and that only beside children. -/
theorem discriminants_of_mem (hnode : registry.node? c = some node)
    (hb : registry.isBuiltin c = false) (hleaf : registry.isLeaf c = false)
    {declaration : Declaration} (hmem : declaration ∈ registry.declarationsOf settings c) :
    declaration.discriminants =
      if declaration.name = registry.linkName (.whole c) ∧ registry.children c ≠ [] then
        [(registry.subjectOf c).readableName]
      else [] := by
  rw [declarationsOf, hnode] at hmem
  rcases List.mem_append.mp hmem with henumeration | halias
  · -- an enumeration has another name and no fields
    have hname : declaration.name = registry.nameOf c ++ "Enum" ∧
        declaration.discriminants = [] := by
      rw [enumerationOf] at henumeration
      split at henumeration
      · cases henumeration
      · obtain rfl := List.mem_singleton.mp henumeration
        exact ⟨by rw [nameOf, subjectOf_eq hnode, Declaration.name], rfl⟩
    rw [hname.2, hname.1, linkName, if_neg]
    exact fun hname => append_ne_nameOf c (by decide) hname.1
  · rw [aliasesOf, primitive_eq_none_of_node? hnode hb] at halias
    rcases List.mem_pair.mp halias with rfl | rfl
    · -- the base has another name, too, and its record has the field of a leaf only
      have hbase : registry.linkName (.base c) = registry.nameOf c ++ "Base" := by
        rw [linkName, hb]
        rfl
      rw [Declaration.name, hbase, linkName, if_neg]
      · exact (discriminants_linkedBase c node).trans (by rw [hleaf]; rfl)
      · exact fun hname => append_ne_nameOf c (by decide) hname.1
    · -- the public type is the one that is told from its children
      rw [children_of_node? hnode, Declaration.name]
      refine (discriminants_linkedTotal c node).trans ?_
      cases node.children <;> simp

end Registry

/-- **Which declarations below a builtin data type have a distinguishing field.** Take a class that
has a builtin data type among its ancestors. In the declarations that are emitted for it there is no
distinguishing field, at any depth, except that the public type of a class with children has a
single one, which holds the local name of the class. So there is none at all exactly if the class
has no children.

The base of such a class has no field because the class is no leaf; the record that stands beside
the children is made by another function, which does not ask what is above the class. -/
theorem discriminants_belowBuiltin {settings : Settings} {topics : List Topic} {g : Generation}
    {registry : Registry} {b c : ClassId}
    (hg : (generate settings topics).outcome = .ok g)
    (hregistry : (registryOf settings topics).outcome = .ok registry)
    (hc : c ∈ registry.registered) (hb : b ∈ registry.ancestors c)
    (hbuiltin : registry.isBuiltin b = true) :
    ∃ group ∈ g.groups, registry.declarations settings c = .ok group ∧
      (∀ declaration ∈ group, declaration.discriminants =
        if declaration.name = registry.linkName (.whole c) ∧ registry.children c ≠ [] then
          [Text.localName (registry.subjectText c)]
        else []) ∧
      ((∀ declaration ∈ group, declaration.discriminants = []) ↔ registry.children c = []) := by
  obtain ⟨hadmissible, rfl⟩ := outcome_registryOf_eq_ok_iff.mp hregistry
  obtain ⟨-, rfl⟩ := outcome_generate_eq_ok_iff.mp hg
  have hwf := Registry.wellFormed_hierarchy hadmissible
  rw [Registry.mem_ancestors hwf.parentsInRange] at hb
  obtain ⟨node, hnode, -⟩ := hwf.named c hc
  -- a class below a data type is neither builtin nor a leaf
  have hdiscriminants : ∀ declaration ∈ (hierarchy settings topics).declarationsOf settings c,
      declaration.discriminants = _ := fun declaration hmem =>
    Registry.discriminants_of_mem hnode (hwf.isBuiltin_of_hasAncestor hb)
      (hwf.isLeaf_of_belowBuiltin hb hbuiltin) hmem
  rw [hwf.readableName_subjectOf hc] at hdiscriminants
  refine ⟨_, declarationsOf_mem_groups hc, hwf.declarations_eq hc, hdiscriminants, ?_, ?_⟩
  · -- the public type is there, so it shows whether there are children
    intro hnone
    have hleads : (hierarchy settings topics).shapeOf settings (.whole c) = some _ :=
      Registry.shapeOf_whole_of_node? hnode (hwf.isBuiltin_of_hasAncestor hb)
    obtain ⟨comment, isExported, hmem⟩ := Registry.exists_mem_declarationsOf hleads
    by_contra hchildren
    have hpublic := hdiscriminants _ hmem
    rw [hnone _ hmem, if_pos ⟨rfl, hchildren⟩] at hpublic
    cases hpublic
  · intro hchildren declaration hmem
    rw [hdiscriminants declaration hmem, if_neg fun hpublic => hpublic.2 hchildren]

/-- A class below a builtin data type, and a class below that. -/
def urls : List Topic := [
  { subject := .iri "http://schema.org/URL", types := [.iri classType],
    values := [⟨.known .subClassOf, .iri "http://schema.org/Text"⟩] },
  { subject := .iri "http://schema.org/ImageURL", types := [.iri classType],
    values := [⟨.known .subClassOf, .iri "http://schema.org/URL"⟩] }]

theorem admissible_urls : Admissible {} urls where
  nonempty := by decide
  nameable := by decide
  classes := by decide
  acyclic := acyclic_of_rank (fun identifier => if identifier = "http://schema.org/ImageURL" then 2
    else if identifier = "http://schema.org/URL" then 1 else 0) (by decide)
  properties := by decide
  members := by
    have hmembers : ∀ topic ∈ urls, ∀ tag ∈ topic.memberTag?,
        IsDeclared "http://schema.org/" urls tag.text := by decide
    exact hmembers

/-- The public type of the upper class has a distinguishing field, though it stands for a text. -/
theorem discriminants_belowBuiltin_url :
    ∃ g, (generate {} urls).outcome = .ok g ∧
      ∃ text url, classOf {} urls "http://schema.org/Text" = some text ∧
        classOf {} urls "http://schema.org/URL" = some url ∧
        text ∈ (hierarchy {} urls).ancestors url ∧ (hierarchy {} urls).isBuiltin text = true ∧
        ∃ group ∈ g.groups, (hierarchy {} urls).declarations {} url = .ok group ∧
          ∃ declaration ∈ group, declaration.name = "URL" ∧
            declaration.discriminants = ["URL"] := by
  have hg : (generate {} urls).outcome = .ok (generation {} urls) :=
    outcome_generate_eq_ok_iff.mpr ⟨admissible_urls, rfl⟩
  have htext : classOf {} urls "http://schema.org/Text" = some 0 := by decide
  have hurl : classOf {} urls "http://schema.org/URL" = some 6 := by decide
  have hbuiltin : (hierarchy {} urls).isBuiltin 0 = true := by
    rw [Registry.isBuiltin_hierarchy_iff htext]
    decide
  have habove : 0 ∈ (hierarchy {} urls).ancestors 6 := by
    rw [Registry.mem_ancestors (Registry.wellFormed_hierarchy admissible_urls).parentsInRange]
    exact .single (by decide : 0 ∈ (hierarchy {} urls).parents 6)
  obtain ⟨group, hgroup, hdeclarations, hdiscriminants, hiff⟩ := discriminants_belowBuiltin hg
    (outcome_registryOf_eq_ok_iff.mpr ⟨admissible_urls, rfl⟩)
    (Registry.mem_registered_iff.mpr ⟨_, hurl⟩) habove hbuiltin
  -- the class has a child, so one of its declarations has a distinguishing field, and it can only
  -- be the public type
  have hchildren : (hierarchy {} urls).children 6 ≠ [] := by decide
  obtain ⟨declaration, hmem, hsome⟩ : ∃ declaration ∈ group, declaration.discriminants ≠ [] := by
    simpa using mt hiff.mp hchildren
  have hpublic := hdiscriminants declaration hmem
  split at hpublic
  · rename_i hname
    refine ⟨_, hg, 0, 6, htext, hurl, habove, hbuiltin, group, hgroup, hdeclarations, declaration,
      hmem, hname.1.trans ?_, hpublic.trans ?_⟩
    · decide
    · decide
  · exact absurd hpublic hsome

end OntoTypes
