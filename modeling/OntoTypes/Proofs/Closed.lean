import OntoTypes.Proofs.Expansion

/-!
# Closed modules

Declarations refer to one another by name, from five places: a class refers to the bases of its
parents, to its own base, to the types of its children, to the types that its properties range over,
and to the enumeration of its members. No name is left without a declaration, since every class that
is referred to is registered, every registered class is declared, and an enumeration is referred to
only where there are members.

Main definitions and results:

* `TypeExpr.references`, `Declaration.references` — the names that a declaration refers to;
* `Shape.Within` — shapes all of whose links are of some kind;
* `Registry.Emitted` — the links to what is declared;
* `WellFormed.within_linkedBase`, `WellFormed.within_linkedTotal` — classes link to nothing else;
* `exists_declaration_of_reference` — what a module refers to, it declares.
-/

namespace OntoTypes

mutual

/-- The names that a type refers to, at any depth. -/
def TypeExpr.references : TypeExpr → List String
  | .reference name => [name]
  | .keyword _ | .literal _ => []
  | .array element => element.references
  | .union members => memberReferences members
  | .intersection members => memberReferences members
  | .record fields => fieldReferences fields

/-- The names that some types refer to. -/
def memberReferences : List TypeExpr → List String
  | [] => []
  | member :: members => member.references ++ memberReferences members

/-- The names that the types of some fields refer to. -/
def fieldReferences : List Field → List String
  | [] => []
  | field :: fields => field.references ++ fieldReferences fields

/-- The names that the type of a field refers to. -/
def Field.references : Field → List String
  | .mk _ value _ _ => value.references

end

/-- The names that a declaration refers to. -/
def Declaration.references : Declaration → List String
  | enumeration .. => []
  | typeAlias _ value _ _ => value.references

/-- The recursion over members, as a list operation. -/
theorem memberReferences_eq_flatMap (members : List TypeExpr) :
    memberReferences members = members.flatMap TypeExpr.references := by
  induction members with
  | nil => rfl
  | cons member members ih => rw [memberReferences, ih, List.flatMap_cons]

/-- The recursion over fields, likewise. -/
theorem fieldReferences_eq_flatMap (fields : List Field) :
    fieldReferences fields = fields.flatMap Field.references := by
  induction fields with
  | nil => rfl
  | cons field fields ih => rw [fieldReferences, ih, List.flatMap_cons]

/-! ## Links of shapes -/

/-- Shapes all of whose links, at any depth, are of some kind. -/
inductive Shape.Within (kind : Link → Prop) : Shape → Prop where
  | link {target : Link} (of_kind : kind target) : Within kind (.link target)
  | keyword (name : String) : Within kind (.keyword name)
  | record {entries : List Entry}
      (range : ∀ property, Entry.property property ∈ entries →
        ∀ c ∈ property.range, kind (.whole c)) : Within kind (.record entries)
  | union {members : List Shape} (inside : ∀ member ∈ members, Within kind member) :
      Within kind (.union members)
  | intersection {members : List Shape} (inside : ∀ member ∈ members, Within kind member) :
      Within kind (.intersection members)

namespace Shape

variable {kind : Link → Prop}

/-- For shapes with two parts. -/
theorem within_pair {a b : Shape} (ha : a.Within kind) (hb : b.Within kind) :
    ∀ member ∈ [a, b], member.Within kind :=
  List.forall_mem_cons.mpr ⟨ha, List.forall_mem_singleton.mpr hb⟩

/-- What is joined of shapes of a kind is of that kind, in each of its forms. -/
theorem within_joined {inherited : List Shape} {entries : List Entry}
    (h : ∀ shape ∈ inherited, shape.Within kind) (hown : (record entries).Within kind) :
    (joined inherited entries).Within kind := by
  match inherited, entries with
  | [], [] => exact .keyword "never"
  | [], _ :: _ => exact hown
  | [only], [] => exact h only (List.mem_singleton_self only)
  | [only], _ :: _ =>
    exact .intersection (within_pair (h only (List.mem_singleton_self only)) hown)
  | _ :: _ :: _, [] => exact .intersection h
  | _ :: _ :: _, _ :: _ => exact .intersection (within_pair (.intersection h) hown)

/-- What some shapes refer to, one of them does. -/
theorem mem_memberReferences_eraseAll {registry : Registry} {members : List Shape}
    {name : String} (h : name ∈ memberReferences (eraseAll registry members)) :
    ∃ member ∈ members, name ∈ (member.erase registry).references := by
  rw [memberReferences_eq_flatMap, eraseAll_eq_map, List.flatMap_map] at h
  exact List.mem_flatMap.mp h

end Shape

namespace Registry

variable {registry : Registry} {settings : Settings}

/-- The field for a property refers to the types that the property ranges over. -/
theorem mem_references_fieldOf {property : PropertyNode} {name : String}
    (h : name ∈ (registry.fieldOf property).references) :
    ∃ c ∈ property.range, registry.linkName (.whole c) = name := by
  -- no class, one class or a union of classes
  have hscalar : ∀ ids : List ClassId,
      name ∈ (TypeExpr.unionOf (ids.map fun c => .reference (registry.nameOf c))).references →
        ∃ c ∈ ids, registry.linkName (.whole c) = name := by
    intro ids hname
    match ids with
    | [] => cases hname
    | [c] => exact ⟨c, List.mem_singleton_self c, (List.mem_singleton.mp hname).symm⟩
    | c :: d :: ids =>
      have hunion : name ∈ memberReferences
          ((c :: d :: ids).map fun c => .reference (registry.nameOf c)) := hname
      rw [memberReferences_eq_flatMap, List.flatMap_map] at hunion
      obtain ⟨e, he, hname⟩ := List.mem_flatMap.mp hunion
      exact ⟨e, he, (List.mem_singleton.mp hname).symm⟩
  -- a field of several values refers to the same types twice
  rw [fieldOf, Field.references, fieldType] at h
  split at h
  · exact hscalar property.range h
  · simp only [TypeExpr.references, memberReferences, List.append_nil, List.mem_append,
      or_self] at h
    exact hscalar property.range h

/-- A shape refers to what its links are written as. -/
theorem mem_references_erase {kind : Link → Prop} {shape : Shape} (h : shape.Within kind)
    {name : String} (hname : name ∈ (shape.erase registry).references) :
    ∃ target, kind target ∧ registry.linkName target = name := by
  -- following how the shape is made
  induction h with
  | link of_kind => exact ⟨_, of_kind, (List.mem_singleton.mp hname).symm⟩
  | keyword => cases hname
  | record range =>
    -- a record refers to something in the field of a property
    rw [Shape.erase, TypeExpr.references, fieldReferences_eq_flatMap, List.flatMap_map] at hname
    obtain ⟨entry, hentry, hname⟩ := List.mem_flatMap.mp hname
    cases entry with
    | discriminant c => cases hname
    | property property =>
      obtain ⟨c, hc, hname⟩ := mem_references_fieldOf hname
      exact ⟨.whole c, range property hentry c hc, hname⟩
  | union _ ih =>
    rw [Shape.erase, TypeExpr.references] at hname
    obtain ⟨member, hmember, hname⟩ := Shape.mem_memberReferences_eraseAll hname
    exact ih member hmember hname
  | intersection _ ih =>
    rw [Shape.erase, TypeExpr.references] at hname
    obtain ⟨member, hmember, hname⟩ := Shape.mem_memberReferences_eraseAll hname
    exact ih member hmember hname

/-! ## Links to what is declared -/

/-- The links to what is declared: to registered classes, and to enumerations that are not
empty. -/
def Emitted (registry : Registry) : Link → Prop
  | .base c | .whole c => c ∈ registry.registered
  | .enumeration c => c ∈ registry.registered ∧ (registry.nodeOf c).members.isEmpty = false

/-- A name under which something is declared. -/
def Declares (registry : Registry) (settings : Settings) (name : String) : Prop :=
  ∃ c ∈ registry.registered, ∃ declaration ∈ registry.declarationsOf settings c,
    declaration.name = name

variable {c : ClassId} {node : ClassNode}

/-- A builtin data type links to its enumeration only if it has members. -/
theorem within_linkedBuiltin (hc : c ∈ registry.registered) (hnode : registry.node? c = some node)
    (primitive : Primitive) : (linkedBuiltin c node primitive).Within registry.Emitted := by
  rw [linkedBuiltin]
  split
  · exact .keyword primitive.target
  · rename_i hmembers
    refine .union (Shape.within_pair (.link ⟨hc, ?_⟩) (.keyword primitive.target))
    rw [nodeOf_eq hnode]
    exact Bool.eq_false_iff.mpr hmembers

namespace WellFormed

variable (h : registry.WellFormed)
include h

/-- What is linked to is declared. -/
theorem declares_linkName {target : Link} (htarget : registry.Emitted target) :
    registry.Declares settings (registry.linkName target) := by
  -- what a link has a shape for is declared as an alias
  have halias : ∀ target, target.owner ∈ registry.registered →
      (registry.shapeOf settings target).isSome = true →
        registry.Declares settings (registry.linkName target) := by
    intro target howner hsome
    obtain ⟨shape, hleads⟩ := Option.isSome_iff_exists.mp hsome
    obtain ⟨comment, isExported, hmem⟩ := exists_mem_declarationsOf hleads
    exact ⟨target.owner, howner, _, hmem, rfl⟩
  cases target with
  | base c => exact halias (.base c) htarget (by simp [shapeOf, h.node?_nodeOf htarget])
  | whole c => exact halias (.whole c) htarget (by simp [shapeOf, h.node?_nodeOf htarget])
  | enumeration c =>
    -- an enumeration with members is declared beside the aliases
    obtain ⟨hc, hmembers⟩ := htarget
    obtain ⟨declaration, hdeclaration, hname⟩ : ∃ declaration ∈ enumerationOf (registry.nodeOf c),
        declaration.name = registry.linkName (.enumeration c) := by
      rw [enumerationOf, if_neg (Bool.eq_false_iff.mp hmembers)]
      exact ⟨_, rfl, by rw [Declaration.name, linkName, nameOf, subject_nodeOf]⟩
    refine ⟨c, hc, declaration, ?_, hname⟩
    rw [declarationsOf, h.node?_nodeOf hc]
    exact List.mem_append_left _ (Option.mem_toList.mpr hdeclaration)

/-- The own record of a class links to what its properties range over. -/
theorem within_ownEntries (node : ClassNode) :
    (Shape.record (registry.ownEntries settings c node)).Within registry.Emitted := by
  refine .record fun property hproperty d hd => ?_
  -- what is shown of the properties is recorded
  have hshown : property ∈ registry.shownProperties settings node := by
    unfold ownEntries at hproperty
    split at hproperty <;> simpa using hproperty
  exact h.range property (shown_recorded hshown) d hd

/-- The base of a class links to the bases of its parents and to what its properties range over. -/
theorem within_linkedBase (hnode : registry.node? c = some node) :
    (registry.linkedBase settings c node).Within registry.Emitted := by
  -- parents are registered
  have hparents : ∀ shape ∈ node.parents.map fun p => Shape.link (.base p),
      shape.Within registry.Emitted := by
    intro shape hshape
    obtain ⟨p, hp, rfl⟩ := List.mem_map.mp hshape
    rw [← parents_of_node? hnode] at hp
    exact .link (h.edge c p hp).2
  rw [linkedBase_eq_joined]
  exact Shape.within_joined hparents (h.within_ownEntries node)

/-- The closed type of a class links to its base and to the types of its children. -/
theorem within_linkedClosed (hc : c ∈ registry.registered) (hnode : registry.node? c = some node) :
    (registry.linkedClosed c node).Within registry.Emitted := by
  have hbase : (Shape.link (.base c)).Within registry.Emitted := .link hc
  rw [linkedClosed]
  split
  · exact hbase
  · -- the class itself, told from its children by a field that refers to nothing
    have hitself : (Shape.intersection [.record [.discriminant c], .link (.base c)]).Within
        registry.Emitted := by
      refine .intersection (Shape.within_pair (.record fun property hproperty => ?_) hbase)
      simp at hproperty
    refine .union (List.forall_mem_cons.mpr ⟨hitself, fun shape hshape => ?_⟩)
    obtain ⟨d, hd, rfl⟩ := List.mem_map.mp hshape
    -- children are registered as well
    have hchild : d ∈ node.children := (Text.sortOn_perm ..).mem_iff.mp hd
    rw [← children_of_node? hnode, h.mem_children_iff] at hchild
    exact .link (h.edge d c hchild).1

/-- The type of a class links to its enumeration only if the class has members. -/
theorem within_linkedTotal (hc : c ∈ registry.registered) (hnode : registry.node? c = some node) :
    (registry.linkedTotal c node).Within registry.Emitted := by
  have hclosed := h.within_linkedClosed hc hnode
  rw [linkedTotal]
  split
  · exact hclosed
  · rename_i hmembers
    refine .union (Shape.within_pair (.link ⟨hc, ?_⟩) hclosed)
    rw [nodeOf_eq hnode]
    exact Bool.eq_false_iff.mpr hmembers

/-- **What the declarations of a class refer to is declared.** -/
theorem declares_of_mem_references (hc : c ∈ registry.registered) {declaration : Declaration}
    (hdeclaration : declaration ∈ registry.declarationsOf settings c) {name : String}
    (hname : name ∈ declaration.references) : registry.Declares settings name := by
  have hnode := h.node?_nodeOf hc
  -- each alias is written from a shape, whose links are all declared
  suffices hwithin : ∃ shape : Shape, shape.Within registry.Emitted ∧
      name ∈ (shape.erase registry).references by
    obtain ⟨shape, hshape, hname⟩ := hwithin
    obtain ⟨target, htarget, rfl⟩ := mem_references_erase hshape hname
    exact h.declares_linkName htarget
  rw [declarationsOf, hnode] at hdeclaration
  rcases List.mem_append.mp hdeclaration with henumeration | halias
  · -- an enumeration refers to nothing
    rw [enumerationOf] at henumeration
    split at henumeration
    · cases henumeration
    · obtain rfl := List.mem_singleton.mp henumeration
      cases hname
  · -- a data type has one alias, any other class a base and a type
    rw [aliasesOf] at halias
    cases hprimitive : (registry.nodeOf c).primitive with
    | some primitive =>
      rw [hprimitive] at halias
      obtain rfl := List.mem_singleton.mp halias
      exact ⟨_, within_linkedBuiltin hc hnode primitive, hname⟩
    | none =>
      rw [hprimitive] at halias
      rcases List.mem_pair.mp halias with rfl | rfl
      · exact ⟨_, h.within_linkedBase hnode, hname⟩
      · exact ⟨_, h.within_linkedTotal hc hnode, hname⟩

end WellFormed

end Registry

/-! ## The module of some topics -/

/-- **Modules are closed**: whatever a declaration refers to, at any depth, is the name of a
declaration of the same module. There is nothing that the module is asked for but to have been
generated, since topics that refer to something undeclared make the run fail. -/
theorem exists_declaration_of_reference {settings : Settings} {topics : List Topic} {g : Generation}
    (hg : (generate settings topics).outcome = .ok g) :
    ∀ declaration ∈ g.groups.flatten, ∀ name ∈ declaration.references,
      ∃ target ∈ g.groups.flatten, target.name = name := by
  obtain ⟨hadmissible, rfl⟩ := outcome_generate_eq_ok_iff.mp hg
  have hwf := Registry.wellFormed_hierarchy hadmissible
  -- the declarations of a module are those of registered classes
  have hmem : ∀ declaration, declaration ∈ (generation settings topics).groups.flatten ↔
      ∃ c ∈ (hierarchy settings topics).registered,
        declaration ∈ (hierarchy settings topics).declarationsOf settings c := by
    intro declaration
    rw [generation, ← List.flatMap_def, List.mem_flatMap]
    simp only [Registry.mem_emissionOrder]
  intro declaration hdeclaration name hname
  obtain ⟨c, hc, hdeclaration⟩ := (hmem declaration).mp hdeclaration
  obtain ⟨d, hd, target, htarget, hname⟩ := hwf.declares_of_mem_references hc hdeclaration hname
  exact ⟨target, (hmem target).mpr ⟨d, hd, htarget⟩, hname⟩

/-- A class with a parent and a member, and a property of the parent that ranges over the class. -/
def directions : List Topic := [
  { subject := .iri "http://schema.org/heading", types := [.iri propertyType],
    values := [⟨.known .domainIncludes, .iri "http://schema.org/Thing"⟩,
      ⟨.known .rangeIncludes, .iri "http://schema.org/Direction"⟩,
      ⟨.known .rangeIncludes, .iri "http://schema.org/Text"⟩] },
  { subject := .iri "http://schema.org/Direction", types := [.iri classType],
    values := [⟨.known .subClassOf, .iri "http://schema.org/Thing"⟩] },
  { subject := .iri "http://schema.org/Thing", types := [.iri classType] },
  { subject := .iri "http://schema.org/North", types := [.iri "http://schema.org/Direction"] }]

theorem admissible_directions : Admissible {} directions where
  nonempty := by decide
  nameable := by decide
  classes := by decide
  acyclic := acyclic_of_rank (fun identifier => if identifier = "http://schema.org/Thing" then 0
    else 1) (by decide)
  properties := by decide
  members := by
    have hmembers : ∀ topic ∈ directions, ∀ tag ∈ topic.memberTag?,
        IsDeclared "http://schema.org/" directions tag.text := by decide
    exact hmembers

/-- The type of a class with members refers to their enumeration, and the enumeration is there. -/
theorem exists_declaration_of_reference_directions :
    ∃ g, (generate {} directions).outcome = .ok g ∧
      (∃ declaration ∈ g.groups.flatten, "DirectionEnum" ∈ declaration.references) ∧
      ∃ target ∈ g.groups.flatten, target.name = "DirectionEnum" := by
  have hg : (generate {} directions).outcome = .ok (generation {} directions) :=
    outcome_generate_eq_ok_iff.mpr ⟨admissible_directions, rfl⟩
  have hclass : classOf {} directions "http://schema.org/Direction" = some 6 := by decide
  have hregistered : 6 ∈ (hierarchy {} directions).emissionOrder :=
    Registry.mem_emissionOrder.mpr (Registry.mem_registered_iff.mpr ⟨_, hclass⟩)
  have hreferences : ((hierarchy {} directions).shapeOf {} (.whole 6)).map
      (fun shape => (shape.erase (hierarchy {} directions)).references) =
        some ["DirectionEnum", "DirectionBase"] := by decide
  obtain ⟨shape, hleads, hshape⟩ := Option.map_eq_some_iff.mp hreferences
  obtain ⟨comment, isExported, hmem⟩ := Registry.exists_mem_declarationsOf hleads
  have hdeclaration := List.mem_flatten_of_mem (List.mem_map_of_mem hregistered) hmem
  have hname : "DirectionEnum" ∈ (shape.erase (hierarchy {} directions)).references := by
    rw [hshape]
    exact List.mem_cons_self ..
  exact ⟨_, hg, ⟨_, hdeclaration, hname⟩,
    exists_declaration_of_reference hg _ hdeclaration _ hname⟩

end OntoTypes
