import OntoTypes.Proofs.Names
import OntoTypes.Proofs.OutlineText

/-!
# Names that can be written

The generated code takes a name only if it is made of letters, digits and underscores of ASCII, has
at least one of them and does not begin with a digit. Identifiers of an ontology come from anywhere,
with any characters in any place, and so does the namespace of the builtin data types. Names are
checked in a single place, where a class is declared, and there only for being empty; all other
places rely on it.

It is enough, since whatever a module declares or refers to is named after a registered class, with
a word appended or not, and every registered class has passed that check.

Main definitions and results:

* `IsIdentifier` — names that the generated code takes;
* `Registry.WellFormed.isIdentifier_linkName` — links to registered classes are written as such;
* `isIdentifier_of_generate` — so all names of a module are.
-/

namespace OntoTypes

/-- A name that the generated code takes. -/
structure IsIdentifier (name : String) : Prop where
  nonempty : name ≠ ""
  /-- The characters are letters and digits of ASCII and underscores. -/
  chars : ∀ c ∈ name.toList, c.isAlphanum = true ∨ c = '_'
  /-- No digit comes first. -/
  head : ∀ c, name.toList.head? = some c → c.isDigit = false

/-! ## Single names -/

/-- Words, by their characters. -/
theorem isWord_iff {cs : List Char} :
    IsWord cs ↔ ∀ c ∈ cs, c.isAlphanum = true ∨ c = '_' := by
  simp only [IsWord, Text.isWordChar, Bool.or_eq_true, decide_eq_true_eq]

/-- An identifier made of a local name lacks nothing if the local name is there. -/
theorem isIdentifier_identifier {name : String} (h : name ≠ "") :
    IsIdentifier (Text.identifier name) := by
  have hchars : name.toList ≠ [] := fun hnil => h (String.toList_eq_nil_iff.mp hnil)
  -- replacing characters leaves as many as there are
  obtain ⟨c, rest, hwords⟩ := List.exists_cons_of_ne_nil
    (fun hnil => hchars (List.map_eq_nil_iff.mp hnil) : Text.wordChars name.toList ≠ [])
  -- a digit in front gets an underscore before it
  have htext : (Text.identifier name).toList =
      if c.isDigit then '_' :: c :: rest else c :: rest := by
    rw [Text.identifier, String.toList_ofList, Text.identifierChars, hwords]
  refine { nonempty := ?_, chars := isWord_iff.mp (isWord_identifier name), head := ?_ }
  · intro hempty
    rw [hempty] at htext
    split at htext <;> cases htext
  · -- so the first character is the underscore, or is no digit
    intro d hd
    rw [htext] at hd
    by_cases hdigit : c.isDigit = true
    · rw [if_pos hdigit] at hd
      obtain rfl := Option.some.inj hd
      rfl
    · rw [if_neg hdigit] at hd
      obtain rfl := Option.some.inj hd
      exact Bool.eq_false_iff.mpr hdigit

/-- A word may be appended to a name. -/
theorem IsIdentifier.append {name suffix : String} (h : IsIdentifier name)
    (hsuffix : suffix.toList.all Text.isWordChar = true) : IsIdentifier (name ++ suffix) := by
  obtain ⟨c, rest, hname⟩ := List.exists_cons_of_ne_nil
    (fun hnil => h.nonempty (String.toList_eq_nil_iff.mp hnil) : name.toList ≠ [])
  -- the name has a first character, which stays the first one
  have htext : (name ++ suffix).toList = c :: (rest ++ suffix.toList) := by
    rw [String.toList_append, hname, List.cons_append]
  refine { nonempty := ?_, chars := ?_, head := ?_ }
  · intro hempty
    rw [hempty] at htext
    cases htext
  · rw [String.toList_append]
    exact List.forall_mem_append.mpr ⟨h.chars, isWord_iff.mp (List.all_eq_true.mp hsuffix)⟩
  · rw [htext]
    intro d hd
    exact h.head d (by rw [hname]; exact hd)

/-- What is made of a subject that can be named is a name. -/
theorem isIdentifier_givenName {subject : Term} (h : IsNameable subject) :
    IsIdentifier (givenName subject) := by
  obtain ⟨iri, rfl, hne⟩ := h
  exact isIdentifier_identifier hne

/-! ## Names in a module -/

namespace Registry

variable {registry : Registry} {settings : Settings} {c : ClassId}

/-- **Links to registered classes are written as names**, whichever of their declarations they lead
to. -/
theorem WellFormed.isIdentifier_linkName (h : registry.WellFormed) {target : Link}
    (hc : target.owner ∈ registry.registered) : IsIdentifier (registry.linkName target) := by
  -- every declaration of a class is called by its name, with or without a suffix
  have hname : IsIdentifier (registry.nameOf target.owner) := by
    rw [nameOf, ← subject_nodeOf]
    exact isIdentifier_givenName (h.isNameable_nodeOf hc)
  cases target with
  | whole c => exact hname
  | enumeration c => exact hname.append (by decide)
  | base c =>
    rw [linkName]
    split
    · exact hname
    · exact hname.append (by decide)

/-- The declarations of a registered class have names. -/
theorem WellFormed.isIdentifier_name (h : registry.WellFormed) (hc : c ∈ registry.registered)
    {declaration : Declaration} (hmem : declaration ∈ registry.declarationsOf settings c) :
    IsIdentifier declaration.name := by
  have hlink : declaration.name ∈ (registry.linksOf c).map registry.linkName := by
    rw [← map_name_declarationsOf (h.node?_nodeOf hc)]
    exact List.mem_map_of_mem hmem
  obtain ⟨target, htarget, hname⟩ := List.mem_map.mp hlink
  obtain ⟨rfl, -⟩ := mem_linksOf_iff.mp htarget
  rw [← hname]
  exact h.isIdentifier_linkName hc

end Registry

/-- **The names of a module can be written**: those of its declarations, and those that they refer
to at any depth, whatever the identifiers of the ontology and the namespace of the builtin data
types are.

The members of enumerations are named by another rule and are not among these: when their names can
be written is said in `OntoTypes.Proofs.Scopes`. -/
theorem isIdentifier_of_generate {settings : Settings} {topics : List Topic} {g : Generation}
    (hg : (generate settings topics).outcome = .ok g) :
    ∀ declaration ∈ g.groups.flatten,
      IsIdentifier declaration.name ∧ ∀ name ∈ declaration.references, IsIdentifier name := by
  obtain ⟨hadmissible, rfl⟩ := outcome_generate_eq_ok_iff.mp hg
  have hwf := Registry.wellFormed_hierarchy hadmissible
  intro declaration hdeclaration
  obtain ⟨c, hc, hmem⟩ := mem_flatten_groups_iff.mp hdeclaration
  refine ⟨hwf.isIdentifier_name hc hmem, fun name hname => ?_⟩
  -- what is referred to is the name of a declaration again
  obtain ⟨d, hd, target, htarget, rfl⟩ := hwf.declares_of_mem_references hc hmem hname
  exact hwf.isIdentifier_name hd htarget

/-- A class whose local name begins with a digit and has a hyphen, below a builtin data type. -/
def solids : List Topic := [
  { subject := .iri "http://schema.org/3D-Model", types := [.iri classType],
    values := [⟨.known .subClassOf, .iri "urn:1#2/Text"⟩] }]

/-- Builtin data types of a namespace that ends in the middle of a local name. -/
def solidSettings : Settings := { namespaceIri := "urn:1#2/" }

theorem admissible_solids : Admissible solidSettings solids where
  nonempty := by decide
  nameable := by decide
  classes := by decide
  acyclic := acyclic_of_rank (fun identifier => if identifier = "urn:1#2/Text" then 0 else 1)
    (by decide)
  properties := by decide
  members := by
    have hmembers : ∀ topic ∈ solids, ∀ tag ∈ topic.memberTag?,
        IsDeclared "urn:1#2/" solids tag.text := by decide
    exact hmembers

/-- The base of the class is `_3D_ModelBase`, and it refers to the builtin data type as
`_2_Text`. -/
theorem isIdentifier_of_generate_solids :
    ∃ g, (generate solidSettings solids).outcome = .ok g ∧
      ∃ declaration ∈ g.groups.flatten, declaration.name = "_3D_ModelBase" ∧
        "_2_Text" ∈ declaration.references ∧
        IsIdentifier "_3D_ModelBase" ∧ IsIdentifier "_2_Text" := by
  have hg : (generate solidSettings solids).outcome = .ok (generation solidSettings solids) :=
    outcome_generate_eq_ok_iff.mpr ⟨admissible_solids, rfl⟩
  have hclass : classOf solidSettings solids "http://schema.org/3D-Model" = some 6 := by decide
  -- the base of the class, as it is written
  have hbase : ((hierarchy solidSettings solids).shapeOf solidSettings (.base 6)).map
      (fun shape => ((hierarchy solidSettings solids).linkName (.base 6),
        (shape.erase (hierarchy solidSettings solids)).references)) =
        some ("_3D_ModelBase", ["_2_Text"]) := by decide +kernel
  obtain ⟨shape, hleads, hshape⟩ := Option.map_eq_some_iff.mp hbase
  obtain ⟨hname, hreferences⟩ := Prod.mk.inj hshape
  obtain ⟨comment, isExported, hmem⟩ := Registry.exists_mem_declarationsOf hleads
  have hdeclaration := mem_flatten_groups_iff.mpr
    ⟨_, Registry.mem_registered_iff.mpr ⟨_, hclass⟩, hmem⟩
  have hreference : "_2_Text" ∈ (shape.erase (hierarchy solidSettings solids)).references := by
    rw [hreferences]
    exact List.mem_singleton_self _
  obtain ⟨hdeclared, hreferred⟩ := isIdentifier_of_generate hg _ hdeclaration
  exact ⟨_, hg, _, hdeclaration, hname, hreference, hname ▸ hdeclared, hreferred _ hreference⟩

end OntoTypes
