import OntoTypes.Proofs.Counts
import OntoTypes.Proofs.Identifiers

/-!
# Names inside of declarations

Records and enumerations are scopes of their own: the keys of a record stand beside each other, and
so do the members of an enumeration. Both are named after local names, which different subjects may
share. Keys are local names as they are, listed by identifier where they are the same; beside them
stands the distinguishing field of a leaf. Members are named like types, but only the characters
that a name cannot hold are replaced, so that a digit may come first, or nothing at all be there.

What the scopes of a module hold can be read off the topics, and with it what goes wrong in them.

Main definitions and results:

* `TypeExpr.records`, `Declaration.records`, `Declaration.members` — the scopes of a module;
* `fieldNames`, `memberNames` — what topics ask for inside the scopes of a class;
* `nodup_fieldNames`, `nodup_keys_of_fieldNames` — when keys are told apart;
* `nodup_memberNames_iff`, `isIdentifier_members_iff` — when members are told apart, and when their
  names can be written;
* `scopes_of_generate` — all of it for a module.
-/

namespace OntoTypes

mutual

/-- The records in a type, at any depth, by their fields. -/
def TypeExpr.records : TypeExpr → List (List Field)
  | .reference _ | .keyword _ | .literal _ => []
  | .array element => element.records
  | .union members => memberRecords members
  | .intersection members => memberRecords members
  | .record fields => fields :: fieldRecords fields

/-- The records in some types. -/
def memberRecords : List TypeExpr → List (List Field)
  | [] => []
  | member :: members => member.records ++ memberRecords members

/-- The records inside of some fields. -/
def fieldRecords : List Field → List (List Field)
  | [] => []
  | field :: fields => field.records ++ fieldRecords fields

/-- The records inside of a field. -/
def Field.records : Field → List (List Field)
  | .mk _ value _ _ => value.records

end

namespace Declaration

/-- The records in a declaration. -/
def records : Declaration → List (List Field)
  | enumeration .. => []
  | typeAlias _ value _ _ => value.records

/-- The members of a declaration, if it is an enumeration. -/
def members : Declaration → List EnumMember
  | enumeration _ members _ _ => members
  | typeAlias .. => []

end Declaration

/-- The records of members are those of the single members, one after the other. -/
theorem memberRecords_eq_flatMap (members : List TypeExpr) :
    memberRecords members = members.flatMap TypeExpr.records := by
  induction members with
  | nil => rfl
  | cons member members ih => rw [memberRecords, ih, List.flatMap_cons]

/-- The records in the types of fields are those of the single fields, one after the other. -/
theorem fieldRecords_eq_flatMap (fields : List Field) :
    fieldRecords fields = fields.flatMap Field.records := by
  induction fields with
  | nil => rfl
  | cons field fields ih => rw [fieldRecords, ih, List.flatMap_cons]

/-- There are no records among references. -/
theorem memberRecords_references (names : List String) :
    memberRecords (names.map .reference) = [] := by
  rw [memberRecords_eq_flatMap, List.flatMap_map]
  exact List.flatMap_eq_nil_iff.mpr fun _ _ => rfl

/-! ## The scopes of a class -/

/-- The values of a property are no records. -/
theorem PropertyOutline.records_field (property : PropertyOutline) :
    property.field.records = [] := by
  -- a union of references holds no record, however many alternatives it has
  have hscalar : ∀ subjects : List Term,
      (TypeExpr.unionOf (subjects.map fun subject => .reference (givenName subject))).records =
        [] := by
    intro subjects
    match subjects with
    | [] => rfl
    | [_] => rfl
    | a :: b :: rest =>
      have hmembers : memberRecords
          (((a :: b :: rest).map givenName).map TypeExpr.reference) = [] :=
        memberRecords_references _
      rwa [List.map_map] at hmembers
  rw [PropertyOutline.field, Field.records, fieldType]
  split
  · exact hscalar property.range
  · simp only [TypeExpr.records, memberRecords, hscalar, List.append_nil]

namespace Outline

variable {settings : Settings} {outline : Outline}

/-- The field by which a class is told from what is below it. -/
def marker (outline : Outline) : Field :=
  .mk discriminantKey (.literal outline.subject.readableName) false none

/-- The fields of a class are the distinguishing one, if the class is a leaf, and those of the
properties that are shown. -/
theorem fields_eq_shown (outline : Outline) :
    outline.fields settings =
      (if outline.isLeaf then [outline.marker] else []) ++
        (outline.shown settings).map PropertyOutline.field := by
  rw [fields, shown]
  split <;> rfl

/-- The fields of a class hold no records. -/
theorem fieldRecords_fields : fieldRecords (outline.fields settings) = [] := by
  have hproperties : ((outline.shown settings).map PropertyOutline.field).flatMap Field.records =
      [] := by
    rw [List.flatMap_map]
    exact List.flatMap_eq_nil_iff.mpr fun property _ => property.records_field
  rw [fieldRecords_eq_flatMap, fields_eq_shown, List.flatMap_append, hproperties]
  split <;> rfl

/-- The base of a class is made of its own record and of nothing else that is one. -/
theorem records_base :
    (outline.base settings).records =
      if (outline.fields settings).isEmpty then [] else [outline.fields settings] := by
  -- what is taken over from the parents is made of references only
  have hinherited : ∀ {names : List String} {parents : TypeExpr},
      TypeExpr.intersectionOf? (names.map .reference) = some parents → parents.records = [] := by
    intro names parents hparents
    rcases names with _ | ⟨a, _ | ⟨b, rest⟩⟩
    · cases hparents
    · obtain rfl := Option.some.inj hparents
      rfl
    · obtain rfl := Option.some.inj hparents
      exact memberRecords_references (a :: b :: rest)
  have hrecord : (TypeExpr.record (outline.fields settings)).records =
      [outline.fields settings] := by
    rw [TypeExpr.records, fieldRecords_fields]
  unfold base
  dsimp only
  rw [map_reference_parents]
  -- with and without parents, with and without own fields
  cases hparents : TypeExpr.intersectionOf? (outline.parentNames.map .reference) with
  | none =>
    cases (outline.fields settings).isEmpty with
    | true => rfl
    | false => exact hrecord
  | some parents =>
    cases (outline.fields settings).isEmpty with
    | true => exact hinherited hparents
    | false =>
      have hpair : (TypeExpr.intersection [parents, .record (outline.fields settings)]).records =
          parents.records ++ ((TypeExpr.record (outline.fields settings)).records ++ []) := rfl
      rw [hinherited hparents, hrecord] at hpair
      exact hpair

/-- The type of a class is made of the record by which it is told from its children. -/
theorem records_closed :
    outline.closed.records = if outline.children.isEmpty then [] else [[outline.marker]] := by
  -- the alternatives below the class are references
  have hchildren : memberRecords
      (outline.children.map fun subject => .reference (givenName subject)) = [] := by
    have hreferences := memberRecords_references (outline.children.map givenName)
    rwa [List.map_map] at hreferences
  rw [closed]
  split
  · rfl
  · simp only [TypeExpr.records, memberRecords, fieldRecords, Field.records, hchildren]
    rfl

/-- The members of a class add no record to its type. -/
theorem records_beside (shape : TypeExpr) : (outline.beside shape).records = shape.records := by
  rw [beside]
  split
  · rfl
  · simp only [TypeExpr.records, memberRecords, List.nil_append, List.append_nil]

/-- An enumeration has no records. -/
theorem records_enumeration? :
    ∀ declaration ∈ outline.enumeration?, declaration.records = [] := by
  intro declaration hmem
  rw [enumeration?] at hmem
  split at hmem
  · cases hmem
  · obtain rfl := Option.some.inj hmem
    rfl

/-- The keys in the records of a class are told apart exactly if those of its own fields are. -/
theorem nodup_keys_iff :
    (∀ declaration ∈ outline.declarations settings, ∀ record ∈ declaration.records,
        (record.map Field.key).Nodup) ↔
      (outline.primitive = none → ((outline.fields settings).map Field.key).Nodup) := by
  -- the record of a class that has children has one key only
  have hbeside : ∀ record ∈ (outline.beside outline.closed).records,
      (record.map Field.key).Nodup := by
    intro record hrecord
    rw [records_beside, records_closed] at hrecord
    split at hrecord
    · cases hrecord
    · obtain rfl := List.mem_singleton.mp hrecord
      exact List.nodup_singleton _
  -- a base without a record has no fields either
  have hbase : (∀ record ∈ (outline.base settings).records, (record.map Field.key).Nodup) ↔
      ((outline.fields settings).map Field.key).Nodup := by
    rw [records_base]
    split
    · rename_i hempty
      rw [List.isEmpty_iff.mp hempty]
      simp
    · simp
  simp only [declarations, List.mem_append, or_imp, forall_and, Option.mem_toList]
  have henumeration : ∀ declaration ∈ outline.enumeration?, ∀ record ∈ declaration.records,
      (record.map Field.key).Nodup := by
    intro declaration hmem record hrecord
    rw [records_enumeration? declaration hmem] at hrecord
    cases hrecord
  refine (and_iff_right henumeration).trans ?_
  -- a builtin class is an alias of a keyword and has no base
  cases hprimitive : outline.primitive with
  | some primitive =>
    have hnone : ∀ record ∈ (outline.beside (.keyword primitive.target)).records,
        (record.map Field.key).Nodup := by
      rw [records_beside]
      exact fun _ hrecord => absurd hrecord List.not_mem_nil
    simpa [Declaration.records] using hnone
  | none =>
    simp only [List.forall_mem_cons, Declaration.records, hbase, forall_const]
    exact and_iff_left ⟨hbeside, fun _ h => absurd h List.not_mem_nil⟩

/-- The members of a class are those of its enumeration. -/
theorem members_declarations (declaration : Declaration)
    (hmem : declaration ∈ outline.declarations settings) :
    declaration.members = [] ∨ declaration.members =
      outline.members.map fun member => ⟨member.name, member.value, member.comment⟩ := by
  -- the enumeration has the members, every other declaration has none
  rcases List.mem_append.mp hmem with henumeration | halias
  · rw [Option.mem_toList, enumeration?] at henumeration
    split at henumeration
    · cases henumeration
    · obtain rfl := Option.some.inj henumeration
      exact Or.inr rfl
  · refine Or.inl ?_
    cases hprimitive : outline.primitive with
    | some primitive =>
      rw [hprimitive] at halias
      obtain rfl := List.mem_singleton.mp halias
      rfl
    | none =>
      rw [hprimitive] at halias
      rcases List.mem_pair.mp halias with rfl | rfl <;> rfl

/-- If there are members, they are in an enumeration. -/
theorem exists_members (h : outline.members ≠ []) :
    ∃ declaration ∈ outline.declarations settings, declaration.members =
      outline.members.map fun member => ⟨member.name, member.value, member.comment⟩ := by
  have hempty : ¬ outline.members.isEmpty = true := by simpa using h
  refine ⟨.enumeration (givenName outline.subject ++ "Enum") _ none true, ?_, rfl⟩
  rw [declarations, enumeration?, if_neg hempty]
  exact List.mem_append_left _ (List.mem_singleton_self _)

end Outline

/-! ## What topics ask for -/

variable {settings : Settings} {topics : List Topic}

/-- The names of the fields that a class is given by topics about properties, one for each time that
a topic names the class as an owner. -/
def fieldNames (settings : Settings) (topics : List Topic) (owner : String) : List String :=
  (topics.filter Topic.isProperty).flatMap fun topic =>
    if settings.includeDeprecated || (topic.references .supersededBy).isEmpty then
      List.replicate ((topic.referenceTexts .domainIncludes).count owner) topic.subject.readableName
    else []

/-- The names of the members of a class. -/
def memberNames (topics : List Topic) (owner : String) : List String :=
  (topics.filter fun topic => topic.memberTag?.map Term.text = some owner).map fun topic =>
    Text.memberName topic.subject.readableName

/-- The outline of the class of an identifier, for some topics. -/
noncomputable abbrev declaredOutline (settings : Settings) (topics : List Topic)
    (identifier : String) : Outline :=
  outlineFor settings.namespaceIri (topics.map (Topic.digest settings.lang)) identifier

/-- The outline of a class is that of a leaf exactly if nothing is below the class and the class is
below no builtin data type. -/
theorem isLeaf_declaredOutline_iff {identifier : String} :
    (declaredOutline settings topics identifier).isLeaf = true ↔
      IsLeaf settings.namespaceIri (topics.map (Topic.digest settings.lang)) identifier := by
  classical
  exact decide_eq_true_iff

/-- The properties that are shown are named as the topics ask for, in some order. -/
theorem shown_declaredOutline_perm (identifier : String) :
    (((declaredOutline settings topics identifier).shown settings).map
      (·.subject.readableName)).Perm (fieldNames settings topics identifier) := by
  have hfilter : (topics.map (Topic.digest settings.lang)).filter (·.isProperty) =
      (topics.filter Topic.isProperty).map (Topic.digest settings.lang) := by
    rw [List.filter_map]
    rfl
  -- sorting the properties does not change which of them are shown
  have hsorted : ((declaredOutline settings topics identifier).shown settings).Perm
      ((propertiesFor (topics.map (Topic.digest settings.lang)) identifier).filter fun property =>
        settings.includeDeprecated || property.supersededBy.isEmpty) :=
    (Text.sortOn_perm ..).filter _
  refine (hsorted.map _).trans (List.Perm.of_eq ?_)
  rw [propertiesFor, hfilter, List.flatMap_map, List.filter_flatMap, List.map_flatMap, fieldNames]
  refine List.flatMap_congr fun topic _ => ?_
  -- a property that names the class twice as its domain is listed twice
  have hcount : (topic.digest settings.lang).domains.count identifier =
      (topic.referenceTexts .domainIncludes).count identifier := Multiset.coe_count ..
  rw [List.filter_replicate, hcount]
  change List.map _ (if (settings.includeDeprecated ||
    (topic.references .supersededBy).isEmpty) = true then _ else _) = _
  split
  · exact List.map_replicate
  · rfl

/-- The members of a class are named as the topics ask for, in some order. -/
theorem members_declaredOutline_perm (identifier : String) :
    ((declaredOutline settings topics identifier).members.map MemberNode.name).Perm
      (memberNames topics identifier) := by
  have hnames : (membersFor (topics.map (Topic.digest settings.lang)) identifier).map
      MemberNode.name = memberNames topics identifier := by
    rw [membersFor, List.filter_map, List.map_map, List.map_map]
    rfl
  rw [← hnames]
  exact (Text.sortOn_perm ..).map _

section

variable (h : Admissible settings topics)
include h

/-- The declarations of a module are those of the outlines of what is declared. -/
theorem mem_flatten_groups_iff_outline {declaration : Declaration} :
    declaration ∈ (generation settings topics).groups.flatten ↔
      ∃ identifier, IsDeclared settings.namespaceIri topics identifier ∧
        declaration ∈ (declaredOutline settings topics identifier).declarations settings := by
  -- what is emitted for a class is read off its outline
  have hdeclarations : ∀ {identifier : String} {c : ClassId},
      classOf settings topics identifier = some c →
        (hierarchy settings topics).declarationsOf settings c =
          (declaredOutline settings topics identifier).declarations settings := by
    intro identifier c hc
    rw [Registry.declarationsOf_eq_outline (Registry.wellFormed_hierarchy h)
      (Registry.mem_registered_iff.mpr ⟨_, hc⟩), outline_hierarchy h hc]
  rw [mem_flatten_groups_iff]
  constructor
  · rintro ⟨c, hregistered, hmem⟩
    obtain ⟨identifier, hc⟩ := Registry.mem_registered_iff.mp hregistered
    exact ⟨identifier, classOf_isSome_iff.mp (hc ▸ rfl), hdeclarations hc ▸ hmem⟩
  · rintro ⟨identifier, hid, hmem⟩
    obtain ⟨c, hc⟩ := Option.isSome_iff_exists.mp (classOf_isSome_iff.mpr hid)
    exact ⟨c, Registry.mem_registered_iff.mpr ⟨_, hc⟩, hdeclarations hc ▸ hmem⟩

/-! ## Keys -/

/-- The keys of a module are told apart class by class, in the records of own fields. -/
theorem nodup_keys_iff_fields :
    (∀ declaration ∈ (generation settings topics).groups.flatten,
        ∀ record ∈ declaration.records, (record.map Field.key).Nodup) ↔
      ∀ identifier, IsDeclared settings.namespaceIri topics identifier →
        identifier ∉ builtinIdentifiers settings.namespaceIri →
          (((declaredOutline settings topics identifier).fields settings).map Field.key).Nodup := by
  -- just the builtin classes are primitive
  have hprimitive : ∀ identifier, (declaredOutline settings topics identifier).primitive = none ↔
      identifier ∉ builtinIdentifiers settings.namespaceIri := by
    intro identifier
    rw [← isSome_primitive_declaredNode_iff, Bool.not_eq_true, Option.isSome_eq_false_iff,
      Option.isNone_iff_eq_none]
    rfl
  simp only [mem_flatten_groups_iff_outline h, forall_exists_index, and_imp]
  constructor
  · intro hkeys identifier hid hplain
    exact Outline.nodup_keys_iff.mp (fun declaration hmem => hkeys declaration identifier hid hmem)
      ((hprimitive identifier).mpr hplain)
  · intro hfields declaration identifier hid hmem
    exact Outline.nodup_keys_iff.mpr
      (fun hnone => hfields identifier hid ((hprimitive identifier).mp hnone)) declaration hmem

omit h in
/-- The keys of the own fields of a class are the names that topics ask for, behind the key of the
distinguishing field if the class is a leaf. -/
theorem keys_declaredOutline_perm (identifier : String) :
    (((declaredOutline settings topics identifier).fields settings).map Field.key).Perm
      ((if (declaredOutline settings topics identifier).isLeaf then [discriminantKey] else []) ++
        fieldNames settings topics identifier) := by
  -- the key of a field is the local name of its property
  have hnames : ((declaredOutline settings topics identifier).shown settings).map
      (Field.key ∘ PropertyOutline.field) =
        ((declaredOutline settings topics identifier).shown settings).map
          (·.subject.readableName) := rfl
  rw [Outline.fields_eq_shown, List.map_append, List.map_map, hnames,
    apply_ite (List.map Field.key)]
  exact (shown_declaredOutline_perm identifier).append_left _

/-- **Properties of one name clash.** If the keys of all records are told apart, then no class is
given two fields of one name. -/
theorem nodup_fieldNames
    (hkeys : ∀ declaration ∈ (generation settings topics).groups.flatten,
      ∀ record ∈ declaration.records, (record.map Field.key).Nodup) :
    ∀ owner, IsDeclared settings.namespaceIri topics owner →
      owner ∉ builtinIdentifiers settings.namespaceIri →
        (fieldNames settings topics owner).Nodup := by
  intro owner hid hplain
  have hfields := (nodup_keys_iff_fields h).mp hkeys owner hid hplain
  exact (List.nodup_append.mp ((keys_declaredOutline_perm owner).nodup_iff.mp hfields)).2.1

/-- **Otherwise keys are told apart**, as long as no leaf is given a field with the name of the
distinguishing one. -/
theorem nodup_keys_of_fieldNames
    (hnames : ∀ owner, IsDeclared settings.namespaceIri topics owner →
      owner ∉ builtinIdentifiers settings.namespaceIri →
        (fieldNames settings topics owner).Nodup)
    (hmarkers : ∀ owner, IsDeclared settings.namespaceIri topics owner →
      owner ∉ builtinIdentifiers settings.namespaceIri →
        IsLeaf settings.namespaceIri (topics.map (Topic.digest settings.lang)) owner →
          discriminantKey ∉ fieldNames settings topics owner) :
    ∀ declaration ∈ (generation settings topics).groups.flatten,
      ∀ record ∈ declaration.records, (record.map Field.key).Nodup := by
  refine (nodup_keys_iff_fields h).mpr fun owner hid hplain => ?_
  rw [(keys_declaredOutline_perm owner).nodup_iff]
  -- only a leaf has the distinguishing key besides the names that are asked for
  split
  · rename_i hleaf
    have hmarker := hmarkers owner hid hplain (isLeaf_declaredOutline_iff.mp hleaf)
    exact List.nodup_cons.mpr ⟨hmarker, hnames owner hid hplain⟩
  · exact hnames owner hid hplain

/-! ## Members -/

/-- What has members is declared. -/
theorem isDeclared_of_mem_memberNames {owner name : String}
    (hname : name ∈ memberNames topics owner) :
    IsDeclared settings.namespaceIri topics owner := by
  obtain ⟨topic, htopic, -⟩ := List.mem_map.mp hname
  obtain ⟨hin, hmember⟩ := List.mem_filter.mp htopic
  obtain ⟨tag, htag, rfl⟩ := Option.map_eq_some_iff.mp (of_decide_eq_true hmember)
  exact h.members topic hin tag htag

/-- The members of each enumeration are those of one class. -/
theorem members_of_mem_groups {declaration : Declaration}
    (hmem : declaration ∈ (generation settings topics).groups.flatten) :
    ∃ owner, (declaration.members.map EnumMember.name).Subperm (memberNames topics owner) := by
  obtain ⟨owner, -, hmem⟩ := (mem_flatten_groups_iff_outline h).mp hmem
  refine ⟨owner, ?_⟩
  rcases Outline.members_declarations declaration hmem with hnone | hmembers
  · rw [hnone]
    exact List.nil_subperm
  · rw [hmembers, List.map_map]
    exact (members_declaredOutline_perm owner).subperm

/-- The members of a class are in an enumeration. -/
theorem exists_members_of_owner {owner name : String} (hname : name ∈ memberNames topics owner) :
    ∃ declaration ∈ (generation settings topics).groups.flatten,
      (declaration.members.map EnumMember.name).Perm (memberNames topics owner) := by
  -- the class has the member that is given, and with it an enumeration
  have hne : (declaredOutline settings topics owner).members ≠ [] := by
    intro hnil
    have hperm : ((declaredOutline settings topics owner).members.map MemberNode.name).Perm
        (memberNames topics owner) := members_declaredOutline_perm owner
    rw [hnil] at hperm
    rw [← hperm.mem_iff] at hname
    cases hname
  obtain ⟨declaration, hmem, hmembers⟩ := Outline.exists_members hne
  refine ⟨declaration, (mem_flatten_groups_iff_outline h).mpr
    ⟨owner, isDeclared_of_mem_memberNames h hname, hmem⟩, ?_⟩
  rw [hmembers, List.map_map]
  exact members_declaredOutline_perm owner

/-- Members are told apart exactly if topics do not ask for two of one name. -/
theorem nodup_memberNames_iff :
    (∀ declaration ∈ (generation settings topics).groups.flatten,
        (declaration.members.map EnumMember.name).Nodup) ↔
      ∀ owner, (memberNames topics owner).Nodup := by
  constructor
  · intro hmembers owner
    -- a class without members has no enumeration to speak of
    cases hnames : memberNames topics owner with
    | nil => exact List.nodup_nil
    | cons name names =>
      obtain ⟨declaration, hmem, hperm⟩ := exists_members_of_owner h
        (hnames ▸ List.mem_cons_self : name ∈ memberNames topics owner)
      rw [← hnames]
      exact hperm.nodup_iff.mp (hmembers declaration hmem)
  · intro howners declaration hmem
    obtain ⟨owner, hsub⟩ := members_of_mem_groups h hmem
    obtain ⟨names, hperm, hsublist⟩ := hsub
    exact hperm.nodup_iff.mp ((howners owner).sublist hsublist)

/-- The members of a module are named after the topics that have an owner. -/
theorem exists_member_iff {name : String} :
    (∃ declaration ∈ (generation settings topics).groups.flatten,
        ∃ member ∈ declaration.members, member.name = name) ↔
      ∃ topic ∈ topics, topic.memberTag?.isSome = true ∧
        Text.memberName topic.subject.readableName = name := by
  constructor
  · rintro ⟨declaration, hmem, member, hmember, rfl⟩
    -- the member comes from a topic whose tag is the owner
    obtain ⟨owner, hsub⟩ := members_of_mem_groups h hmem
    obtain ⟨topic, htopic, hname⟩ := List.mem_map.mp
      (hsub.subset (List.mem_map_of_mem hmember))
    obtain ⟨hin, hof⟩ := List.mem_filter.mp htopic
    obtain ⟨tag, htag, -⟩ := Option.map_eq_some_iff.mp (of_decide_eq_true hof)
    exact ⟨topic, hin, by rw [htag]; rfl, hname⟩
  · rintro ⟨topic, hin, hsome, rfl⟩
    obtain ⟨tag, htag⟩ := Option.isSome_iff_exists.mp hsome
    have hname : Text.memberName topic.subject.readableName ∈ memberNames topics tag.text := by
      refine List.mem_map.mpr ⟨topic, List.mem_filter.mpr ⟨hin, ?_⟩, rfl⟩
      rw [htag]
      exact decide_eq_true rfl
    obtain ⟨declaration, hmem, hperm⟩ := exists_members_of_owner h hname
    obtain ⟨member, hmember, hname⟩ := List.mem_map.mp (hperm.mem_iff.mpr hname)
    exact ⟨declaration, hmem, member, hmember, hname⟩

end

/-! ## Names of members -/

/-- The name of a member is made of letters, digits and underscores. -/
theorem isWord_memberName (name : String) : IsWord (Text.memberName name).toList := by
  rw [Text.memberName, String.toList_ofList]
  exact isWord_wordChars _

/-- Replacing characters makes no digit and leaves every digit alone. -/
theorem isDigit_head?_memberName {name : String} :
    (∀ c, (Text.memberName name).toList.head? = some c → c.isDigit = false) ↔
      ∀ c, name.toList.head? = some c → c.isDigit = false := by
  -- a digit is kept, and an underscore that stands for something else is none
  have hreplaced : ∀ c : Char, (if Text.isWordChar c then c else '_').isDigit = c.isDigit := by
    intro c
    cases hdigit : c.isDigit with
    | true => simp [Text.isWordChar, Char.isAlphanum, hdigit]
    | false =>
      split
      · exact hdigit
      · rfl
  rw [Text.memberName, String.toList_ofList, Text.wordChars, List.head?_map]
  simp [hreplaced]

/-- When the name of a member can be written. -/
theorem isIdentifier_memberName_iff {name : String} :
    IsIdentifier (Text.memberName name) ↔
      name ≠ "" ∧ ∀ c, name.toList.head? = some c → c.isDigit = false := by
  have hempty : Text.memberName name = "" ↔ name = "" := by
    rw [← String.toList_eq_nil_iff, ← String.toList_eq_nil_iff, Text.memberName,
      String.toList_ofList, Text.wordChars, List.map_eq_nil_iff]
  rw [← isDigit_head?_memberName, Ne, ← hempty]
  exact ⟨fun h => ⟨h.nonempty, h.head⟩,
    fun ⟨hne, hhead⟩ => ⟨hne, isWord_iff.mp (isWord_memberName name), hhead⟩⟩

/-- The names of members can be written exactly if the local names that they are made of are there
and do not begin with a digit. -/
theorem isIdentifier_members_iff (h : Admissible settings topics) :
    (∀ declaration ∈ (generation settings topics).groups.flatten,
        ∀ member ∈ declaration.members, IsIdentifier member.name) ↔
      ∀ topic ∈ topics, topic.memberTag?.isSome = true →
        topic.subject.readableName ≠ "" ∧
          ∀ c, topic.subject.readableName.toList.head? = some c → c.isDigit = false := by
  constructor
  · intro hmembers topic hin hsome
    obtain ⟨declaration, hmem, member, hmember, hname⟩ :=
      (exists_member_iff h).mpr ⟨topic, hin, hsome, rfl⟩
    rw [← isIdentifier_memberName_iff, ← hname]
    exact hmembers declaration hmem member hmember
  · intro htopics declaration hmem member hmember
    obtain ⟨topic, hin, hsome, hname⟩ :=
      (exists_member_iff h).mp ⟨declaration, hmem, member, hmember, rfl⟩
    rw [← hname, isIdentifier_memberName_iff]
    exact htopics topic hin hsome

/-- Members are named by letters, digits and underscores in any case. -/
theorem isWord_of_mem_members (h : Admissible settings topics) {declaration : Declaration}
    (hmem : declaration ∈ (generation settings topics).groups.flatten) {member : EnumMember}
    (hmember : member ∈ declaration.members) :
    ∀ c ∈ member.name.toList, c.isAlphanum = true ∨ c = '_' := by
  obtain ⟨topic, -, -, hname⟩ :=
    (exists_member_iff h).mp ⟨declaration, hmem, member, hmember, rfl⟩
  rw [← hname]
  exact isWord_iff.mp (isWord_memberName _)

/-! ## The scopes of a module -/

/-- **What the scopes of a module hold.** Members of enumerations are named by letters, digits and
underscores. They can be written exactly if no local name of a member is empty or begins with a
digit, and they are told apart exactly if no two members of a class are named alike. If the keys of
all records are told apart, then no class is given two fields of one name; and the keys are told
apart if this is so and no leaf is given a field with the name of the distinguishing one. -/
theorem scopes_of_generate {g : Generation} (hg : (generate settings topics).outcome = .ok g) :
    (∀ declaration ∈ g.groups.flatten, ∀ member ∈ declaration.members,
      ∀ c ∈ member.name.toList, c.isAlphanum = true ∨ c = '_') ∧
    ((∀ declaration ∈ g.groups.flatten, ∀ member ∈ declaration.members,
        IsIdentifier member.name) ↔
      ∀ topic ∈ topics, topic.memberTag?.isSome = true →
        topic.subject.readableName ≠ "" ∧
          ∀ c, topic.subject.readableName.toList.head? = some c → c.isDigit = false) ∧
    ((∀ declaration ∈ g.groups.flatten, (declaration.members.map EnumMember.name).Nodup) ↔
      ∀ owner, (memberNames topics owner).Nodup) ∧
    ((∀ declaration ∈ g.groups.flatten, ∀ record ∈ declaration.records,
        (record.map Field.key).Nodup) →
      ∀ owner, IsDeclared settings.namespaceIri topics owner →
        owner ∉ builtinIdentifiers settings.namespaceIri →
          (fieldNames settings topics owner).Nodup) ∧
    ((∀ owner, IsDeclared settings.namespaceIri topics owner →
        owner ∉ builtinIdentifiers settings.namespaceIri →
          (fieldNames settings topics owner).Nodup) →
      (∀ owner, IsDeclared settings.namespaceIri topics owner →
        owner ∉ builtinIdentifiers settings.namespaceIri →
          IsLeaf settings.namespaceIri (topics.map (Topic.digest settings.lang)) owner →
            discriminantKey ∉ fieldNames settings topics owner) →
      ∀ declaration ∈ g.groups.flatten, ∀ record ∈ declaration.records,
        (record.map Field.key).Nodup) := by
  obtain ⟨h, rfl⟩ := outcome_generate_eq_ok_iff.mp hg
  refine ⟨fun declaration hmem member hmember => ?_, isIdentifier_members_iff h,
    nodup_memberNames_iff h, nodup_fieldNames h, nodup_keys_of_fieldNames h⟩
  exact isWord_of_mem_members h hmem hmember

/-- The module for a class with one property and another class with one member: all keys are told
apart, and the names of all members can be written. -/
theorem scopes_of_generate_directions :
    ∃ g, (generate {} directions).outcome = .ok g ∧
      (∀ declaration ∈ g.groups.flatten, ∀ record ∈ declaration.records,
        (record.map Field.key).Nodup) ∧
      (∀ declaration ∈ g.groups.flatten, (declaration.members.map EnumMember.name).Nodup) ∧
      ∀ declaration ∈ g.groups.flatten, ∀ member ∈ declaration.members,
        IsIdentifier member.name := by
  have hg : (generate {} directions).outcome = .ok (generation {} directions) :=
    outcome_generate_eq_ok_iff.mpr ⟨admissible_directions, rfl⟩
  obtain ⟨-, hidentifiers, hdistinct, -, hkeys⟩ := scopes_of_generate hg
  have hfields : ∀ owner ∈ declaredIdentifiers {} directions,
      (fieldNames {} directions owner).Nodup ∧
        discriminantKey ∉ fieldNames {} directions owner := by
    decide
  have hmembers : ∀ owner ∈ declaredIdentifiers {} directions,
      (memberNames directions owner).Nodup := by
    decide
  have hlocal : ∀ topic ∈ directions, topic.memberTag?.isSome = true →
      topic.subject.readableName ≠ "" ∧
        topic.subject.readableName.toList.head?.all (!·.isDigit) = true := by
    decide
  refine ⟨_, hg, hkeys (fun owner hid _ => ?_) (fun owner hid _ _ => ?_),
    hdistinct.mpr fun owner => ?_, hidentifiers.mpr fun topic hin hsome => ?_⟩
  · exact (hfields owner (mem_declaredIdentifiers_iff.mpr hid)).1
  · exact (hfields owner (mem_declaredIdentifiers_iff.mpr hid)).2
  · by_cases hid : IsDeclared "http://schema.org/" directions owner
    · exact hmembers owner (mem_declaredIdentifiers_iff.mpr hid)
    · -- what is not declared has no members
      have hnone : memberNames directions owner = [] :=
        List.eq_nil_iff_forall_not_mem.mpr fun name hname =>
          hid (isDeclared_of_mem_memberNames admissible_directions hname)
      rw [hnone]
      exact List.nodup_nil
  · obtain ⟨hne, hhead⟩ := hlocal topic hin hsome
    exact ⟨hne, fun c hc => Bool.not_eq_true' _ ▸ (Option.all_eq_true _ _).mp hhead c hc⟩

/-- A class with two properties of one local name and with three members, of which one begins with a
digit and two are written alike. -/
def shapes : List Topic := [
  { subject := .iri "http://schema.org/Shape", types := [.iri classType] },
  { subject := .iri "http://schema.org/size", types := [.iri propertyType],
    values := [⟨.known .domainIncludes, .iri "http://schema.org/Shape"⟩] },
  { subject := .iri "http://example.org/size", types := [.iri propertyType],
    values := [⟨.known .domainIncludes, .iri "http://schema.org/Shape"⟩] },
  { subject := .iri "http://schema.org/3D", types := [.iri "http://schema.org/Shape"] },
  { subject := .iri "http://schema.org/Semi-Flat", types := [.iri "http://schema.org/Shape"] },
  { subject := .iri "http://schema.org/Semi_Flat", types := [.iri "http://schema.org/Shape"] }]

/-- Nothing is missing in the topics of the example. -/
theorem admissible_shapes : Admissible {} shapes where
  nonempty := by decide
  nameable := by decide
  classes := by decide
  acyclic := acyclic_of_rank (fun _ => 0) (by decide)
  properties := by decide
  members := by
    have hmembers : ∀ topic ∈ shapes, ∀ tag ∈ topic.memberTag?,
        IsDeclared "http://schema.org/" shapes tag.text := by decide
    exact hmembers

/-- Different identifiers do not keep the names inside of declarations apart: the base of the class
has a key twice, and its enumeration has a name twice and another one that cannot be written. -/
theorem clashes_shapes :
    ∃ g, (generate {} shapes).outcome = .ok g ∧ (shapes.map (·.subject.text)).Nodup ∧
      ¬ (∀ declaration ∈ g.groups.flatten, ∀ record ∈ declaration.records,
        (record.map Field.key).Nodup) ∧
      ¬ (∀ declaration ∈ g.groups.flatten, (declaration.members.map EnumMember.name).Nodup) ∧
      ¬ ∀ declaration ∈ g.groups.flatten, ∀ member ∈ declaration.members,
        IsIdentifier member.name := by
  refine ⟨_, outcome_generate_eq_ok_iff.mpr ⟨admissible_shapes, rfl⟩, by decide, ?_, ?_, ?_⟩
  · -- two properties of one local name
    intro hkeys
    have hsizes : fieldNames {} shapes "http://schema.org/Shape" = ["size", "size"] := by decide
    have hnodup := nodup_fieldNames admissible_shapes hkeys "http://schema.org/Shape" (by decide)
      (by decide)
    rw [hsizes] at hnodup
    exact absurd hnodup (by decide)
  · -- two members whose names differ in a character that is replaced
    rw [nodup_memberNames_iff admissible_shapes]
    intro hnodup
    have hflat : memberNames shapes "http://schema.org/Shape" =
        ["3D", "Semi_Flat", "Semi_Flat"] := by
      decide
    have hshape := hnodup "http://schema.org/Shape"
    rw [hflat] at hshape
    exact absurd hshape (by decide)
  · -- a member whose name begins with a digit
    rw [isIdentifier_members_iff admissible_shapes]
    intro hlocal
    have hthird : shapes[3] ∈ shapes := List.getElem_mem (by decide)
    have hdigit := (hlocal _ hthird (by decide)).2 '3' (by decide)
    exact absurd hdigit (by decide)

end OntoTypes
