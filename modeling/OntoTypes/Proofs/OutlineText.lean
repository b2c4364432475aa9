import OntoTypes.Proofs.CommentBlock
import OntoTypes.Proofs.ValueOrder

/-!
# What the text of a class shows

Outlines that are rearrangements of each other give their class the same declarations but for the
order of names: of its parents, of the types of its fields, and of the replacements in a comment.
The text of the declarations shows each of these orders, and it shows where it ends; so the texts of
two modules made of such outlines are the same exactly if these orders are the same class by class.

Main definitions and results:

* `Outline.Agrees` — two outlines that name everything in the same order;
* `tells_text` — the texts of rearranged outlines tell whether they agree.
-/

namespace OntoTypes

namespace PropertyOutline

/-- The names of the types that a property ranges over. -/
def rangeNames (property : PropertyOutline) : List String := property.range.map givenName

/-- Two properties whose fields name everything in the same order, as far as it is written down. -/
structure Agrees (a b : PropertyOutline) : Prop where
  range : a.rangeNames = b.rangeNames
  comment : renderComment a.comment indentStep = renderComment b.comment indentStep

end PropertyOutline

namespace Outline

/-- The names of the parents' bases. -/
def parentNames (outline : Outline) : List String :=
  outline.parents.map fun (subject, isBuiltin) => baseNameFor subject isBuiltin

/-- The properties that have a field. -/
def shown (settings : Settings) (outline : Outline) : List PropertyOutline :=
  outline.properties.filter fun property =>
    settings.includeDeprecated || property.supersededBy.isEmpty

/-- Two outlines that name everything in the same order, as far as it is written down. -/
structure Agrees (settings : Settings) (a b : Outline) : Prop where
  parents : a.parentNames = b.parentNames
  comment : renderComment a.comment "" = renderComment b.comment ""
  fields : List.Forall₂ PropertyOutline.Agrees (a.shown settings) (b.shown settings)

end Outline

/-! ## Names -/

/-- Replacing what does not fit leaves word characters only. -/
theorem isWord_wordChars (cs : List Char) : IsWord (Text.wordChars cs) := by
  intro c hc
  obtain ⟨d, -, rfl⟩ := List.mem_map.mp hc
  by_cases hd : Text.isWordChar d = true
  · rw [if_pos hd, hd]
  · rw [if_neg hd]
    rfl

/-- The identifier made of a name is a word. -/
theorem isWord_identifier (name : String) : IsWord (Text.identifier name).toList := by
  have hwords := isWord_wordChars name.toList
  rw [Text.identifier, String.toList_ofList, Text.identifierChars]
  cases hchars : Text.wordChars name.toList with
  | nil => exact fun c hc => absurd hc (List.not_mem_nil)
  | cons c rest =>
    rw [hchars] at hwords
    dsimp only
    -- an underscore is put before a digit
    split
    · exact List.forall_mem_cons.mpr ⟨rfl, hwords⟩
    · exact hwords

/-- The name of a type is a word. -/
theorem isWord_givenName (subject : Term) : IsWord (givenName subject).toList :=
  isWord_identifier _

/-- The name of a base is a word. -/
theorem isWord_baseNameFor (subject : Term) (isBuiltin : Bool) :
    IsWord (baseNameFor subject isBuiltin).toList := by
  unfold baseNameFor
  split
  · exact isWord_givenName subject
  · rw [String.toList_append]
    have hsuffix : "Base".toList.all Text.isWordChar = true := by decide
    exact List.forall_mem_append.mpr ⟨isWord_givenName subject, List.all_eq_true.mp hsuffix⟩

/-- Names that are joined tell which names they are. -/
theorem tells_names {glue : String} {glueMark mark : Char} {glueRest : List Char}
    (hglue : glue.toList = glueMark :: glueRest) (hglueMark : Text.isWordChar glueMark = false)
    (hmark : Text.isWordChar mark = false) {names names' : List String}
    (hlength : names.length = names'.length) (hne : names ≠ [])
    (hwords : ∀ name ∈ names, IsWord name.toList) (hwords' : ∀ name ∈ names', IsWord name.toList) :
    Tells ((glue.intercalate names).toList ++ [mark]) ((glue.intercalate names').toList ++ [mark])
      (names = names') := by
  -- as lists of characters
  have htells : Tells ((glueMark :: glueRest).intercalate (names.map String.toList) ++ [mark])
      ((glueMark :: glueRest).intercalate (names'.map String.toList) ++ [mark])
      (names.map String.toList = names'.map String.toList) :=
    tells_words hglueMark hmark (by simpa using hlength) (by simpa using hne)
      (by simpa using hwords) (by simpa using hwords')
  rw [String.toList_intercalate, String.toList_intercalate, hglue]
  exact htells.congr (List.map_injective_iff.mpr fun _ _ => String.toList_inj.mp).eq_iff

/-- Rearranged names are at least two, or they are the same. -/
theorem eq_or_exists_of_perm {names names' : List String} (h : names.Perm names') :
    names = names' ∨
      (∃ a b rest, names = a :: b :: rest) ∧ ∃ a b rest, names' = a :: b :: rest := by
  match names, names', h.length_eq with
  | [], [], _ => exact Or.inl rfl
  | [a], [b], _ => exact Or.inl (List.perm_singleton.mp h)
  | a :: b :: rest, a' :: b' :: rest', _ => exact Or.inr ⟨⟨a, b, rest, rfl⟩, a', b', rest', rfl⟩

/-! ## Types -/

/-- References are written as the names that they are made of. -/
theorem renderMembers_references (indent : String) (names : List String) :
    renderMembers indent (names.map .reference) = names := by
  induction names with
  | nil => rfl
  | cons name names ih => rw [List.map_cons, renderMembers, ih]; rfl

/-- The text of a field's type that is made of several types. -/
theorem render_fieldType_references (key indent : String) {names : List String}
    (h : ∃ a b rest, names = a :: b :: rest) :
    (fieldType key (.unionOf (names.map .reference))).render indent =
      if isMarker key then " | ".intercalate names
      else "(" ++ " | ".intercalate names ++ ") | (" ++ " | ".intercalate names ++ ")[]" := by
  obtain ⟨a, b, rest, rfl⟩ := h
  have hunion : TypeExpr.unionOf ((a :: b :: rest).map .reference) =
      .union ((a :: b :: rest).map .reference) := rfl
  have hrender : (TypeExpr.union ((a :: b :: rest).map .reference)).render indent =
      " | ".intercalate (a :: b :: rest) := by
    rw [TypeExpr.render, renderMembers_references]
  rw [hunion, fieldType]
  split
  · exact hrender
  · rw [← String.toList_inj]
    simp [TypeExpr.render, renderMembers, parenthesized, TypeExpr.isCompound,
      renderMembers_references]

/-- The type of a field tells the names of the types that it is made of. -/
theorem tells_fieldType (key indent : String) {names names' : List String}
    (hperm : names.Perm names') (hwords : ∀ name ∈ names, IsWord name.toList) :
    Tells ((fieldType key (.unionOf (names.map .reference))).render indent ++ ";").toList
      ((fieldType key (.unionOf (names'.map .reference))).render indent ++ ";").toList
      (names = names') := by
  rcases eq_or_exists_of_perm hperm with rfl | ⟨hnames, hnames'⟩
  · exact .of_eq rfl rfl
  · have hne : names ≠ [] := by
      obtain ⟨a, b, rest, rfl⟩ := hnames
      exact List.cons_ne_nil _ _
    have hwords' : ∀ name ∈ names', IsWord name.toList :=
      fun name hname => hwords name (hperm.mem_iff.mpr hname)
    have hglue : " | ".toList = ' ' :: ['|', ' '] := rfl
    -- the names are read up to what follows them
    have htells : ∀ mark, Text.isWordChar mark = false →
        Tells ((" | ".intercalate names).toList ++ [mark])
          ((" | ".intercalate names').toList ++ [mark]) (names = names') :=
      fun mark hmark =>
        tells_names hglue (by decide) hmark hperm.length_eq hne hwords hwords'
    -- several names are written once in a marker, and twice in any other field
    rw [render_fieldType_references key indent hnames,
      render_fieldType_references key indent hnames']
    split
    · rw [String.toList_append, String.toList_append]
      exact htells ';' (by decide)
    · have htext : ∀ names : List String,
          ("(" ++ " | ".intercalate names ++ ") | (" ++ " | ".intercalate names ++ ")[]" ++
            ";").toList =
          "(".toList ++ (((" | ".intercalate names).toList ++ [')']) ++ (" | (".toList ++
            (((" | ".intercalate names).toList ++ [')']) ++ "[];".toList))) := by
        intro names
        simp [String.toList_append]
      rw [htext, htext]
      have hclosed := htells ')' (by decide)
      have hsecond := (hclosed.append_right "[];".toList).append_left " | (".toList
      exact ((hclosed.append hsecond).append_left "(".toList).congr (and_self_iff)

/-! ## Fields -/

/-- The indentation of fields consists of blanks. -/
theorem blank_indentStep : indentStep.toList.all (· = ' ') = true := by decide

/-- A comment with a notice is not empty. -/
theorem withNotice_ne_empty (description : Option String) (replacements : List String)
    (verb : String) : withNotice description (deprecationNotice replacements verb) ≠ "" := by
  -- the notice itself has a beginning
  have hnotice : deprecationNotice replacements verb ≠ "" := by
    intro h
    have hchars := congrArg String.toList h
    simp [deprecationNotice] at hchars
  unfold withNotice
  split
  · exact hnotice
  · exact hnotice
  · intro h
    have hchars := congrArg String.toList h
    simp at hchars

namespace PropertyOutline.Rearranged

variable {a b : PropertyOutline} (h : a.Rearranged b)
include h

/-- Rearranged properties are both superseded, or neither is. -/
theorem isEmpty_supersededBy : a.supersededBy.isEmpty = b.supersededBy.isEmpty :=
  h.supersededBy.isEmpty_eq

/-- Rearranged properties have comments together. -/
theorem comment_eq_empty_iff : a.comment.getD "" = "" ↔ b.comment.getD "" = "" := by
  unfold PropertyOutline.comment
  rw [h.isEmpty_supersededBy, h.description]
  split
  · rfl
  · exact iff_of_false (withNotice_ne_empty _ _ _) (withNotice_ne_empty _ _ _)

/-- The fields for two properties tell whether they agree. -/
theorem tells_field :
    Tells (a.field.render indentStep).toList (b.field.render indentStep).toList (a.Agrees b) := by
  -- the comment, what stands between, and the type
  have htext : ∀ property : PropertyOutline, (property.field.render indentStep).toList =
      (renderComment property.comment indentStep).toList ++
        ((indentStep ++ Text.quoted property.subject.readableName ++
          (if !isMarker property.subject.readableName then "?" else "") ++ ": ").toList ++
          (((fieldType property.subject.readableName
            (.unionOf (property.rangeNames.map .reference))).render indentStep ++ ";").toList ++
              "\n".toList)) := by
    intro property
    simp [PropertyOutline.field, Field.render, PropertyOutline.rangeNames, Function.comp_def]
  -- the names in the type are words
  have hwords : ∀ name ∈ a.rangeNames, IsWord name.toList := by
    intro name hname
    obtain ⟨subject, -, rfl⟩ := List.mem_map.mp hname
    exact isWord_givenName subject
  have hindent : ∀ c ∈ indentStep.toList, c = ' ' :=
    fun c hc => of_decide_eq_true (List.all_eq_true.mp blank_indentStep c hc)
  have hcomment := tells_renderComment h.comment_eq_empty_iff hindent
  have htype := tells_fieldType b.subject.readableName indentStep (h.range.map givenName) hwords
  rw [htext, htext, h.subject]
  -- between the comment and the type stands what is the same for both
  refine (hcomment.append ((htype.append_right "\n".toList).append_left _)).congr ?_
  exact ⟨fun hboth => ⟨hboth.2, hboth.1⟩, fun hab => ⟨hab.comment, hab.range⟩⟩

end PropertyOutline.Rearranged

/-- Fields that are rearranged pairwise tell whether they agree pairwise. -/
theorem tells_renderFields {properties properties' : List PropertyOutline}
    (h : List.Forall₂ PropertyOutline.Rearranged properties properties') :
    Tells (renderFields indentStep (properties.map PropertyOutline.field)).toList
      (renderFields indentStep (properties'.map PropertyOutline.field)).toList
      (List.Forall₂ PropertyOutline.Agrees properties properties') := by
  induction h with
  | nil => exact .of_eq rfl .nil
  | cons hab _ ih =>
    simp only [List.map_cons, renderFields, String.toList_append]
    exact (hab.tells_field.append ih).congr List.forall₂_cons.symm

/-! ## The class by itself -/

namespace Outline

variable (settings : Settings) (outline : Outline)

/-- The fields of a class: the one that distinguishes a leaf, and those of its properties. -/
theorem fields_eq : outline.fields settings =
    (if outline.isLeaf then
      [.mk discriminantKey (.literal outline.subject.readableName) false none] else []) ++
      (outline.shown settings).map PropertyOutline.field := by
  unfold Outline.fields
  split <;> rfl

/-- The text of a record of fields. -/
def recordText (fields : List Field) : String :=
  "\x7b\n" ++ renderFields indentStep fields ++ "\x7d"

/-- The text of a class by itself, from the names of its parents and its own fields. -/
def baseText : List String → List Field → String
  | [], [] => "never"
  | [], fields => recordText fields
  | names, [] => " & ".intercalate names
  | [name], fields => name ++ " & " ++ recordText fields
  | names, fields => "(" ++ " & ".intercalate names ++ ") & " ++ recordText fields

/-- The parents are referred to by these names. -/
theorem map_reference_parents :
    outline.parents.map (fun (subject, isBuiltin) =>
      TypeExpr.reference (baseNameFor subject isBuiltin)) =
        outline.parentNames.map .reference := by
  rw [parentNames, List.map_map]
  rfl

/-- The text of a base, by the names of the parents and the fields. -/
theorem render_base : (outline.base settings).render "" =
    baseText outline.parentNames (outline.fields settings) := by
  rw [Outline.base, map_reference_parents]
  generalize outline.parentNames = names
  generalize outline.fields settings = fields
  -- by the number of parents, and by whether there are fields
  cases names with
  | nil =>
    cases fields with
    | nil => rfl
    | cons field fields => simp [TypeExpr.intersectionOf?, TypeExpr.render, baseText, recordText]
  | cons name names =>
    cases names with
    | nil =>
      cases fields with
      | nil => simp [TypeExpr.intersectionOf?, TypeExpr.render, baseText]
      | cons field fields =>
        simp [TypeExpr.intersectionOf?, TypeExpr.render, baseText, recordText, renderMembers,
          parenthesized, TypeExpr.isCompound]
    | cons next names =>
      have hparents : (TypeExpr.intersection ((name :: next :: names).map .reference)).render "" =
          " & ".intercalate (name :: next :: names) := by
        rw [TypeExpr.render, renderMembers_references]
      cases fields with
      | nil =>
        change (TypeExpr.intersection ((name :: next :: names).map .reference)).render "" = _
        rw [hparents, baseText]
        exact fun h => List.cons_ne_nil _ _ h
      | cons field fields =>
        change (TypeExpr.intersection [.intersection ((name :: next :: names).map .reference),
          .record (field :: fields)]).render "" = _
        rw [TypeExpr.render, renderMembers, hparents, ← String.toList_inj]
        simp [renderMembers, TypeExpr.render, baseText, recordText, parenthesized,
          TypeExpr.isCompound]

/-- Behind the same parents, the fields tell whether they agree. -/
theorem tells_baseText {fields fields' : List Field} {agree : Prop}
    (hfields : Tells (recordText fields ++ ";").toList (recordText fields' ++ ";").toList agree)
    (hnone : fields = [] → fields' = [] ∧ agree) (hsome : fields ≠ [] → fields' ≠ [])
    (names : List String) :
    Tells (baseText names fields ++ ";").toList (baseText names fields' ++ ";").toList agree := by
  match fields, fields' with
  | [], fields' =>
    obtain ⟨rfl, hagree⟩ := hnone rfl
    exact .of_eq rfl hagree
  | field :: fields, [] => exact absurd rfl (hsome (List.cons_ne_nil _ _))
  -- whatever stands in front of the records is the same on both sides
  | field :: fields, field' :: fields' =>
    have hbehind : ∀ front : String,
        Tells (front ++ recordText (field :: fields) ++ ";").toList
          (front ++ recordText (field' :: fields') ++ ";").toList agree := by
      intro front
      simp only [String.toList_append, List.append_assoc] at hfields ⊢
      exact hfields.append_left front.toList
    match names with
    | [] => exact hfields
    | [name] => exact hbehind (name ++ " & ")
    | name :: next :: names =>
      exact hbehind ("(" ++ " & ".intercalate (name :: next :: names) ++ ") & ")

/-- Several parents tell their names, and the fields behind them whether they agree. -/
theorem tells_baseText_of_several {fields fields' : List Field} {agree : Prop}
    (hfields : Tells (recordText fields ++ ";").toList (recordText fields' ++ ";").toList agree)
    (hnone : fields = [] → fields' = [] ∧ agree) (hsome : fields ≠ [] → fields' ≠ [])
    {names names' : List String} (hlength : names.length = names'.length)
    (hnames : ∃ a b rest, names = a :: b :: rest) (hnames' : ∃ a b rest, names' = a :: b :: rest)
    (hwords : ∀ name ∈ names, IsWord name.toList) (hwords' : ∀ name ∈ names', IsWord name.toList) :
    Tells (baseText names fields ++ ";").toList (baseText names' fields' ++ ";").toList
      (names = names' ∧ agree) := by
  have hglue : " & ".toList = ' ' :: ['&', ' '] := rfl
  obtain ⟨a, b, rest, rfl⟩ := hnames
  obtain ⟨a', b', rest', rfl⟩ := hnames'
  have htells : ∀ mark, Text.isWordChar mark = false →
      Tells ((" & ".intercalate (a :: b :: rest)).toList ++ [mark])
        ((" & ".intercalate (a' :: b' :: rest')).toList ++ [mark])
        (a :: b :: rest = a' :: b' :: rest') :=
    fun mark hmark =>
      tells_names hglue (by decide) hmark hlength (List.cons_ne_nil _ _) hwords hwords'
  match fields, fields' with
  | [], fields' =>
    obtain ⟨rfl, hagree⟩ := hnone rfl
    have hjoined : Tells (" & ".intercalate (a :: b :: rest) ++ ";").toList
        (" & ".intercalate (a' :: b' :: rest') ++ ";").toList
        (a :: b :: rest = a' :: b' :: rest') := by
      rw [String.toList_append, String.toList_append]
      exact htells ';' (by decide)
    exact hjoined.congr (and_iff_left hagree).symm
  | field :: fields, [] => exact absurd rfl (hsome (List.cons_ne_nil _ _))
  | field :: fields, field' :: fields' =>
    -- the parents are closed by a parenthesis before the record begins
    have htext : ∀ (names : List String) (fields : List Field),
        ("(" ++ " & ".intercalate names ++ ") & " ++ recordText fields ++ ";").toList =
          "(".toList ++ (((" & ".intercalate names).toList ++ [')']) ++
            (" & ".toList ++ (recordText fields ++ ";").toList)) := by
      intro names fields
      simp [String.toList_append]
    change Tells ("(" ++ " & ".intercalate (a :: b :: rest) ++ ") & " ++
        recordText (field :: fields) ++ ";").toList
      ("(" ++ " & ".intercalate (a' :: b' :: rest') ++ ") & " ++
        recordText (field' :: fields') ++ ";").toList _
    rw [htext, htext]
    exact ((htells ')' (by decide)).append (hfields.append_left _)).append_left _

end Outline

namespace Outline.Rearranged

variable {a b : Outline} (h : a.Rearranged b) (settings : Settings)
include h

/-- Rearranged classes show rearranged properties, in one order. -/
theorem shown_rearranged :
    List.Forall₂ PropertyOutline.Rearranged (a.shown settings) (b.shown settings) :=
  List.rel_filter (fun _ _ hpq => by simp only [hpq.isEmpty_supersededBy]) h.properties

/-- Rearranged classes have the same parents, in any order. -/
theorem parentNames_perm : a.parentNames.Perm b.parentNames := h.parents.map _

/-- The own fields of two classes tell whether they agree. -/
theorem tells_fields :
    Tells (renderFields indentStep (a.fields settings)).toList
      (renderFields indentStep (b.fields settings)).toList
      (List.Forall₂ PropertyOutline.Agrees (a.shown settings) (b.shown settings)) := by
  have htells := tells_renderFields (h.shown_rearranged settings)
  rw [fields_eq, fields_eq, h.isLeaf, h.subject]
  split
  · simp only [List.cons_append, List.nil_append, renderFields, String.toList_append]
    exact htells.append_left _
  · exact htells

/-- Rearranged classes both have fields, or neither has. -/
theorem isEmpty_fields : (a.fields settings).isEmpty = (b.fields settings).isEmpty := by
  have hlength := (h.shown_rearranged settings).length_eq
  have hempty : ∀ fields fields' : List Field, fields.length = fields'.length →
      fields.isEmpty = fields'.isEmpty := by
    intro fields fields' hsame
    cases fields <;> cases fields' <;> simp_all
  refine hempty _ _ ?_
  rw [fields_eq, fields_eq, List.length_append, List.length_append, List.length_map,
    List.length_map, hlength, h.isLeaf]
  split <;> rfl

/-- The class by itself tells the names of the parents and whether the fields agree. -/
theorem tells_base :
    Tells ((a.base settings).render "" ++ ";").toList ((b.base settings).render "" ++ ";").toList
      (a.parentNames = b.parentNames ∧
        List.Forall₂ PropertyOutline.Agrees (a.shown settings) (b.shown settings)) := by
  have hfields := h.tells_fields settings
  have hempty := h.isEmpty_fields settings
  have hperm := h.parentNames_perm
  -- the names of the parents are words
  have hwords : ∀ name ∈ a.parentNames, IsWord name.toList := by
    intro name hname
    obtain ⟨⟨subject, isBuiltin⟩, -, rfl⟩ := List.mem_map.mp hname
    exact isWord_baseNameFor subject isBuiltin
  have hwords' : ∀ name ∈ b.parentNames, IsWord name.toList :=
    fun name hname => hwords name (hperm.mem_iff.mpr hname)
  -- the record around the fields tells no more than they do
  have hrecord : Tells (recordText (a.fields settings) ++ ";").toList
      (recordText (b.fields settings) ++ ";").toList
      (List.Forall₂ PropertyOutline.Agrees (a.shown settings) (b.shown settings)) := by
    simp only [recordText, String.toList_append, List.append_assoc]
    exact (hfields.append_right _).append_left _
  -- fields are missing on both sides or on none, and missing fields agree
  have hnone : a.fields settings = [] → b.fields settings = [] ∧
      List.Forall₂ PropertyOutline.Agrees (a.shown settings) (b.shown settings) := by
    intro hnil
    have hnil' : b.fields settings = [] := by
      rw [hnil] at hempty
      exact List.isEmpty_iff.mp hempty.symm
    exact ⟨hnil', hfields.eq_iff.mp (by rw [hnil, hnil'])⟩
  have hsome : a.fields settings ≠ [] → b.fields settings ≠ [] := by
    intro hne hnil
    rw [hnil] at hempty
    exact hne (List.isEmpty_iff.mp hempty)
  rw [render_base, render_base]
  -- parents in different orders are at least two, and are joined on both sides
  rcases eq_or_exists_of_perm hperm with hsame | ⟨hnames, hnames'⟩
  · rw [← hsame]
    exact (tells_baseText hrecord hnone hsome _).congr (by simp)
  · exact tells_baseText_of_several hrecord hnone hsome hperm.length_eq hnames hnames' hwords
      hwords'

end Outline.Rearranged

/-! ## The declarations -/

namespace Outline

/-- The text of the declarations of a class. -/
def text (settings : Settings) (outline : Outline) : String :=
  "".intercalate ((outline.declarations settings).map Declaration.render)

variable (settings : Settings) {outline : Outline}

/-- The text of a class that is not builtin, in the order in which it is read. -/
theorem toList_text (h : outline.primitive = none) :
    (outline.text settings).toList =
      ("".intercalate (outline.enumeration?.toList.map Declaration.render) ++
        "type " ++ (givenName outline.subject ++ "Base") ++ " = ").toList ++
      (((outline.base settings).render "" ++ ";").toList ++
        ("\n".toList ++
          ((renderComment outline.comment "").toList ++
            ("export type " ++ givenName outline.subject ++ " = " ++
              (outline.beside outline.closed).render "" ++ ";\n").toList))) := by
  rw [text, declarations, h]
  cases outline.enumeration? with
  | none => simp [Declaration.render, renderComment, exportMark]
  | some enumeration => simp [Declaration.render, renderComment, exportMark]

end Outline

namespace Outline.Rearranged

variable {a b : Outline} (h : a.Rearranged b) (settings : Settings)
include h

/-- What rearranged classes are closed over is the same. -/
theorem closed_eq : a.closed = b.closed := by
  rw [closed, closed, h.subject, h.primitive, h.children]

/-- What stands beside their enumerations is the same. -/
theorem beside_eq (shape : TypeExpr) : a.beside shape = b.beside shape := by
  rw [beside, beside, h.subject, h.members]

/-- Their enumerations are the same. -/
theorem enumeration?_eq : a.enumeration? = b.enumeration? := by
  rw [enumeration?, enumeration?, h.subject, h.members]

/-- Rearranged classes have comments together. -/
theorem comment_eq_empty_iff : a.comment.getD "" = "" ↔ b.comment.getD "" = "" := by
  unfold Outline.comment
  rw [h.primitive, h.supersededBy.isEmpty_eq, h.description]
  cases b.primitive with
  | some primitive => rfl
  | none =>
    dsimp only
    split
    · rfl
    · exact iff_of_false (withNotice_ne_empty _ _ _) (withNotice_ne_empty _ _ _)

/-- Builtin classes show nothing that could be rearranged. -/
theorem text_eq_of_builtin (hbuiltin : a.primitive.isSome = true) :
    a.text settings = b.text settings := by
  obtain ⟨primitive, hprimitive⟩ := Option.isSome_iff_exists.mp hbuiltin
  have hcomment : a.comment = b.comment := by
    rw [Outline.comment, Outline.comment, ← h.primitive, hprimitive]
  rw [text, text, declarations, declarations, h.enumeration?_eq, ← h.primitive, hprimitive,
    hcomment, h.subject]
  dsimp only
  rw [h.beside_eq (.keyword primitive.target)]

/-- **The texts of rearranged classes tell whether they agree.** Telling, and not just being
different, is what is needed: the texts of all classes stand one after another, and each has to say
where it ends. -/
theorem tells_text : Tells (a.text settings).toList (b.text settings).toList
    (a.primitive = none → a.Agrees settings b) := by
  cases ha : a.primitive with
  | some primitive =>
    -- a builtin data type is written alike for both
    rw [h.text_eq_of_builtin settings (by rw [ha]; rfl)]
    exact .of_eq rfl (fun hnone => nomatch hnone)
  | none =>
    have hb : b.primitive = none := h.primitive.symm.trans ha
    -- both have a comment, or neither has
    have hcomment : Tells (renderComment a.comment "").toList (renderComment b.comment "").toList
        (renderComment a.comment "" = renderComment b.comment "") :=
      tells_renderComment h.comment_eq_empty_iff fun c hc => absurd hc List.not_mem_nil
    rw [toList_text settings ha, toList_text settings hb, h.enumeration?_eq, h.subject, h.closed_eq,
      h.beside_eq]
    -- the second alias differs in its comment only
    have hwhole := fun back => (hcomment.append_right back).append_left "\n".toList
    refine (((h.tells_base settings).append (hwhole _)).append_left _).congr ?_
    constructor
    · exact fun ⟨⟨hparents, hfields⟩, hcomments⟩ _ => ⟨hparents, hcomments, hfields⟩
    · intro hagrees
      obtain ⟨hparents, hcomments, hfields⟩ := hagrees rfl
      exact ⟨⟨hparents, hfields⟩, hcomments⟩

end Outline.Rearranged

/-- What is put between texts tells nothing. -/
theorem tells_intercalate (glue : String) {items : List α} {f g : α → String} {p : α → Prop}
    (h : ∀ item ∈ items, Tells (f item).toList (g item).toList (p item)) :
    Tells (glue.intercalate (items.map f)).toList (glue.intercalate (items.map g)).toList
      (∀ item ∈ items, p item) := by
  simp only [String.toList_intercalate, List.map_map]
  -- one item at a time, with the glue between it and the next one
  induction items with
  | nil => exact .of_eq rfl (by simp)
  | cons item items ih =>
    obtain ⟨hfirst, hrest⟩ := List.forall_mem_cons.mp h
    cases items with
    | nil =>
      simp only [List.map_cons, List.map_nil, List.intercalate_singleton, Function.comp_apply]
      exact hfirst.congr (by simp)
    | cons next items =>
      have hlater := (ih hrest).append_left glue.toList
      simp only [List.map_cons, List.intercalate_cons_cons, Function.comp_apply,
        List.append_assoc] at hlater ⊢
      exact (hfirst.append hlater).congr List.forall_mem_cons.symm

/-- **Two modules are the same text exactly if their classes agree**, one by one. -/
theorem render_eq_iff (settings : Settings) {identifiers : List String} {f g : String → Outline}
    (h : ∀ identifier ∈ identifiers, (f identifier).Rearranged (g identifier)) :
    renderModule (identifiers.map fun identifier => (f identifier).declarations settings) =
        renderModule (identifiers.map fun identifier => (g identifier).declarations settings) ↔
      ∀ identifier ∈ identifiers,
        (f identifier).primitive = none → (f identifier).Agrees settings (g identifier) := by
  have htells := tells_intercalate "\n" fun identifier hidentifier =>
    (h identifier hidentifier).tells_text settings
  rw [renderModule, renderModule, ← String.toList_inj, String.toList_append, String.toList_append,
    List.append_cancel_left_eq, List.map_map, List.map_map]
  exact htells.eq_iff

end OntoTypes
