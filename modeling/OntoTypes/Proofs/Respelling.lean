import Mathlib.Data.List.Forall2
import OntoTypes.LinkedData.Member
import OntoTypes.Proofs.Distinct

/-!
# Value objects with other names for keywords

A context may declare other names for the keywords of the notation. What is looked for by all names
of a keyword is found under whichever of them it stands, as long as no name stands for two
keywords. The identifier and the type tags of a member are looked for in that way. The parts of a
value object are not: they are only found under the keywords themselves, so that an identifier, a
value or a language under another name is overlooked.

Main definitions and results:

* `Context.NamesApart`, `Context.Plain` — contexts and objects in which names cannot be mixed up;
* `Context.RespelledFields` — an object with other names for some of the keywords;
* `RespelledFields.get?_eq` — a keyword that is looked for by its names has the same value;
* `Overlooked`, `objectTerm_eq_iff` — a value object is read the same exactly if nothing in it is
  overlooked.
-/

namespace OntoTypes

section

variable {α β : Type} {R : α → β → Prop} {items : List α} {others : List β}

/-- An item on the left has its counterpart on the right. -/
theorem exists_of_mem_left (h : List.Forall₂ R items others) {a : α} (ha : a ∈ items) :
    ∃ b ∈ others, R a b := by
  induction h with
  | nil => cases ha
  | @cons first first' _ _ hfirst _ ih =>
    rcases List.mem_cons.mp ha with rfl | ha
    · exact ⟨first', List.mem_cons_self, hfirst⟩
    · obtain ⟨b, hb, hab⟩ := ih ha
      exact ⟨b, List.mem_cons_of_mem _ hb, hab⟩

/-- An item on the right has its counterpart on the left. -/
theorem exists_of_mem_right (h : List.Forall₂ R items others) {b : β} (hb : b ∈ others) :
    ∃ a ∈ items, R a b :=
  exists_of_mem_left (List.Forall₂.flip h) hb

end

namespace LinkedData

/-! ## Names of keywords -/

/-- The keywords by which members and value objects are read. -/
def readKeywords : List String := ["@id", "@type", "@value", "@language"]

/-- The value stays the same, whatever it stands under. -/
def Unchanged (_key : String) (value value' : Json) : Prop := value' = value

/-- Values under keywords stay the same. -/
def KeepsKeywords (related : String → Json → Json → Prop) : Prop :=
  ∀ keyword ∈ readKeywords, ∀ value value', related keyword value value' → value' = value

/-- What is not changed keeps what is read of keywords. -/
theorem keepsKeywords_unchanged : KeepsKeywords Unchanged := fun _ _ _ _ h => h

/-- The keywords by which members are read are reserved. -/
theorem isReserved_of_mem_readKeywords :
    ∀ keyword ∈ readKeywords, isReserved keyword = true := by
  decide

namespace Context

/-- The names of a keyword other than itself. -/
def otherNames (context : Context) (keyword : String) : List String :=
  (context.aliases.lookup keyword).getD []

/-- No name stands for two of the keywords. -/
def NamesApart (context : Context) : Prop :=
  ∀ keyword ∈ readKeywords, ∀ other ∈ readKeywords,
    ∀ name ∈ context.namesFor keyword, name ∈ context.namesFor other → keyword = other

instance (context : Context) : Decidable context.NamesApart :=
  inferInstanceAs (Decidable (∀ keyword ∈ readKeywords, ∀ other ∈ readKeywords,
    ∀ name ∈ context.namesFor keyword, name ∈ context.namesFor other → keyword = other))

/-- An object that uses no key twice, and no other names for the keywords. -/
structure Plain (context : Context) (fields : List (String × Json)) : Prop where
  nodup : (Keyed.keys fields).Nodup
  unaliased : ∀ keyword ∈ readKeywords, ∀ key ∈ Keyed.keys fields, key ∉ context.otherNames keyword

/-- The name is the key, or another name for it if it is one of the keywords. -/
def Respells (context : Context) (key name : String) : Prop :=
  name = key ∨ key ∈ readKeywords ∧ name ∈ context.otherNames key

/-- An object with other names for some of the keywords among its keys, the values being related in
some way. -/
def RespelledFields (context : Context) (related : String → Json → Json → Prop)
    (fields fields' : List (String × Json)) : Prop :=
  List.Forall₂ (fun entry entry' =>
    context.Respells entry.1 entry'.1 ∧ related entry.1 entry.2 entry'.2) fields fields'

/-- Nothing needs to be respelled. -/
theorem RespelledFields.refl (context : Context) (fields : List (String × Json)) :
    context.RespelledFields Unchanged fields fields :=
  List.forall₂_same.mpr fun _ _ => ⟨.inl rfl, rfl⟩

variable {context : Context} {keyword key name : String}

/-- A keyword is called by its other names, and by itself. -/
theorem mem_namesFor_iff :
    name ∈ context.namesFor keyword ↔ name ∈ context.otherNames keyword ∨ name = keyword := by
  rw [namesFor, List.mem_append, List.mem_singleton]
  rfl

/-- What takes the place of a key is a name of a keyword exactly if the key is that keyword. -/
theorem Respells.mem_namesFor_iff (h : context.Respells key name) (hnames : context.NamesApart)
    (hkeyword : keyword ∈ readKeywords) (hkey : key ∉ context.otherNames keyword) :
    name ∈ context.namesFor keyword ↔ key = keyword := by
  rw [Context.mem_namesFor_iff]
  rcases h with rfl | ⟨hread, hname⟩
  · simp [hkey]
  · constructor
    · -- a name is one of a single keyword
      intro hmem
      exact hnames key hread keyword hkeyword name
        (Context.mem_namesFor_iff.mpr (.inl hname)) (Context.mem_namesFor_iff.mpr hmem)
    · rintro rfl
      exact .inl hname

/-! ## Keywords that are looked for -/

section

variable {related : String → Json → Json → Prop} {fields fields' : List (String × Json)}
  {value : Json}

namespace RespelledFields

variable (h : context.RespelledFields related fields fields') (hkept : KeepsKeywords related)
  (hnames : context.NamesApart) (hplain : context.Plain fields)
  (hkeyword : keyword ∈ readKeywords)

include h hkept hnames hplain hkeyword

/-- What is found under a name of a keyword stood under the keyword itself. -/
theorem lookup_of_lookup (hname : name ∈ context.namesFor keyword)
    (hlookup : fields'.lookup name = some value) : fields.lookup keyword = some value := by
  obtain ⟨before, after, hsplit, -⟩ := List.lookup_eq_some_iff.mp hlookup
  have hmem : (name, value) ∈ fields' := hsplit ▸ List.mem_append_right _ List.mem_cons_self
  obtain ⟨⟨key, old⟩, hentry, hrespells, hrelated⟩ := exists_of_mem_right h hmem
  have hkey : key ∈ Keyed.keys fields := List.mem_map_of_mem hentry
  obtain rfl := (hrespells.mem_namesFor_iff hnames hkeyword
    (hplain.unaliased keyword hkeyword key hkey)).mp hname
  rw [Keyed.lookup_eq_some_iff_mem hplain.nodup]
  exact hkept key hkeyword old value hrelated ▸ hentry

/-- **By its names a keyword is found wherever it was.** -/
theorem findSome?_namesFor :
    (context.namesFor keyword).findSome? (fun name => fields'.lookup name) =
      fields.lookup keyword := by
  cases hsearch : (context.namesFor keyword).findSome? (fun name => fields'.lookup name) with
  | some value =>
    -- what is found was there, under the keyword
    obtain ⟨name, hname, hlookup⟩ := List.exists_of_findSome?_eq_some hsearch
    exact (lookup_of_lookup h hkept hnames hplain hkeyword hname hlookup).symm
  | none =>
    cases hlookup : fields.lookup keyword with
    | none => rfl
    | some value =>
      -- what stood under the keyword stands under one of its names now
      have hmem := (Keyed.lookup_eq_some_iff_mem hplain.nodup).mp hlookup
      obtain ⟨⟨name, new⟩, hentry, hrespells, -⟩ := exists_of_mem_left h hmem
      have hname := (hrespells.mem_namesFor_iff hnames hkeyword
        (hplain.unaliased keyword hkeyword keyword (List.mem_map_of_mem hmem))).mpr rfl
      have hnone := List.lookup_eq_none_iff.mp (List.findSome?_eq_none_iff.mp hsearch name hname)
      simpa using hnone _ hentry

/-- Under the keyword itself its value is found, or nothing. -/
theorem lookup_eq_or_eq_none :
    fields'.lookup keyword = fields.lookup keyword ∨ fields'.lookup keyword = none := by
  cases hlookup : fields'.lookup keyword with
  | none => exact .inr rfl
  | some value =>
    exact .inl (lookup_of_lookup h hkept hnames hplain hkeyword (mem_namesFor_iff.mpr (.inr rfl))
      hlookup).symm

end RespelledFields

/-- A keyword that is looked for by its names has the same value. -/
theorem RespelledFields.get?_eq (h : context.RespelledFields related fields fields')
    (hkept : KeepsKeywords related) (hnames : context.NamesApart) (hplain : context.Plain fields)
    (hkeyword : keyword ∈ readKeywords) :
    context.get? keyword fields' = context.get? keyword fields := by
  rw [get?, get?, findSome?_namesFor h hkept hnames hplain hkeyword,
    findSome?_namesFor (.refl context fields) keepsKeywords_unchanged hnames hplain hkeyword]

end

end Context

/-! ## References that cannot be read -/

/-- The computation fails for nothing but the authority of a reference. -/
def FailsByAuthority (x : Except Error α) : Prop :=
  ∀ e, x = .error e → ∃ reference, e = .malformedAuthority reference

namespace FailsByAuthority

/-- What does not fail does not fail otherwise. -/
theorem ok (a : α) : FailsByAuthority (.ok a) := fun _ h => nomatch h

/-- Two steps fail in that way only, if each of them does. -/
theorem bind {x : Except Error α} {f : α → Except Error β} (hx : FailsByAuthority x)
    (hf : ∀ a, FailsByAuthority (f a)) : FailsByAuthority (x >>= f) := by
  cases x with
  | error e => exact fun e' he => hx e' (by simpa [Bind.bind, Except.bind] using he)
  | ok a => exact hf a

/-- So does a choice between two steps. -/
theorem ite {condition : Prop} [Decidable condition] {x y : Except Error α}
    (hx : FailsByAuthority x) (hy : FailsByAuthority y) :
    FailsByAuthority (if condition then x else y) := by
  split
  · exact hx
  · exact hy

end FailsByAuthority

/-- Taking a reference apart fails only by its authority. -/
theorem failsByAuthority_ofChars (cs : List Char) : FailsByAuthority (IriParts.ofChars cs) := by
  unfold IriParts.ofChars
  refine .ite (.ok _) ?_
  rintro e h
  cases h
  exact ⟨_, rfl⟩

/-- So does joining it to a base. -/
theorem failsByAuthority_joinReference (base reference : List Char) :
    FailsByAuthority (joinReference base reference) :=
  .ite (.ok _) <| .ite (.ok _) <| .bind (failsByAuthority_ofChars _) fun _ =>
    .bind (failsByAuthority_ofChars _) fun _ =>
      .ite (.ok _) (.ite (.ok _) (.ite (.ok _) (.ok _)))

/-- And resolving it does, which is these two steps. -/
theorem failsByAuthority_resolveReference (base reference : String) :
    FailsByAuthority (resolveReference base reference) := by
  have hshorten : ∀ cs, FailsByAuthority (shortenReference cs) :=
    fun cs => .bind (failsByAuthority_ofChars cs) fun _ => .ok _
  have hname : ∀ root parts, FailsByAuthority (resolveInName root parts) :=
    fun root parts => .bind (failsByAuthority_joinReference _ _) fun _ => .ok _
  exact .ite (.ok _) <| .bind (failsByAuthority_ofChars _) fun root =>
    .bind (failsByAuthority_ofChars _) fun parts => .ite (.ok _) <|
      .ite (.bind (hname root parts) fun _ => .ok _)
        (.bind (failsByAuthority_joinReference _ _) fun _ => .bind (hshorten _) fun _ => .ok _)

/-- Whatever a context does to a name before it is resolved, nothing else can fail. -/
theorem failsByAuthority_resolve (context : Context) (reference : String) :
    FailsByAuthority (context.resolve reference) := by
  have hiri : ∀ name, FailsByAuthority (context.resolveIri name) :=
    failsByAuthority_resolveReference context.base
  -- a compact name either needs no resolving, or is resolved as it stands
  have hcompact : FailsByAuthority (context.expandCompact reference) := by
    unfold Context.expandCompact
    repeat' split
    all_goals first | exact .ok _ | exact hiri reference
  unfold Context.resolve
  dsimp only
  exact .ite (.bind (.ok _) fun _ => .ite (.ok _) (.ite (.ok _) (hiri _)))
    (.bind hcompact fun _ => .ite (.ok _) (.ite (.ok _) (hiri _)))

/-! ## Value objects -/

/-- Numbers and truth values take no language. -/
def takesLanguage : Json → Bool
  | .integer _ | .real _ | .bool _ => false
  | _ => true

/-- The literal that is made of a value in a language, or in none. -/
def literalOf (given : Json) (language : Option String) : Literal :=
  match given with
  | .text s => { lexical := s, language := language }
  | .integer n => { lexical := toString n, datatype := some Literal.integerType }
  | .real x => { lexical := x.text, datatype := some Literal.doubleType }
  | .bool b => { lexical := if b then "true" else "false", datatype := some Literal.booleanType }
  | .null | .array _ | .object _ => { lexical := given.display, language := language }

/-- Whether a value is read differently without its language. -/
def TellsLanguage (given : Json) : Json → Prop
  | .null => False
  | .text tag => tag ≠ "" ∧ (Literal.isLanguageTag tag = true → takesLanguage given = true)
  | _ => True

/-- Whether a value object is read differently when it is written with other names for keywords. It
is read by its identifier, or else by its value together with a language; so these are looked for
in the second object. If it has neither, it is shown as it is written. -/
def Overlooked (fields fields' : List (String × Json)) : Prop :=
  match fields.lookup "@id", fields.lookup "@value" with
  | some _, _ => fields'.lookup "@id" = none
  | none, some given =>
    fields'.lookup "@value" = none ∨ fields'.lookup "@language" = none ∧
      TellsLanguage given ((fields.lookup "@language").getD .null)
  | none, none => fields' ≠ fields

/-- Whether a value is read differently when it is respelled. -/
def Misread : Json → Json → Prop
  | .object fields, .object fields' => Overlooked fields fields'
  | _, _ => False

/-- A language is kept by every literal that can have one. -/
theorem literalOf_eq_iff (given : Json) (tag : String) :
    literalOf given none = literalOf given (some tag) ↔ takesLanguage given = false := by
  cases given <;> simp [literalOf, takesLanguage]

/-- How a literal is made of a value object. -/
theorem valueObject_eq (fields : List (String × Json)) (given : Json) :
    Context.valueObject fields given =
      match (fields.lookup "@language").getD .null with
      | .null => .ok (.literal (literalOf given none))
      | .text tag =>
        if tag = "" then .ok (.literal (literalOf given none))
        else if Literal.isLanguageTag tag then .ok (.literal (literalOf given (some tag)))
        else .error (.badLanguageTag tag)
      | _ => .error .languageNotText := by
  -- without a language, a literal is made of whatever is given
  have hplain : ∀ language, language.filter (· ≠ "") = none →
      Literal.ofJson given language = .ok (literalOf given none) := by
    intro language hlanguage
    have htext : Literal.ofText "" language none = .ok { lexical := "" } := by
      unfold Literal.ofText
      rw [hlanguage]
    rw [Literal.ofJson, htext]
    cases given <;> rfl
  -- and with one if it is well-formed
  have htagged : ∀ tag, tag ≠ "" → Literal.ofJson given (some tag) =
      if Literal.isLanguageTag tag then .ok (literalOf given (some tag))
      else .error (.badLanguageTag tag) := by
    intro tag htag
    have hfilter : (some tag).filter (· ≠ "") = some tag := by simpa using htag
    have htext : Literal.ofText "" (some tag) none =
        if Literal.isLanguageTag tag then .ok { lexical := "", language := some tag }
        else .error (.badLanguageTag tag) := by
      unfold Literal.ofText
      rw [hfilter]
    rw [Literal.ofJson, htext]
    split
    · cases given <;> rfl
    · rfl
  rw [Context.valueObject]
  -- no language, an empty one or another text, or something that is no text
  cases (fields.lookup "@language").getD .null with
  | null =>
    show (Literal.ofJson given none).bind _ = _
    rw [hplain none rfl]
    rfl
  | text tag =>
    show (Literal.ofJson given (some tag)).bind _ = _
    by_cases hempty : tag = ""
    · subst hempty
      rw [hplain (some "") rfl]
      rfl
    · rw [htagged tag hempty]
      simp only [if_neg hempty]
      split <;> rfl
  | _ => rfl

/-- A literal without its language is the same exactly if the language tells nothing. -/
theorem valueObject_eq_iff (given : Json) {fields fields' : List (String × Json)}
    (h : fields'.lookup "@language" = none) :
    Context.valueObject fields' given = Context.valueObject fields given ↔
      ¬ TellsLanguage given ((fields.lookup "@language").getD .null) := by
  rw [valueObject_eq, valueObject_eq, h, Option.getD_none]
  cases (fields.lookup "@language").getD .null with
  | null => simp [TellsLanguage]
  | text tag =>
    by_cases hempty : tag = ""
    · simp [TellsLanguage, hempty]
    · by_cases hvalid : Literal.isLanguageTag tag = true
      · simp [TellsLanguage, hempty, hvalid, literalOf_eq_iff]
      · simp [TellsLanguage, hempty, hvalid]
  | _ => simp [TellsLanguage]

/-- How reading a literal can end. -/
theorem valueObject_cases (fields : List (String × Json)) (given : Json) :
    (∃ l, Context.valueObject fields given = .ok (.literal l)) ∨
      Context.valueObject fields given = .error .languageNotText ∨
      ∃ tag, Context.valueObject fields given = .error (.badLanguageTag tag) := by
  rw [valueObject_eq]
  split
  · exact .inl ⟨_, rfl⟩
  · split_ifs
    · exact .inl ⟨_, rfl⟩
    · exact .inl ⟨_, rfl⟩
    · exact .inr (.inr ⟨_, rfl⟩)
  · exact .inr (.inl rfl)

namespace Context

variable {fields fields' : List (String × Json)}

/-- How reading a node can end. -/
theorem nodeOf_cases (context : Context) (value : Json) :
    (∃ node, context.nodeOf value = .ok node ∧ ∀ l, node ≠ .literal l) ∨
      context.nodeOf value = .error .identifierNotText ∨
      ∃ reference, context.nodeOf value = .error (.malformedAuthority reference) := by
  cases value with
  | text reference =>
    rw [nodeOf, nodeTerm]
    split
    · exact .inl ⟨_, rfl, fun _ h => nomatch h⟩
    · -- any text that names no blank node is resolved
      cases hresolve : context.resolve reference with
      | ok iri => exact .inl ⟨.iri iri, rfl, fun _ h => nomatch h⟩
      | error e =>
        obtain ⟨reference, rfl⟩ := failsByAuthority_resolve context _ e hresolve
        exact .inr (.inr ⟨reference, rfl⟩)
  | _ => exact .inr (.inl rfl)

/-- No reference to a node reads like a literal. -/
theorem nodeOf_ne_valueObject (context : Context) (reference given : Json)
    (fields : List (String × Json)) : context.nodeOf reference ≠ valueObject fields given := by
  intro heq
  rcases valueObject_cases fields given with ⟨l, h⟩ | h | ⟨tag, h⟩ <;> rw [h] at heq <;>
    rcases nodeOf_cases context reference with ⟨node, hnode, hne⟩ | hnode | ⟨_, hnode⟩ <;>
      simp_all

variable {context : Context}

/-- With an identifier, a value object stands for a node. -/
theorem objectTerm_of_id {reference : Json} (h : fields.lookup "@id" = some reference)
    (key : String) : context.objectTerm key (.object fields) = context.nodeOf reference := by
  rw [objectTerm, h]

/-- Without one, but with a value, it stands for a literal. -/
theorem objectTerm_of_value {given : Json} (hid : fields.lookup "@id" = none)
    (h : fields.lookup "@value" = some given) (key : String) :
    context.objectTerm key (.object fields) = valueObject fields given := by
  rw [objectTerm, hid]
  dsimp only
  rw [h]

/-- With neither of them, it cannot be read. -/
theorem objectTerm_of_neither (hid : fields.lookup "@id" = none)
    (hvalue : fields.lookup "@value" = none) (key : String) :
    context.objectTerm key (.object fields) = .error (.unsupportedValue key (.object fields)) := by
  rw [objectTerm, hid]
  dsimp only
  rw [hvalue]

/-- **A value object is read the same exactly if nothing in it is overlooked.** -/
theorem objectTerm_eq_iff (h : context.RespelledFields Unchanged fields fields')
    (hnames : context.NamesApart) (hplain : context.Plain fields) (key : String) :
    context.objectTerm key (.object fields') = context.objectTerm key (.object fields) ↔
      ¬ Overlooked fields fields' := by
  -- each of the three keywords is found where it was, or not at all
  have hid := h.lookup_eq_or_eq_none keepsKeywords_unchanged hnames hplain
    (by decide : "@id" ∈ readKeywords)
  have hvalue := h.lookup_eq_or_eq_none keepsKeywords_unchanged hnames hplain
    (by decide : "@value" ∈ readKeywords)
  have hlanguage := h.lookup_eq_or_eq_none keepsKeywords_unchanged hnames hplain
    (by decide : "@language" ∈ readKeywords)
  unfold Overlooked
  -- the identifier comes first: if there is one, nothing else is read
  cases hreference : fields.lookup "@id" with
  | some reference =>
    rw [hreference] at hid
    rw [objectTerm_of_id hreference]
    rcases hid with hid | hid
    · -- it is still found, and stands for the same node
      simp [objectTerm_of_id hid, hid]
    · -- it is taken for a literal now, or for nothing that can be read
      have hne : context.objectTerm key (.object fields') ≠ context.nodeOf reference := by
        cases hgiven : fields'.lookup "@value" with
        | some given =>
          rw [objectTerm_of_value hid hgiven]
          exact (nodeOf_ne_valueObject context reference given fields').symm
        | none =>
          rw [objectTerm_of_neither hid hgiven]
          rcases nodeOf_cases context reference with ⟨_, hnode, -⟩ | hnode | ⟨_, hnode⟩ <;>
            simp [hnode]
      simp [hid, hne]
  | none =>
    -- there was no identifier, and there is none now; then the value is looked for
    obtain hid : fields'.lookup "@id" = none := by simpa [hreference] using hid
    cases hgiven : fields.lookup "@value" with
    | some given =>
      rw [hgiven] at hvalue
      rw [objectTerm_of_value hreference hgiven]
      rcases hvalue with hvalue | hvalue
      · -- it is still found, so that only the language can have been lost
        rw [objectTerm_of_value hid hvalue]
        by_cases hnone : fields'.lookup "@language" = none
        · simp [valueObject_eq_iff given hnone, hvalue, hnone]
        · have hsame : valueObject fields' given = valueObject fields given := by
            rw [valueObject_eq, valueObject_eq, hlanguage.resolve_right hnone]
          simp [hsame, hvalue, hnone]
      · -- it is not found any more, and without a value the object cannot be read
        have hne : context.objectTerm key (.object fields') ≠ valueObject fields given := by
          rw [objectTerm_of_neither hid hvalue]
          rcases valueObject_cases fields given with ⟨_, hread⟩ | hread | ⟨_, hread⟩ <;>
            simp [hread]
        simp [hvalue, hne]
    | none =>
      -- there was neither of them, and the object cannot be read with either spelling
      obtain hvalue : fields'.lookup "@value" = none := by simpa [hgiven] using hvalue
      rw [objectTerm_of_neither hreference hgiven, objectTerm_of_neither hid hvalue]
      simp

/-- A value, or a value object with other names for some of the keywords among its keys. -/
inductive RespelledElement (context : Context) : Json → Json → Prop
  | unchanged (value : Json) : RespelledElement context value value
  | object {fields fields' : List (String × Json)}
      (h : context.RespelledFields Unchanged fields fields') :
      RespelledElement context (.object fields) (.object fields')

/-- The values under a key, each respelled or not. -/
inductive RespelledValue (context : Context) : Json → Json → Prop
  | single {value value' : Json} (h : context.RespelledElement value value') :
      RespelledValue context value value'
  | array {items items' : List Json} (h : List.Forall₂ context.RespelledElement items items') :
      RespelledValue context (.array items) (.array items')

/-- The elements of a value are respelled one by one. -/
theorem RespelledValue.elements {value value' : Json} (h : context.RespelledValue value value') :
    List.Forall₂ context.RespelledElement value.elements value'.elements := by
  cases h with
  | single h =>
    cases h with
    | unchanged value => exact List.forall₂_same.mpr fun _ _ => .unchanged _
    | object h => exact .cons (.object h) .nil
  | array h => exact h

/-- A value is read the same exactly if it is not misread. -/
theorem RespelledElement.objectTerm_eq_iff {value value' : Json}
    (h : context.RespelledElement value value') (hnames : context.NamesApart)
    (hplain : ∀ fields, value = .object fields → context.Plain fields) (key : String) :
    context.objectTerm key value' = context.objectTerm key value ↔ ¬ Misread value value' := by
  cases h with
  | object h => exact Context.objectTerm_eq_iff h hnames (hplain _ rfl) key
  | unchanged value =>
    cases value with
    | object fields =>
      exact Context.objectTerm_eq_iff (.refl context fields) hnames (hplain _ rfl) key
    | _ => simp [Misread]

end Context

end LinkedData

end OntoTypes
