import OntoTypes.Proofs.Respelling
import OntoTypes.Proofs.Splicing

/-!
# Members with other names for keywords

A member states the same facts, or fails for the same reason, when it is written with other names
that the context has for the keywords, unless something in it is misread. There are two ways for
that: a value object has a part that is only looked for under the keyword itself, or a keyword that
says nothing about a member, as `@value` does, has another name there, which is taken for a
predicate. Nothing is ever stated less, so what is misread at one place is not made up for at
another one.

Main definitions and results:

* `Context.RespelledUnder`, `Context.PlainMember` — members with and without other names;
* `Context.MisreadMember` — whether something in a member is misread;
* `outcome_entryFacts_cases` — what an entry states before and after;
* `memberFacts_respelled` — a member that states facts keeps stating them exactly if nothing in it
  is misread.
-/

namespace OntoTypes

/-! ## Steps that may fail -/

section

variable {α β ε : Type}

/-- What is found after a further step without failure. -/
theorem map_eq_ok_iff {f : α → β} {x : Except ε α} {b : β} :
    x.map f = .ok b ↔ ∃ a, x = .ok a ∧ f a = b := by
  cases x <;> simp [Except.map]

/-- A step that loses nothing loses nothing of an outcome. -/
theorem map_injective {f : α → β} (hf : Function.Injective f) :
    Function.Injective (Except.map f : Except ε α → Except ε β) := by
  intro x y h
  cases x <;> cases y <;> simp [Except.map, hf.eq_iff] at h ⊢ <;> exact h

/-- Steps succeed together exactly if they succeed one by one. -/
theorem mapM_eq_ok_iff {f : α → Except ε β} {items : List α} {found : List β} :
    items.mapM f = .ok found ↔ List.Forall₂ (fun a b => f a = .ok b) items found := by
  induction items generalizing found with
  | nil => cases found <;> simp [pure, Except.pure]
  | cons a items ih =>
    rw [List.mapM_cons, List.forall₂_cons_left_iff]
    simp only [← ih]
    cases f a with
    | error e => simp [bind, Except.bind]
    | ok first =>
      cases items.mapM f <;> simp [bind, Except.bind, pure, Except.pure, eq_comm]

variable {f : α → Except ε β} {items items' : List α} {found found' : List β}

/-- Steps that are the same pairwise are the same together. -/
theorem mapM_eq_of_forall₂ (h : List.Forall₂ (fun a b => f b = f a) items items') :
    items'.mapM f = items.mapM f := by
  induction h with
  | nil => rfl
  | cons hfirst _ ih => rw [List.mapM_cons, List.mapM_cons, hfirst, ih]

/-- Steps that succeed find the same together exactly if they find the same pairwise. -/
theorem mapM_eq_ok_iff_forall₂ (hlength : items.length = items'.length)
    (h : items.mapM f = .ok found) :
    items'.mapM f = .ok found ↔ List.Forall₂ (fun a b => f b = f a) items items' := by
  refine ⟨fun h' => ?_, fun hsame => (mapM_eq_of_forall₂ hsame).trans h⟩
  rw [mapM_eq_ok_iff] at h h'
  -- along the items and what is found for them
  induction h generalizing items' with
  | nil =>
    cases h'
    exact .nil
  | cons hfirst _ ih =>
    cases h' with
    | cons hfirst' hothers' =>
      exact .cons (hfirst'.trans hfirst.symm) (ih (Nat.succ.inj hlength) hothers')

/-- What is found in related steps is related pairwise. -/
theorem forall₂_of_mapM {R : α → α → Prop} {S : β → β → Prop}
    (hS : ∀ a b, R a b → ∀ found found', f a = .ok found → f b = .ok found' → S found found')
    (hitems : List.Forall₂ R items items') (h : items.mapM f = .ok found)
    (h' : items'.mapM f = .ok found') : List.Forall₂ S found found' := by
  rw [mapM_eq_ok_iff] at h h'
  induction hitems generalizing found found' with
  | nil =>
    cases h
    cases h'
    exact .nil
  | cons hab _ ih =>
    cases h with
    | cons hfirst hothers =>
      cases h' with
      | cons hfirst' hothers' => exact .cons (hS _ _ hab _ _ hfirst hfirst') (ih hothers hothers')

/-- Pieces of which the second ones are nowhere shorter make up the same whole only if they are the
same. -/
theorem eq_of_flatten_eq {pieces pieces' : List (List β)}
    (h : List.Forall₂ (fun piece piece' => piece.length ≤ piece'.length) pieces pieces')
    (heq : pieces'.flatten = pieces.flatten) : pieces' = pieces := by
  -- pieces that are nowhere shorter make up a whole that is not shorter
  have hlength : ∀ {pieces pieces' : List (List β)},
      List.Forall₂ (fun piece piece' => piece.length ≤ piece'.length) pieces pieces' →
        pieces.flatten.length ≤ pieces'.flatten.length := by
    intro pieces pieces' h
    induction h with
    | nil => exact Nat.le_refl _
    | cons hfirst _ ih =>
      rw [List.flatten_cons, List.flatten_cons, List.length_append, List.length_append]
      exact Nat.add_le_add hfirst ih
  induction h with
  | nil => rfl
  | @cons piece piece' _ _ hfirst hothers ih =>
    rw [List.flatten_cons, List.flatten_cons] at heq
    have hwhole := congrArg List.length heq
    rw [List.length_append, List.length_append] at hwhole
    have hothersLength := hlength hothers
    -- a longer piece would leave too little room for the others
    obtain ⟨hpiece, hrest⟩ := List.append_inj heq (by omega)
    rw [hpiece, ih hrest]

end

namespace Attempt

/-- The outcome of steps with messages is that of the steps without. -/
theorem outcome_mapM {α β : Type} (items : List α) (f : α → Attempt β) :
    (items.mapM f).outcome = items.mapM fun a => (f a).outcome := by
  induction items with
  | nil => rfl
  | cons a items ih =>
    rw [List.mapM_cons, List.mapM_cons, outcome_bind]
    refine congrArg _ (funext fun first => ?_)
    rw [outcome_bind, ih]
    rfl

end Attempt

namespace LinkedData

/-! ## What members and their entries state -/

section

variable {context : Context} {subject : Term} {key : String} {value : Json}

/-- Whether a key is taken for a keyword in a member. -/
def Context.isKeyword (context : Context) (key : String) : Bool :=
  isReserved key || (context.namesFor "@id").contains key || (context.namesFor "@type").contains key

/-- Nothing is stated under a keyword. -/
theorem outcome_entryFacts_of_keyword (h : context.isKeyword key = true) :
    (entryFacts context subject key value).outcome = .ok [] := by
  rw [Context.isKeyword] at h
  rw [entryFacts, if_pos h]
  rfl

/-- What is stated under a predicate. -/
theorem outcome_entryFacts_of_predicate (h : context.isKeyword key = false) :
    (entryFacts context subject key value).outcome =
      match context.predicateIri key with
      | .error e => .error e
      | .ok none => .ok []
      | .ok (some iri) => value.elements.mapM fun element =>
          (context.objectTerm key element).map fun term => ⟨subject, .ofIri iri, term⟩ := by
  rw [Context.isKeyword] at h
  rw [entryFacts, if_neg (by rw [h]; exact Bool.false_ne_true), Attempt.outcome_bind,
    Attempt.outcome_ofExcept]
  -- a key that the context does not map is reported and dropped, which leaves no fact
  cases context.predicateIri key with
  | error e => rfl
  | ok iri =>
    cases iri with
    | none => rfl
    | some iri =>
      show (value.elements.mapM _ : Attempt (List Fact)).outcome = _
      rw [Attempt.outcome_mapM]
      refine congrArg (List.mapM · value.elements) (funext fun element => ?_)
      rw [Attempt.outcome_bind, Attempt.outcome_ofExcept]
      cases context.objectTerm key element <;> rfl

/-- The facts that the type tags of a member state. -/
def typeFacts (context : Context) (subject : Term) (tags : Option Json) :
    Except Error (List Fact) :=
  (tags.getD .null).elements.mapM fun tag =>
    (context.typeTag tag).map fun type => ⟨subject, .known .type, type⟩

/-- What the entries of a member state comes after what its type tags state. -/
theorem outcome_memberFacts (context : Context) (fields : List (String × Json)) :
    (memberFacts context fields).outcome =
      (context.nodeOf ((context.get? "@id" fields).getD .null)).bind fun subject =>
        (typeFacts context subject (context.get? "@type" fields)).bind fun types =>
          (fields.mapM fun entry => (entryFacts context subject entry.1 entry.2).outcome).map
            fun others => types ++ others.flatten := by
  rw [memberFacts, Attempt.outcome_bind, Attempt.outcome_ofExcept]
  refine congrArg _ (funext fun subject => ?_)
  -- one fact for each type tag that can be read
  have htag : ∀ tag, (do
      return (⟨subject, .known .type, ← Attempt.ofExcept (context.typeTag tag)⟩ : Fact) :
        Attempt Fact).outcome =
      (context.typeTag tag).map fun type => ⟨subject, .known .type, type⟩ := by
    intro tag
    rw [Attempt.outcome_bind, Attempt.outcome_ofExcept]
    cases context.typeTag tag <;> rfl
  dsimp only
  rw [Attempt.outcome_bind, Attempt.outcome_mapM]
  simp only [htag]
  refine congrArg _ (funext fun types => ?_)
  rw [Attempt.outcome_bind, Attempt.outcome_mapM]
  cases fields.mapM fun entry => (entryFacts context subject entry.1 entry.2).outcome <;> rfl

end

/-! ## Respelled members -/

namespace Context

/-- The values under a key of a member, respelled or not if the key is a predicate. -/
def RespelledUnder (context : Context) (key : String) (value value' : Json) : Prop :=
  if isReserved key then value' = value else context.RespelledValue value value'

/-- Respelling the values of an entry leaves what is read of keywords. -/
theorem keepsKeywords_respelledUnder (context : Context) :
    KeepsKeywords context.RespelledUnder := by
  intro keyword hkeyword value value' h
  rwa [RespelledUnder, if_pos (isReserved_of_mem_readKeywords keyword hkeyword)] at h

/-- An entry whose key is no other name for a keyword, and that uses none in its value objects. -/
structure PlainEntry (context : Context) (entry : String × Json) : Prop where
  unaliased : ∀ keyword ∈ readKeywords, entry.1 ∉ context.otherNames keyword
  values : isReserved entry.1 = false →
    ∀ parts, .object parts ∈ entry.2.elements → context.Plain parts

/-- A member that uses no key twice, and no other names for the keywords. -/
structure PlainMember (context : Context) (fields : List (String × Json)) : Prop where
  nodup : (Keyed.keys fields).Nodup
  entries : ∀ entry ∈ fields, context.PlainEntry entry

/-- A member without other names has none at its top level. -/
theorem PlainMember.plain {context : Context} {fields : List (String × Json)}
    (h : context.PlainMember fields) : context.Plain fields where
  nodup := h.nodup
  unaliased keyword hkeyword key hkey := by
    obtain ⟨entry, hentry, rfl⟩ := List.mem_map.mp hkey
    exact (h.entries entry hentry).unaliased keyword hkeyword

/-- Whether something is stated, or goes wrong, under a key that is taken for a predicate. -/
def StatesUnder (context : Context) (key : String) (value : Json) : Prop :=
  match context.predicateIri key with
  | .ok (some _) => value.elements ≠ []
  | .ok none => False
  | .error _ => True

/-- Whether an entry of a member is read differently when it is respelled: something that is no
predicate is taken for one, or a value under a predicate is misread. -/
def MisreadEntry (context : Context) (entry entry' : String × Json) : Prop :=
  if isReserved entry.1 then
    entry.1 ∈ ["@value", "@language"] ∧ isReserved entry'.1 = false ∧
      context.StatesUnder entry'.1 entry'.2
  else
    (∃ iri, context.predicateIri entry.1 = .ok (some iri)) ∧
      ∃ pair ∈ entry.2.elements.zip entry'.2.elements, Misread pair.1 pair.2

end Context

section

variable {context : Context} {subject : Term} {entry entry' : String × Json}

/-- What takes the place of a key is taken for a keyword if it looks like one or the key is the one
of the identifier or of the type. -/
theorem Context.Respells.isKeyword_iff {key name : String} (h : context.Respells key name)
    (hnames : context.NamesApart)
    (hkey : ∀ keyword ∈ readKeywords, key ∉ context.otherNames keyword) :
    context.isKeyword name = true ↔ isReserved name = true ∨ key = "@id" ∨ key = "@type" := by
  have hid := h.mem_namesFor_iff hnames (by decide : "@id" ∈ readKeywords) (hkey _ (by decide))
  have htype := h.mem_namesFor_iff hnames (by decide : "@type" ∈ readKeywords) (hkey _ (by decide))
  simp only [isKeyword, Bool.or_eq_true, List.contains_iff_mem, hid, htype, or_assoc]

/-- Nothing is found under a predicate exactly if nothing is stated under it. -/
theorem outcome_entryFacts_eq_nil_iff {key : String} {value : Json}
    (h : context.isKeyword key = false) :
    (entryFacts context subject key value).outcome = .ok [] ↔ ¬ context.StatesUnder key value := by
  rw [outcome_entryFacts_of_predicate h, Context.StatesUnder]
  cases context.predicateIri key with
  | error e => simp
  | ok iri =>
    cases iri with
    | none => simp
    | some iri =>
      cases value.elements with
      | nil => exact iff_of_true rfl (not_not_intro rfl)
      | cons element elements =>
        refine iff_of_false (fun hnil => ?_) (not_not_intro (List.cons_ne_nil _ _))
        cases mapM_eq_ok_iff.mp hnil

/-- What stands under another name of a keyword is left out like the keyword exactly if it is not
misread. -/
theorem outcome_entryFacts_of_reserved (hnames : context.NamesApart)
    (hplain : ∀ keyword ∈ readKeywords, entry.1 ∉ context.otherNames keyword)
    (hreserved : isReserved entry.1 = true) (hkey : context.Respells entry.1 entry'.1) :
    (entryFacts context subject entry'.1 entry'.2).outcome = .ok [] ↔
      ¬ context.MisreadEntry entry entry' := by
  rw [Context.MisreadEntry, if_pos hreserved]
  have hkeyword := hkey.isKeyword_iff hnames hplain
  cases hname : context.isKeyword entry'.1 with
  | true =>
    refine iff_of_true (outcome_entryFacts_of_keyword hname) ?_
    rintro ⟨hstray, hunreserved, -⟩
    rw [hname, hunreserved] at hkeyword
    -- then the key is the one of the identifier or of the type, which are left out by all names
    rcases hkeyword.mp rfl with h | h | h
    · cases h
    · simp [h] at hstray
    · simp [h] at hstray
  | false =>
    rw [hname] at hkeyword
    obtain ⟨hunreserved, hid, htype⟩ : isReserved entry'.1 = false ∧ entry.1 ≠ "@id" ∧
        entry.1 ≠ "@type" := by simpa using hkeyword
    -- a key that is reserved and takes another name is a keyword
    have hread : entry.1 ∈ readKeywords := by
      rcases hkey with hsame | ⟨hread, -⟩
      · rw [hsame, hreserved] at hunreserved
        cases hunreserved
      · exact hread
    have hstray : entry.1 ∈ ["@value", "@language"] := by
      simpa [readKeywords, hid, htype] using hread
    rw [outcome_entryFacts_eq_nil_iff hname]
    simp [hstray, hunreserved]

/-- A key that is not reserved keeps its name, and is a predicate. -/
theorem isKeyword_of_unreserved (hnames : context.NamesApart)
    (hplain : ∀ keyword ∈ readKeywords, entry.1 ∉ context.otherNames keyword)
    (hunreserved : isReserved entry.1 = false) (hkey : context.Respells entry.1 entry'.1) :
    entry'.1 = entry.1 ∧ context.isKeyword entry.1 = false := by
  -- the keywords that may take other names are reserved
  have hunread : entry.1 ∉ readKeywords := fun hread => by
    rw [isReserved_of_mem_readKeywords _ hread] at hunreserved
    cases hunreserved
  have hself : context.Respells entry.1 entry.1 := .inl rfl
  refine ⟨hkey.resolve_right fun h => hunread h.1, ?_⟩
  rw [← Bool.not_eq_true, hself.isKeyword_iff hnames hplain, hunreserved]
  rintro (h | h | h)
  · cases h
  · exact hunread (h ▸ by decide)
  · exact hunread (h ▸ by decide)

section

variable (hnames : context.NamesApart) (hplain : context.PlainEntry entry)
  (hentry : context.Respells entry.1 entry'.1 ∧ context.RespelledUnder entry.1 entry.2 entry'.2)

include hnames hplain hentry

/-- What two entries state: nothing is stated by the one, or the same by both, or what their values
stand for. -/
theorem outcome_entryFacts_cases (subject : Term) :
    ((entryFacts context subject entry.1 entry.2).outcome = .ok [] ∧
      ((entryFacts context subject entry'.1 entry'.2).outcome = .ok [] ↔
        ¬ context.MisreadEntry entry entry')) ∨
    ((entryFacts context subject entry'.1 entry'.2).outcome =
      (entryFacts context subject entry.1 entry.2).outcome ∧ ¬ context.MisreadEntry entry entry') ∨
    ∃ f : Json → Except Error Fact, entry.2.elements.length = entry'.2.elements.length ∧
      (entryFacts context subject entry.1 entry.2).outcome = entry.2.elements.mapM f ∧
      (entryFacts context subject entry'.1 entry'.2).outcome = entry'.2.elements.mapM f ∧
      (¬ context.MisreadEntry entry entry' ↔
        List.Forall₂ (fun value value' => f value' = f value) entry.2.elements
          entry'.2.elements) := by
  obtain ⟨hkey, hvalue⟩ := hentry
  cases hreserved : isReserved entry.1 with
  | true =>
    -- a keyword states nothing; by another name it may be taken for a predicate
    have hkeyword : context.isKeyword entry.1 = true := by simp [Context.isKeyword, hreserved]
    exact .inl ⟨outcome_entryFacts_of_keyword hkeyword,
      outcome_entryFacts_of_reserved hnames hplain.unaliased hreserved hkey⟩
  | false =>
    -- a predicate has the same key in both, and the values are compared one by one
    obtain ⟨hsame, hpredicate⟩ := isKeyword_of_unreserved hnames hplain.unaliased hreserved hkey
    rw [Context.RespelledUnder, hreserved] at hvalue
    have helements := hvalue.elements
    rw [Context.MisreadEntry, hreserved, hsame, outcome_entryFacts_of_predicate hpredicate,
      outcome_entryFacts_of_predicate hpredicate]
    cases hiri : context.predicateIri entry.1 with
    | error e => exact .inr (.inl ⟨rfl, by simp⟩)
    | ok iri =>
      cases iri with
      | none => exact .inr (.inl ⟨rfl, by simp⟩)
      | some iri =>
        refine .inr (.inr ⟨_, helements.length_eq, rfl, rfl, ?_⟩)
        -- whether a value stands for the same term, as for a single value
        have hread : ∀ {value value' : Json},
            (value, value') ∈ entry.2.elements.zip entry'.2.elements →
              (context.objectTerm entry.1 value' = context.objectTerm entry.1 value ↔
                ¬ Misread value value') := by
          intro value value' hmem
          refine (List.forall₂_zip helements hmem).objectTerm_eq_iff hnames ?_ entry.1
          rintro parts rfl
          exact hplain.values hreserved parts (List.of_mem_zip hmem).1
        -- a term tells the fact, for the subject and the predicate are given
        rw [List.forall₂_iff_zip]
        constructor
        · intro hnone
          refine ⟨helements.length_eq, fun {value value'} hmem => ?_⟩
          rw [(hread hmem).mpr fun hmisread => hnone ⟨⟨iri, rfl⟩, (value, value'), hmem, hmisread⟩]
        · rintro ⟨-, hsame⟩ ⟨-, ⟨value, value'⟩, hmem, hmisread⟩
          refine (hread hmem).mp (map_injective ?_ (hsame hmem)) hmisread
          exact fun _ _ h => (Fact.mk.inj h).2.2

/-- Where nothing is misread, an entry states what it stated. -/
theorem outcome_entryFacts_eq (subject : Term) (h : ¬ context.MisreadEntry entry entry') :
    (entryFacts context subject entry'.1 entry'.2).outcome =
      (entryFacts context subject entry.1 entry.2).outcome := by
  rcases outcome_entryFacts_cases hnames hplain hentry subject with
    ⟨hnone, hiff⟩ | ⟨hsame, -⟩ | ⟨f, -, hfound, hfound', hiff⟩
  · rw [hnone, hiff.mpr h]
  · exact hsame
  · rw [hfound, hfound', mapM_eq_of_forall₂ (hiff.mp h)]

/-- An entry that stated something states the same exactly if nothing is misread. -/
theorem outcome_entryFacts_eq_iff {found : List Fact}
    (h : (entryFacts context subject entry.1 entry.2).outcome = .ok found) :
    (entryFacts context subject entry'.1 entry'.2).outcome = .ok found ↔
      ¬ context.MisreadEntry entry entry' := by
  rcases outcome_entryFacts_cases hnames hplain hentry subject with
    ⟨hnone, hiff⟩ | ⟨hsame, hread⟩ | ⟨f, hlength, hfound, hfound', hiff⟩
  · -- nothing was stated
    obtain rfl := Except.ok.inj (h.symm.trans hnone)
    exact hiff
  · exact iff_of_true (hsame.trans h) hread
  · rw [hfound] at h
    rw [hfound', hiff]
    exact mapM_eq_ok_iff_forall₂ hlength h

/-- In any case it states no fewer facts than before, so nothing that is lost at one entry is made
up for at another. -/
theorem length_entryFacts_le {found found' : List Fact}
    (h : (entryFacts context subject entry.1 entry.2).outcome = .ok found)
    (h' : (entryFacts context subject entry'.1 entry'.2).outcome = .ok found') :
    found.length ≤ found'.length := by
  rcases outcome_entryFacts_cases hnames hplain hentry subject with
    ⟨hnone, -⟩ | ⟨hsame, -⟩ | ⟨f, hlength, hfound, hfound', -⟩
  · obtain rfl := Except.ok.inj (h.symm.trans hnone)
    exact Nat.zero_le _
  · obtain rfl := Except.ok.inj (h.symm.trans (hsame.symm.trans h'))
    exact Nat.le_refl _
  · rw [← (mapM_eq_ok_iff.mp (hfound.symm.trans h)).length_eq,
      ← (mapM_eq_ok_iff.mp (hfound'.symm.trans h')).length_eq, hlength]

end

end

/-- Whether some entry of a member is read differently when the member is respelled. -/
def Context.MisreadMember (context : Context) (fields fields' : List (String × Json)) : Prop :=
  ∃ pair ∈ fields.zip fields', context.MisreadEntry pair.1 pair.2

section

variable {context : Context} {fields fields' : List (String × Json)}
  (hnames : context.NamesApart) (hplain : context.PlainMember fields)
  (h : context.RespelledFields context.RespelledUnder fields fields')

include hnames hplain h

/-- The identifier and the tags of a member are found under whatever name, so that only its entries
are left to tell. -/
theorem outcome_memberFacts_respelled :
    (memberFacts context fields').outcome =
      (context.nodeOf ((context.get? "@id" fields).getD .null)).bind fun subject =>
        (typeFacts context subject (context.get? "@type" fields)).bind fun types =>
          (fields'.mapM fun entry => (entryFacts context subject entry.1 entry.2).outcome).map
            fun others => types ++ others.flatten := by
  have hkept := context.keepsKeywords_respelledUnder
  rw [outcome_memberFacts, h.get?_eq hkept hnames hplain.plain (by decide),
    h.get?_eq hkept hnames hplain.plain (by decide)]

/-- A member in which nothing is misread states the same facts, or fails for the same reason. -/
theorem outcome_memberFacts_eq (hread : ¬ context.MisreadMember fields fields') :
    (memberFacts context fields').outcome = (memberFacts context fields).outcome := by
  rw [outcome_memberFacts_respelled hnames hplain h, outcome_memberFacts]
  refine congrArg _ (funext fun subject => congrArg _ (funext fun types => ?_))
  rw [mapM_eq_of_forall₂ (List.forall₂_iff_zip.mpr ⟨h.length_eq, fun {entry entry'} hmem => ?_⟩)]
  exact outcome_entryFacts_eq hnames (hplain.entries entry (List.of_mem_zip hmem).1)
    (List.forall₂_zip h hmem) subject fun hmisread => hread ⟨(entry, entry'), hmem, hmisread⟩

/-- A member that states facts states the same ones exactly if nothing in it is misread. -/
theorem outcome_memberFacts_eq_iff {facts : List Fact}
    (hfacts : (memberFacts context fields).outcome = .ok facts) :
    (memberFacts context fields').outcome = .ok facts ↔ ¬ context.MisreadMember fields fields' := by
  refine ⟨?_, fun hread => (outcome_memberFacts_eq hnames hplain h hread).trans hfacts⟩
  rintro hfacts' ⟨⟨entry, entry'⟩, hmem, hmisread⟩
  rw [outcome_memberFacts] at hfacts
  rw [outcome_memberFacts_respelled hnames hplain h] at hfacts'
  obtain ⟨subject, hsubject, hfacts⟩ := bind_eq_ok_iff.mp hfacts
  obtain ⟨types, htypes, hfacts⟩ := bind_eq_ok_iff.mp hfacts
  rw [hsubject, Except.bind, htypes, Except.bind] at hfacts'
  obtain ⟨found, hfound, rfl⟩ := map_eq_ok_iff.mp hfacts
  obtain ⟨found', hfound', heq⟩ := map_eq_ok_iff.mp hfacts'
  -- nothing is ever stated less, so what is stated at every entry is the same
  have hentries := (List.forall₂_and_left fields fields').mpr ⟨hplain.entries, h⟩
  have hlengths := forall₂_of_mapM (fun _ _ hentry _ _ hpiece hpiece' =>
    length_entryFacts_le hnames hentry.1 hentry.2 hpiece hpiece') hentries hfound hfound'
  obtain rfl := eq_of_flatten_eq hlengths (List.append_cancel_left heq)
  -- entry by entry, the same facts are found
  have hsame := (mapM_eq_ok_iff_forall₂ h.length_eq hfound).mp hfound'
  have hpieces := mapM_eq_ok_iff.mp hfound
  obtain ⟨piece, -, hpiece⟩ := exists_of_mem_left hpieces (List.of_mem_zip hmem).1
  obtain ⟨hentry, hrespelled⟩ := List.forall₂_zip hentries hmem
  exact (outcome_entryFacts_eq_iff hnames hentry hrespelled hpiece).mp
    ((List.forall₂_zip hsame hmem).trans hpiece) hmisread

end

/-- **Which other names for keywords are overlooked.** Take a context in which no name stands for
two of the keywords by which members are read, and a member without other names for them. Write some
of the keywords in the member and in its value objects by other names that the context has for them.
If nothing is misread then, the member states the same facts or fails for the same reason; and if it
stated facts before, it still states them only if nothing is misread. A value object is misread
exactly if its identifier, or else its value, or else a language that tells something has got
another name. -/
theorem memberFacts_respelled {context : Context} {fields fields' : List (String × Json)}
    (hnames : context.NamesApart) (hplain : context.PlainMember fields)
    (h : context.RespelledFields context.RespelledUnder fields fields') :
    (¬ context.MisreadMember fields fields' →
      (memberFacts context fields').outcome = (memberFacts context fields).outcome) ∧
    (∀ facts, (memberFacts context fields).outcome = .ok facts →
      ((memberFacts context fields').outcome = .ok facts ↔
        ¬ context.MisreadMember fields fields')) ∧
    ∀ key parts parts', context.Plain parts → context.RespelledFields Unchanged parts parts' →
      (context.objectTerm key (.object parts') = context.objectTerm key (.object parts) ↔
        ¬ Overlooked parts parts') :=
  ⟨outcome_memberFacts_eq hnames hplain h,
    fun _ => outcome_memberFacts_eq_iff hnames hplain h,
    fun key _ _ hparts hrespelled => Context.objectTerm_eq_iff hrespelled hnames hparts key⟩

/-- A class below another one, with names for the keyword of the identifier. -/
def shopMember (own other : String) : List (String × Json) :=
  [(own, .text "http://schema.org/Shop"),
    ("http://www.w3.org/2000/01/rdf-schema#subClassOf",
      .object [(other, .text "http://schema.org/Place")])]

/-- A context with another name for the keyword of the identifier. -/
def idContext : Context :=
  { terms := [("id", { iri := some (some "@id"), isPrefix := false })]
    aliases := [("@id", ["id"])] }

/-- The context of the example, as it is loaded. -/
theorem load_idContext : Context.load [.object [("id", .text "@id")]] = .ok idContext := by
  simp only [Context.load, List.flatMap_cons, Context.definitions]
  rfl

/-- The identifier of the class is found under the other name, and that of its parent is not: the
member, which stated a fact, fails. -/
theorem memberFacts_respelled_shop :
    Context.load [.object [("id", .text "@id")]] = .ok idContext ∧
      ∃ facts, facts = [(⟨.iri "http://schema.org/Shop", .known .subClassOf,
          .iri "http://schema.org/Place"⟩ : Fact)] ∧
        (memberFacts idContext (shopMember "@id" "@id")).outcome = .ok facts ∧
        (memberFacts idContext (shopMember "id" "@id")).outcome = .ok facts ∧
        (memberFacts idContext (shopMember "id" "id")).outcome ≠ .ok facts := by
  have hnames : idContext.NamesApart := by decide
  have hparts : idContext.Plain [("@id", .text "http://schema.org/Place")] := by
    constructor <;> decide
  have hplain : idContext.PlainMember (shopMember "@id" "@id") := by
    refine { nodup := by decide, entries := List.forall_mem_cons.mpr ⟨?_, ?_⟩ }
    · exact { unaliased := by decide, values := fun h => by cases h }
    · refine List.forall_mem_singleton.mpr { unaliased := by decide, values := fun _ parts h => ?_ }
      obtain rfl : parts = _ := Json.object.inj (List.mem_singleton.mp h)
      exact hparts
  -- the identifier of the member takes its other name, and that of the value may do so
  have hrespelled : ∀ other ∈ idContext.namesFor "@id", idContext.RespelledFields
      idContext.RespelledUnder (shopMember "@id" "@id") (shopMember "id" other) := by
    intro other hother
    have hname : idContext.Respells "@id" other := by
      rcases Context.mem_namesFor_iff.mp hother with hother | hother
      · exact .inr ⟨by decide, hother⟩
      · exact .inl hother
    have hvalue : idContext.RespelledValue (.object [("@id", .text "http://schema.org/Place")])
        (.object [(other, .text "http://schema.org/Place")]) :=
      .single (.object (.cons ⟨hname, rfl⟩ .nil))
    exact .cons ⟨.inr ⟨by decide, by decide⟩, rfl⟩ (.cons ⟨.inl rfl, hvalue⟩ .nil)
  have hread : ¬ idContext.MisreadMember (shopMember "@id" "@id") (shopMember "id" "@id") := by
    simp [Context.MisreadMember, shopMember, Context.MisreadEntry, isReserved, Misread, Overlooked,
      Json.elements]
  have hiri : ∃ iri, idContext.predicateIri "http://www.w3.org/2000/01/rdf-schema#subClassOf" =
      .ok (some iri) := ⟨_, rfl⟩
  -- the value is an object whose identifier has the other name
  have hmisread : idContext.MisreadMember (shopMember "@id" "@id") (shopMember "id" "id") := by
    refine ⟨_, List.mem_cons_of_mem _ List.mem_cons_self, ?_⟩
    rw [Context.MisreadEntry, if_neg (by decide)]
    exact ⟨hiri, _, List.mem_cons_self, rfl⟩
  refine ⟨load_idContext, _, rfl, rfl, ?_, ?_⟩
  · exact ((memberFacts_respelled hnames hplain (hrespelled "@id" (by decide))).2.1 _ rfl).mpr hread
  · exact mt ((memberFacts_respelled hnames hplain (hrespelled "id" (by decide))).2.1 _ rfl).mp
      (not_not_intro hmisread)

end LinkedData

end OntoTypes
