import OntoTypes.Proofs.Accounting
import OntoTypes.Proofs.Soundness

/-!
# Nested graphs

A member of a graph may hold a graph of its own. Such a nested graph is transparent: its members can
as well stand in its place, if each of them takes over the context of the nested graph and puts it
in front of its own. The definitions in force are then the same for every member, and members are
visited in the same order, so that not even an error comes at another place.

What has to be excluded is that a keyword is found under another name on one side only. The name
`@graph` is looked for before the context of a member counts, and a nested graph may declare another
name for it; whereas `@context` has no other names, and is no other name of a keyword either, since
a definition with this field only stands for the context it holds.

Main definitions and results:

* `Harvest.concat_append` — visits can be put together in any way;
* `Context.not_mem_namesFor_context` — no keyword is looked for under `@context`;
* `lifted`, `SplicedMembers`, `SplicedDocument` — nested graphs replaced by their members;
* `InForce` — the definitions that are in force somewhere in a document;
* `harvest_of_spliced` — a document states the same declarations when nested graphs are spliced.
-/

namespace OntoTypes

/-- What every successful step of a fold keeps holds at its end. -/
theorem foldlM_preserves {f : σ → α → Except ε σ} (holds : σ → Prop) {items : List α}
    (hstep : ∀ s next, ∀ item ∈ items, holds s → f s item = .ok next → holds next) {start last : σ}
    (hstart : holds start) (h : items.foldlM f start = .ok last) : holds last := by
  -- on the items: the first step reaches a state from which the others start
  induction items generalizing start with
  | nil =>
    cases h
    exact hstart
  | cons item items ih =>
    rw [List.foldlM_cons] at h
    obtain ⟨next, hnext, hrest⟩ := bind_eq_ok_iff.mp h
    exact ih (fun s next other hother => hstep s next other (List.mem_cons_of_mem _ hother))
      (hstep start next item List.mem_cons_self hstart hnext) hrest

namespace LinkedData

/-! ## Visits one after another -/

namespace Harvest

/-- After a failure nothing more is visited. -/
theorem append_of_failure {first : Harvest} {e : Logged Error} (h : first.failure = some e)
    (second : Harvest) : first.append second = first :=
  if_pos (by rw [h]; rfl)

/-- After a success the second visit adds its declarations, and it decides about failure. -/
theorem append_of_success {first : Harvest} (h : first.failure = none) (second : Harvest) :
    first.append second = ⟨first.declarations ++ second.declarations, second.failure⟩ :=
  if_neg (by rw [h]; simp)

/-- Nothing is added to a visit by one that finds nothing before it. -/
theorem nil_append (h : Harvest) : append {} h = h := append_of_success rfl h

/-- Visits can be grouped in any way. -/
theorem append_assoc (first second third : Harvest) :
    (first.append second).append third = first.append (second.append third) := by
  -- the first visit that fails cuts off all later ones
  cases hfirst : first.failure with
  | some e => simp only [append_of_failure hfirst]
  | none =>
    rw [append_of_success hfirst, append_of_success hfirst]
    cases hsecond : second.failure with
    | some e =>
      have hboth :
          (⟨first.declarations ++ second.declarations, some e⟩ : Harvest).failure = some e := rfl
      rw [append_of_failure hboth, append_of_failure hsecond, hsecond]
    | none =>
      have hboth :
          (⟨first.declarations ++ second.declarations, none⟩ : Harvest).failure = none := rfl
      rw [append_of_success hboth, append_of_success hsecond, List.append_assoc]

/-- Visits can be gathered in two parts. -/
theorem concat_append (visits others : List Harvest) :
    concat (visits ++ others) = (concat visits).append (concat others) := by
  induction visits with
  | nil => exact (nil_append _).symm
  | cons visit visits ih =>
    show visit.append (concat (visits ++ others)) = (visit.append (concat visits)).append _
    rw [ih, append_assoc]

end Harvest

/-! ## The names of a keyword -/

namespace Context

variable {context next : Context} {name : String}

/-- No keyword goes by this name, except by itself. -/
def Unaliased (context : Context) (name : String) : Prop :=
  ∀ names ∈ context.aliases.map Prod.snd, name ∉ names

/-- A name that no keyword goes by is not found for any keyword. -/
theorem Unaliased.not_mem_lookup (h : context.Unaliased name) (keyword : String) :
    name ∉ (context.aliases.lookup keyword).getD [] := by
  cases hlookup : context.aliases.lookup keyword with
  | none => exact List.not_mem_nil
  | some names =>
    obtain ⟨before, after, hsplit, -⟩ := List.lookup_eq_some_iff.mp hlookup
    refine h names ?_
    rw [hsplit, List.map_append]
    exact List.mem_append_right _ List.mem_cons_self

/-- Declaring a term adds no other name than its own. -/
theorem Unaliased.declareTerm (h : context.Unaliased name) {other : String} (hother : other ≠ name)
    (term : TermDeclaration) : (context.declareTerm other term).Unaliased name := by
  intro names hnames
  simp only [Context.declareTerm] at hnames
  split at hnames
  · -- the term becomes one more name of a keyword
    rename_i keyword _
    rcases Keyed.mem_map_snd_set hnames with rfl | hnames
    · intro hname
      rcases List.mem_append.mp hname with hname | hname
      · exact h.not_mem_lookup keyword hname
      · exact hother (List.mem_singleton.mp hname).symm
    · exact h names hnames
  · -- any other term can only stop being one
    rw [List.map_map] at hnames
    obtain ⟨old, hold, rfl⟩ := List.mem_map.mp hnames
    exact fun hname => h old.2 (List.mem_map_of_mem hold) (List.mem_of_mem_erase hname)

/-- Setting the base leaves the aliases alone. -/
theorem aliases_readBase {value : Json} (h : context.readBase value = .ok next) :
    next.aliases = context.aliases := by
  unfold readBase at h
  split at h
  · cases h
    rfl
  · obtain ⟨base, -, h⟩ := bind_eq_ok_iff.mp h
    obtain ⟨_, -, h⟩ := bind_eq_ok_iff.mp h
    cases h
    rfl
  · cases h

/-- Reading an entry leaves the aliases alone, or declares a term with the name of the entry. -/
theorem aliases_of_readEntry {definition : List (String × Json)} {value : Json}
    (h : readEntry definition context name value = .ok next) :
    next.aliases = context.aliases ∨ ∃ term, next = context.declareTerm name term := by
  unfold readEntry at h
  split at h
  -- entries that declare no term
  iterate 6
    · cases h
      exact Or.inl rfl
  · exact Or.inl (aliases_readBase h)
  · obtain ⟨term, -, h⟩ := bind_eq_ok_iff.mp h
    cases h
    exact Or.inr ⟨term, rfl⟩
  · split at h
    · cases h
      exact Or.inl rfl
    · obtain ⟨iri, -, h⟩ := bind_eq_ok_iff.mp h
      cases h
      exact Or.inr ⟨_, rfl⟩
  · cases h
    exact Or.inr ⟨_, rfl⟩

/-- A name becomes an alias only if the definition has an entry for it. -/
theorem Unaliased.readDefinition (h : context.Unaliased name) {value : Json}
    (hvalue : ∀ fields, value = .object fields → fields.lookup name = none)
    (hnext : context.readDefinition value = .ok next) : next.Unaliased name := by
  cases value with
  | object fields =>
    have hname := List.lookup_eq_none_iff.mp (hvalue fields rfl)
    -- entry by entry, none of which has this name
    refine foldlM_preserves (fun context => context.Unaliased name) ?_ h hnext
    rintro s next ⟨other, value⟩ hentry hs hread
    have hother : other ≠ name := fun heq => by simpa [heq] using hname _ hentry
    rcases aliases_of_readEntry hread with haliases | ⟨term, rfl⟩
    · rwa [Unaliased, haliases]
    · exact hs.declareTerm hother term
  | null =>
    -- no definitions at all: everything that was declared is forgotten
    cases hnext
    exact fun _ hnames => absurd hnames List.not_mem_nil
  | _ => cases hnext

/-- An object that is left over when contexts are taken out of what holds them holds none. -/
theorem lookup_context_of_mem_definitions {value : Json} {fields : List (String × Json)}
    (h : Json.object fields ∈ definitions value) : fields.lookup "@context" = none := by
  fun_induction definitions value with
  | case1 items ih =>
    obtain ⟨⟨item, hitem⟩, -, hmem⟩ := List.mem_flatMap.mp h
    exact ih item hitem hmem
  | case2 given inner hinner ih => exact ih h
  | case3 given hnone =>
    cases List.mem_singleton.mp h
    exact hnone
  | case4 value _ hobject => exact absurd (List.mem_singleton.mp h).symm (hobject fields)

/-- No keyword of a context that has been read is looked for under `@context`. -/
theorem not_mem_namesFor_context {given : List Json} (h : load given = .ok context)
    {keyword : String} (hkeyword : keyword ≠ "@context") :
    "@context" ∉ context.namesFor keyword := by
  -- what is read was taken out of its own contexts first, so it has no entry of this name
  have haliases : context.Unaliased "@context" := by
    refine foldlM_preserves (fun context => context.Unaliased "@context") ?_
      (fun _ hnames => absurd hnames List.not_mem_nil) h
    intro s next definition hdefinition hs hread
    obtain ⟨value, -, hmem⟩ := List.mem_flatMap.mp hdefinition
    exact hs.readDefinition
      (fun fields hfields => lookup_context_of_mem_definitions (hfields ▸ hmem)) hread
  intro hname
  rcases List.mem_append.mp hname with hname | hname
  · exact haliases.not_mem_lookup keyword hname
  · exact hkeyword (List.mem_singleton.mp hname).symm

end Context

/-! ## Unfolding a visit -/

/-- What a member states under the context in force for it, if it is not left out. -/
def stated (context : Context) (fields : List (String × Json)) : Harvest :=
  if (context.get? "@id" fields).isNone then {}
  else
    match isSkippable context fields with
    | .error e => .failed e
    | .ok true => {}
    | .ok false => .single (memberFacts context fields)

/-- The members of a graph that an object holds. -/
def membersOf (context : Context) (fields : List (String × Json)) : List Json :=
  ((context.get? "@graph" fields).getD .null).elements

/-- What is found at one member of a graph. -/
def visit (around : List Json) (context : Context) : Json → Harvest
  | .object fields =>
    if (context.get? "@graph" fields).isSome then harvest around (.object fields)
    else visitMember around context fields
  | member => .failed (context.notObject "@graph" member)

variable {around given : List Json} {context : Context} {fields : List (String × Json)}

/-- The members that a visit goes through are those of the graph, if there is one. -/
theorem map_val_graphMembers :
    (graphMembers context fields).map Subtype.val = membersOf context fields := by
  rw [graphMembers]
  split
  · rename_i hnone
    rw [membersOf, hnone]
    rfl
  · rename_i graph hsome
    have hmembers : membersOf context fields = graph.elements := by
      rw [membersOf, hsome]
      rfl
    rw [hmembers, List.map_map]
    exact List.attach_map_subtype_val _

/-- An object is visited member by member, under the context that counts inside of it. -/
theorem harvest_object :
    harvest around (.object fields) =
      match Context.load (definitionsWithin around fields) with
      | .error e => .failed e
      | .ok context =>
        .concat
          ((membersOf context fields).map (visit (definitionsWithin around fields) context)) := by
  rw [harvest]
  cases Context.load (definitionsWithin around fields) with
  | error e => rfl
  | ok context =>
    -- members carry the bound by which the visit ends, and nothing else depends on it
    simp only
    rw [← map_val_graphMembers, List.map_map]
    refine congrArg Harvest.concat (List.map_congr_left ?_)
    rintro ⟨member, hmember⟩ -
    cases member <;> rfl

/-- A list is visited item by item, under the definitions around it. -/
theorem harvest_array {items : List Json} :
    harvest around (.array items) =
      match Context.load around with
      | .error e => .failed e
      | .ok context => .concat (items.map (visit around context)) := by
  rw [harvest]
  cases Context.load around with
  | error e => rfl
  | ok context =>
    simp only
    conv => rhs; rw [← List.attach_map_subtype_val items, List.map_map]
    refine congrArg Harvest.concat (List.map_congr_left ?_)
    rintro ⟨member, hmember⟩ -
    cases member <;> rfl

/-- The context of a member counts for it, whether it has one of its own or not. -/
theorem visitMember_eq (h : Context.load around = .ok context) :
    visitMember around context fields =
      match Context.load (definitionsWithin around fields) with
      | .error e => .failed e
      | .ok own => stated own fields := by
  rw [visitMember]
  cases hlookup : fields.lookup "@context" with
  | none =>
    -- nothing is put on top of the definitions around
    have hsame : definitionsWithin around fields = around := by
      rw [definitionsWithin, hlookup]
      exact List.append_nil around
    rw [hsame, h]
    rfl
  | some _ => rfl

/-! ## Taking over a context -/

/-- What a member of a nested graph becomes when it stands in the place of that graph: it takes over
the context there, if there is one, in front of its own. -/
def lifted (outer : Option Json) (fields : List (String × Json)) : List (String × Json) :=
  match outer with
  | none => fields
  | some outer =>
    Keyed.set "@context"
      (.array (outer.elements ++ ((fields.lookup "@context").getD .null).elements)) fields

variable {outer : Option Json}

/-- The same definitions are in force for the member, in the same order. -/
theorem definitionsWithin_lifted :
    definitionsWithin around (lifted outer fields) =
      definitionsWithin (around ++ (outer.getD .null).elements) fields := by
  cases outer with
  | none =>
    show _ = definitionsWithin (around ++ []) fields
    rw [List.append_nil]
    rfl
  | some outer =>
    rw [definitionsWithin, lifted, Keyed.lookup_set_self, definitionsWithin, List.append_assoc]
    rfl

/-- Everything but the context of the member stays. -/
theorem lookup_lifted {key : String} (h : key ≠ "@context") :
    (lifted outer fields).lookup key = fields.lookup key := by
  cases outer with
  | none => rfl
  | some outer => exact Keyed.lookup_set_of_ne h _ _

/-- Taking over a context changes nothing about what other keywords find. -/
theorem get?_lifted (h : Context.load given = .ok context) {keyword : String}
    (hkeyword : keyword ≠ "@context") :
    context.get? keyword (lifted outer fields) = context.get? keyword fields := by
  have hcontext := Context.not_mem_namesFor_context h hkeyword
  have hfound : ∀ name ∈ context.namesFor keyword,
      (lifted outer fields).lookup name = fields.lookup name :=
    fun name hname => lookup_lifted fun heq => hcontext (heq ▸ hname)
  rw [Context.get?, Context.get?, ← List.head?_filterMap, ← List.head?_filterMap,
    List.filterMap_congr hfound]

/-- The context of a member is none of the keys by which it is left out. -/
theorem filter_isTelling_lifted :
    ((lifted outer fields).map Prod.fst).filter (isTelling context) =
      (fields.map Prod.fst).filter (isTelling context) := by
  cases outer with
  | none => rfl
  | some outer =>
    show (Keyed.keys (Keyed.set _ _ fields)).filter _ = (Keyed.keys fields).filter _
    -- at most one key is added, and it is a keyword
    have hreserved : isTelling context "@context" = false := by
      simp [isTelling, isReserved]
    rw [Keyed.keys_set]
    split
    · rfl
    · rw [List.filter_append, List.filter_singleton, hreserved]
      exact List.append_nil _

/-- A member is left out with the context of a graph exactly if it is without it. -/
theorem isSkippable_lifted (h : Context.load given = .ok context) :
    isSkippable context (lifted outer fields) = isSkippable context fields := by
  rw [isSkippable, isSkippable, get?_lifted h (by decide), get?_lifted h (by decide),
    filter_isTelling_lifted]

/-- A key under which nothing is found adds nothing to what is found under all keys. -/
theorem mapM_set_bind {m : Type → Type} [Monad m] [LawfulMonad m] {f : String × α → m (List β)}
    {key : String} (h : ∀ value, f (key, value) = pure []) (value : α)
    (entries : List (String × α)) (next : List β → m γ) :
    ((Keyed.set key value entries).mapM f >>= fun found => next found.flatten) =
      entries.mapM f >>= fun found => next found.flatten := by
  induction entries generalizing next with
  | nil => simp [Keyed.set, h]
  | cons entry rest ih =>
    -- the entry may stand in the place of another one or at the end
    obtain ⟨k, v⟩ := entry
    rw [Keyed.set]
    split
    · rename_i hkey
      subst hkey
      simp [List.mapM_cons, h]
    · simp only [List.mapM_cons, bind_assoc, pure_bind, List.flatten_cons]
      exact bind_congr fun found => ih fun others => next (found ++ others)

/-- Under the same definitions a member states the same, whether it takes over a context or not. -/
theorem memberFacts_lifted (h : Context.load given = .ok context) :
    memberFacts context (lifted outer fields) = memberFacts context fields := by
  rw [memberFacts, memberFacts, get?_lifted h (by decide), get?_lifted h (by decide)]
  refine bind_congr fun subject => bind_congr fun types => ?_
  cases outer with
  | none => rfl
  | some outer =>
    -- a context states nothing about the subject
    have hcontext (value : Json) :
        (fun entry : String × Json => entryFacts context subject entry.1 entry.2)
          ("@context", value) = pure [] := by
      simp [entryFacts, isReserved]
    exact mapM_set_bind hcontext _ fields fun others => pure (types ++ others)

/-- What a member adds to a visit does not depend on the context that it takes over. -/
theorem stated_lifted (h : Context.load given = .ok context) :
    stated context (lifted outer fields) = stated context fields := by
  rw [stated, stated, get?_lifted h (by decide), isSkippable_lifted h, memberFacts_lifted h]

/-! ## Splicing -/

/-- Members of a graph in which nested graphs are replaced by their members, at any depth. -/
inductive SplicedMembers : List Json → List Json → Prop
  | nil : SplicedMembers [] []
  /-- A member stays as it is. -/
  | keep {member : Json} {rest rest' : List Json} :
      SplicedMembers rest rest' → SplicedMembers (member :: rest) (member :: rest')
  /-- A nested graph stays, and something is replaced inside of it. -/
  | inside {fields : List (String × Json)} {graph : Json} {inner rest rest' : List Json} :
      fields.lookup "@graph" = some graph → graph.isNull = false →
      SplicedMembers graph.elements inner → SplicedMembers rest rest' →
      SplicedMembers (.object fields :: rest)
        (.object (Keyed.set "@graph" (.array inner) fields) :: rest')
  /-- A nested graph gives way to its members, which take over its context. -/
  | splice {fields : List (String × Json)} {graph : Json} {inner : List (List (String × Json))}
      {rest rest' : List Json} :
      fields.lookup "@graph" = some graph → graph.isNull = false →
      SplicedMembers graph.elements (inner.map Json.object) → SplicedMembers rest rest' →
      SplicedMembers (.object fields :: rest)
        ((inner.map fun member => .object (lifted (fields.lookup "@context") member)) ++ rest')

/-- A document in which nested graphs are replaced by their members. -/
inductive SplicedDocument : Json → Json → Prop
  | graph {fields : List (String × Json)} {graph : Json} {inner : List Json} :
      fields.lookup "@graph" = some graph → graph.isNull = false →
      SplicedMembers graph.elements inner →
      SplicedDocument (.object fields) (.object (Keyed.set "@graph" (.array inner) fields))
  | items {items items' : List Json} :
      SplicedMembers items items' → SplicedDocument (.array items) (.array items')

/-- The definitions that are in force somewhere in a document, if those around it are: inside of the
document, of each of its members, and of the members of nested graphs. -/
inductive InForce : List Json → Json → List Json → Prop
  | object {around : List Json} {fields : List (String × Json)} :
      InForce around (.object fields) (definitionsWithin around fields)
  | array {around items : List Json} : InForce around (.array items) around
  | graph {around given : List Json} {fields inner : List (String × Json)} {graph : Json} :
      fields.lookup "@graph" = some graph → .object inner ∈ graph.elements →
      InForce (definitionsWithin around fields) (.object inner) given →
      InForce around (.object fields) given
  | item {around items given : List Json} {inner : List (String × Json)} :
      .object inner ∈ items → InForce around (.object inner) given →
      InForce around (.array items) given

/-- Definitions that can be read and leave the keyword for graphs without another name. -/
def Readable (given : List Json) : Prop :=
  ∃ context, Context.load given = .ok context ∧ context.namesFor "@graph" = ["@graph"]

/-- Inside of an object without a graph, only one list of definitions is in force. -/
theorem InForce.eq_of_lookup (h : InForce around (.object fields) given)
    (hgraph : fields.lookup "@graph" = none) : given = definitionsWithin around fields := by
  cases h with
  | object => rfl
  | graph hsome => exact absurd (hgraph.symm.trans hsome) (by simp)

/-- A graph is looked up by its keyword alone, if the keyword has no other name. -/
theorem get?_graph (hnames : context.namesFor "@graph" = ["@graph"]) :
    context.get? "@graph" fields = (fields.lookup "@graph").filter (!·.isNull) := by
  rw [Context.get?, hnames, List.findSome?_singleton]

/-- The members of an object are those of its graph. -/
theorem membersOf_eq (hnames : context.namesFor "@graph" = ["@graph"]) {graph : Json}
    (hgraph : fields.lookup "@graph" = some graph) : membersOf context fields = graph.elements := by
  rw [membersOf, get?_graph hnames, hgraph]
  cases graph <;> rfl

/-- A nested graph is visited like a document. -/
theorem visit_graph (hnames : context.namesFor "@graph" = ["@graph"]) {graph : Json}
    (hgraph : fields.lookup "@graph" = some graph) (hnull : graph.isNull = false) :
    visit around context (.object fields) = harvest around (.object fields) := by
  have hsome : (context.get? "@graph" fields).isSome = true := by
    rw [get?_graph hnames, hgraph, Option.filter_some, hnull]
    rfl
  exact if_pos hsome

/-- An object with a graph is visited through the members of the graph. -/
theorem harvest_graph (hload : Context.load (definitionsWithin around fields) = .ok context)
    (hnames : context.namesFor "@graph" = ["@graph"]) {graph : Json}
    (hgraph : fields.lookup "@graph" = some graph) :
    harvest around (.object fields) =
      .concat (graph.elements.map (visit (definitionsWithin around fields) context)) := by
  rw [harvest_object, hload]
  simp only
  rw [membersOf_eq hnames hgraph]

/-- Another graph stands under the same definitions. -/
theorem harvest_set_graph (hload : Context.load (definitionsWithin around fields) = .ok context)
    (hnames : context.namesFor "@graph" = ["@graph"]) (members : List Json) :
    harvest around (.object (Keyed.set "@graph" (.array members) fields)) =
      .concat (members.map (visit (definitionsWithin around fields) context)) := by
  have hwithin : definitionsWithin around (Keyed.set "@graph" (.array members) fields) =
      definitionsWithin around fields := by
    rw [definitionsWithin, Keyed.lookup_set_of_ne (by decide), definitionsWithin]
  rw [← hwithin] at hload ⊢
  exact harvest_graph hload hnames (Keyed.lookup_set_self _ _ _)

/-- A member states the same inside of a nested graph and in its place. -/
theorem visit_lifted {within : Context} {member : List (String × Json)}
    (hload : Context.load around = .ok context)
    (hnames : context.namesFor "@graph" = ["@graph"])
    (hwithin : Context.load (definitionsWithin around fields) = .ok within)
    (hnames' : within.namesFor "@graph" = ["@graph"]) :
    visit around context (.object (lifted (fields.lookup "@context") member)) =
      visit (definitionsWithin around fields) within (.object member) := by
  -- whether the member holds a graph does not depend on the context
  have hgraph : context.get? "@graph" (lifted (fields.lookup "@context") member) =
      within.get? "@graph" member := by
    rw [get?_lifted hload (by decide), get?_graph hnames, get?_graph hnames']
  -- nor do the definitions inside of it
  have hinForce : definitionsWithin around (lifted (fields.lookup "@context") member) =
      definitionsWithin (definitionsWithin around fields) member :=
    definitionsWithin_lifted
  rw [visit, visit, hgraph]
  split
  · -- a nested graph, which is visited under the same definitions
    rw [harvest_object, harvest_object, hinForce]
    cases hown : Context.load (definitionsWithin (definitionsWithin around fields) member) with
    | error e => rfl
    | ok own =>
      simp only [membersOf]
      rw [get?_lifted hown (by decide)]
  · -- a member, which states the same under the same context
    rw [visitMember_eq hload, visitMember_eq hwithin, hinForce]
    cases hown : Context.load (definitionsWithin (definitionsWithin around fields) member) with
    | error e => rfl
    | ok own => exact stated_lifted hown

/-- Members of a graph are visited with the same result when nested graphs are spliced. -/
theorem concat_visit_of_spliced {members members' : List Json}
    (h : SplicedMembers members members') (hload : Context.load around = .ok context)
    (hnames : context.namesFor "@graph" = ["@graph"])
    (hread : ∀ fields, .object fields ∈ members → ∀ given, InForce around (.object fields) given →
      Readable given) :
    Harvest.concat (members'.map (visit around context)) =
      Harvest.concat (members.map (visit around context)) := by
  -- on how the members are replaced, under any definitions around them
  induction h generalizing around context with
  | nil => rfl
  | @keep member rest rest' _ ih =>
    have hrest := ih hload hnames fun fields hfields =>
      hread fields (List.mem_cons_of_mem _ hfields)
    exact congrArg (Harvest.append (visit around context member)) hrest
  | @inside fields graph inner rest rest' hgraph hnull _ _ ihinner ihrest =>
    have hrest := ihrest hload hnames fun fields hfields =>
      hread fields (List.mem_cons_of_mem _ hfields)
    obtain ⟨within, hwithin, hnames'⟩ := hread fields List.mem_cons_self _ .object
    have hinner := ihinner hwithin hnames' fun member hmember given hgiven =>
      hread fields List.mem_cons_self given (.graph hgraph hmember hgiven)
    -- the graph stays in its place, and only its members are visited differently
    have hfirst : visit around context (.object (Keyed.set "@graph" (.array inner) fields)) =
        visit around context (.object fields) := by
      rw [visit_graph hnames (Keyed.lookup_set_self _ _ _) rfl,
        harvest_set_graph hwithin hnames', hinner, visit_graph hnames hgraph hnull,
        harvest_graph hwithin hnames' hgraph]
    show Harvest.append _ (Harvest.concat _) = Harvest.append _ (Harvest.concat _)
    rw [hfirst, hrest]
  | @splice fields graph inner rest rest' hgraph hnull _ _ ihinner ihrest =>
    have hrest := ihrest hload hnames fun fields hfields =>
      hread fields (List.mem_cons_of_mem _ hfields)
    obtain ⟨within, hwithin, hnames'⟩ := hread fields List.mem_cons_self _ .object
    have hinner := ihinner hwithin hnames' fun member hmember given hgiven =>
      hread fields List.mem_cons_self given (.graph hgraph hmember hgiven)
    -- the members state in the place of the graph what they state inside of it
    have hmoved : (inner.map fun member =>
          Json.object (lifted (fields.lookup "@context") member)).map (visit around context) =
        (inner.map Json.object).map (visit (definitionsWithin around fields) within) := by
      rw [List.map_map, List.map_map]
      exact List.map_congr_left fun member _ => visit_lifted hload hnames hwithin hnames'
    rw [List.map_append, Harvest.concat_append, hmoved, hinner, hrest,
      ← harvest_graph hwithin hnames' hgraph, ← visit_graph hnames hgraph hnull]
    rfl

/-- **Nested graphs are transparent.** If the definitions can be read wherever they are in force in
a document, and nowhere give the keyword for graphs another name, then any nested graphs can be
replaced by their members, each with the context of the graph in front of its own. The document
states the same declarations in the same order, and a visit that fails does so with the same error
after the same declarations.

Definitions that cannot be read are left out because a nested graph without members fails in the one
document and leaves no trace in the other. Another name for the keyword is looked for under the
context around a member, before that of the member is read, and so it may be found in the one
document only. -/
theorem harvest_of_spliced {document document' : Json} (h : SplicedDocument document document')
    (hread : ∀ given, InForce around document given → Readable given) :
    harvest around document' = harvest around document := by
  cases h with
  | @graph fields graph inner hgraph _ hspliced =>
    -- an object: its own definitions are in force for the members of its graph
    obtain ⟨context, hload, hnames⟩ := hread _ .object
    rw [harvest_set_graph hload hnames, harvest_graph hload hnames hgraph]
    exact concat_visit_of_spliced hspliced hload hnames fun member hmember given hgiven =>
      hread given (.graph hgraph hmember hgiven)
  | items hspliced =>
    -- a list: the definitions around it are
    obtain ⟨context, hload, hnames⟩ := hread _ .array
    rw [harvest_array, harvest_array, hload]
    exact concat_visit_of_spliced hspliced hload hnames fun member hmember given hgiven =>
      hread given (.item hmember hgiven)

/-- A context that names are looked up in. -/
def vocabulary : Json := .object [("@vocab", .text "http://schema.org/")]

/-- A context that gives texts a language. -/
def english : Json := .object [("@language", .text "en")]

/-- The fields of a class with a comment. -/
def described (id : String) : List (String × Json) :=
  [("@id", .text id), ("@type", .text "http://www.w3.org/2000/01/rdf-schema#Class"),
    ("http://www.w3.org/2000/01/rdf-schema#comment", .text "A class.")]

/-- A graph in English that holds a class, and another class in a graph of its own. -/
def englishGraph : List (String × Json) :=
  [("@context", english),
    ("@graph", .array [.object (described "http://schema.org/B"),
      .object [("@graph", .array [.object (described "http://schema.org/C")])]])]

/-- A document in which such a graph stands between two classes. -/
def nested : Json := .object [
  ("@context", vocabulary),
  ("@graph", .array [.object (described "http://schema.org/A"), .object englishGraph,
    .object (described "http://schema.org/D")])]

/-- The same document without nested graphs. -/
def flat : Json := .object [
  ("@context", vocabulary),
  ("@graph", .array [.object (described "http://schema.org/A"),
    .object (described "http://schema.org/B" ++ [("@context", .array [english])]),
    .object (described "http://schema.org/C" ++ [("@context", .array [english])]),
    .object (described "http://schema.org/D")])]

/-- The context for names can be read. -/
theorem readable_vocabulary : Readable [vocabulary] := by
  refine ⟨{ vocab := .text "http://schema.org/" }, ?_, rfl⟩
  simp only [Context.load, vocabulary, List.flatMap_cons, Context.definitions]
  rfl

/-- Both contexts can be read, one on top of the other. -/
theorem readable_english : Readable [vocabulary, english] := by
  refine ⟨{ vocab := .text "http://schema.org/", language := .text "en" }, ?_, rfl⟩
  simp only [Context.load, vocabulary, english, List.flatMap_cons, Context.definitions]
  rfl

/-- The second document is the first with its nested graphs replaced. -/
theorem splicedDocument_nested : SplicedDocument nested flat := by
  have hinnermost : SplicedMembers
      [.object [("@graph", .array [.object (described "http://schema.org/C")])]]
      [.object (described "http://schema.org/C")] :=
    @SplicedMembers.splice _ _ [described "http://schema.org/C"] _ _ rfl rfl (.keep .nil) .nil
  have hinner :
      SplicedMembers [.object englishGraph, .object (described "http://schema.org/D")] _ :=
    @SplicedMembers.splice _ _ [described "http://schema.org/B", described "http://schema.org/C"]
      _ _ rfl rfl (.keep hinnermost) (.keep .nil)
  exact .graph rfl rfl (.keep hinner)

/-- What is in force inside of the graph in English can be read. -/
theorem readable_of_inForce_english (h : InForce [vocabulary] (.object englishGraph) given) :
    Readable given := by
  cases h with
  | object => exact readable_english
  | graph hgraph hmem h =>
    obtain rfl := Option.some.inj hgraph
    -- the class, and the graph with the other class
    rcases List.mem_cons.mp hmem with hB | hmem
    · cases hB
      exact h.eq_of_lookup rfl ▸ readable_english
    · cases List.mem_singleton.mp hmem
      cases h with
      | object => exact readable_english
      | graph hgraph hmem h =>
        obtain rfl := Option.some.inj hgraph
        cases List.mem_singleton.mp hmem
        exact h.eq_of_lookup rfl ▸ readable_english

/-- What is in force anywhere in the document can be read. -/
theorem readable_of_inForce_nested (h : InForce [] nested given) : Readable given := by
  cases h with
  | object => exact readable_vocabulary
  | graph hgraph hmem h =>
    obtain rfl := Option.some.inj hgraph
    -- the first class, the graph, and the last class
    rcases List.mem_cons.mp hmem with hA | hmem
    · cases hA
      exact h.eq_of_lookup rfl ▸ readable_vocabulary
    · rcases List.mem_cons.mp hmem with hgraph | hmem
      · cases hgraph
        exact readable_of_inForce_english h
      · cases List.mem_singleton.mp hmem
        exact h.eq_of_lookup rfl ▸ readable_vocabulary

/-- The classes of the nested graphs take the language of their comments with them, and the one
after them does not see it. -/
theorem harvest_of_spliced_nested : harvest [] flat = harvest [] nested :=
  harvest_of_spliced splicedDocument_nested fun _ => readable_of_inForce_nested

end LinkedData

end OntoTypes
