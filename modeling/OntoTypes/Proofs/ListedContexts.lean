import OntoTypes.Proofs.Splicing

/-!
# Contexts in a list of their own

The context of an object may be written as a list with one entry. If the context is an object, this
makes no difference, wherever the object stands and whatever has been declared around it. If it is
null, it does: by itself a null context counts for nothing, whereas in a list it is a definition,
which forgets what has been declared around the object. The visit of a document is then the same
only if nothing that is found inside of the object depends on that, as where nothing has been
declared.

Main definitions and results:

* `listed` — an object with its context in a list;
* `ListedIn` — a document in which this is done at one object, at any depth;
* `found`, `Indifferent` — what is found inside of an object, and when it does not matter that what
  has been declared is forgotten;
* `harvest_congr` — definitions count by the context that they amount to;
* `harvest_listed` — when a document states the same declarations.
-/

namespace OntoTypes

namespace LinkedData

/-! ## Visits that end without a failure -/

namespace Harvest

variable {first first' second second' : Harvest}

/-- Two visits end without a failure if both of them do. -/
theorem failure_append_eq_none_iff :
    (first.append second).failure = none ↔ first.failure = none ∧ second.failure = none := by
  cases hfirst : first.failure with
  | some e => rw [append_of_failure hfirst, hfirst]; simp
  | none => rw [append_of_success hfirst]; simp

/-- If nothing fails, what a visit finds after a given beginning can be told from the whole. -/
theorem append_left_cancel (hnone : (first.append second).failure = none)
    (h : first.append second' = first.append second) : second' = second := by
  have hfirst := (failure_append_eq_none_iff.mp hnone).1
  rw [append_of_success hfirst, append_of_success hfirst] at h
  obtain ⟨hdeclarations, hfailure⟩ := Harvest.mk.inj h
  cases second
  cases second'
  exact congrArg₂ Harvest.mk (List.append_cancel_left hdeclarations) hfailure

/-- What it finds before a given end can be told as well. -/
theorem append_right_cancel (hnone : (first.append second).failure = none)
    (h : first'.append second = first.append second) : first' = first := by
  obtain ⟨hfirst, -⟩ := failure_append_eq_none_iff.mp hnone
  obtain ⟨hfirst', -⟩ := failure_append_eq_none_iff.mp (h ▸ hnone)
  rw [append_of_success hfirst, append_of_success hfirst'] at h
  obtain ⟨hdeclarations, -⟩ := Harvest.mk.inj h
  obtain ⟨declarations, failure⟩ := first
  obtain ⟨declarations', failure'⟩ := first'
  exact congrArg₂ Harvest.mk (List.append_cancel_right hdeclarations) (hfirst'.trans hfirst.symm)

/-- Two visits are the same if `condition` holds and, as long as the first one does not fail, only
then. -/
structure SameIf (condition : Prop) (visit visit' : Harvest) : Prop where
  same : condition → visit' = visit
  only : visit.failure = none → visit' = visit → condition

/-- One of several visits decides about all of them together. -/
theorem SameIf.concat {condition : Prop} {visit visit' : Harvest}
    (h : SameIf condition visit visit') (before after : List Harvest) :
    SameIf condition (concat (before ++ visit :: after)) (concat (before ++ visit' :: after)) where
  same hcondition := by rw [h.same hcondition]
  only hnone hsame := by
    rw [concat_append] at hnone
    rw [concat_append, concat_append] at hsame
    have hrest := (failure_append_eq_none_iff.mp hnone).2
    exact h.only (failure_append_eq_none_iff.mp hrest).1
      (append_right_cancel hrest (append_left_cancel hnone hsame))

end Harvest

/-! ## Definitions that come to the same -/

variable {around around' given given' : List Json} {context own : Context}
  {fields : List (String × Json)}

/-- Definitions are read on top of those before them. -/
theorem load_append (given later : List Json) :
    Context.load (given ++ later) =
      (Context.load given).bind fun context =>
        (later.flatMap Context.definitions).foldlM Context.readDefinition context := by
  rw [Context.load, List.flatMap_append, List.foldlM_append]
  rfl

/-- Definitions that come to the same still do so with those of an object after them. -/
theorem load_definitionsWithin_congr (h : Context.load around = Context.load around') :
    Context.load (definitionsWithin around fields) =
      Context.load (definitionsWithin around' fields) := by
  rw [definitionsWithin, definitionsWithin, load_append, load_append, h]

/-- Members are smaller than the object that holds them. -/
theorem sizeOf_lt_of_mem_membersOf {member : Json} (h : member ∈ membersOf context fields) :
    sizeOf member < sizeOf (Json.object fields) := by
  rw [← map_val_graphMembers] at h
  obtain ⟨⟨_, hsize⟩, -, rfl⟩ := List.mem_map.mp h
  exact hsize

/-- A member is visited alike if nested graphs are. -/
theorem visit_congr (h : Context.load around = Context.load around')
    (hload : Context.load around = .ok context) {member : Json}
    (hmember : harvest around member = harvest around' member) :
    visit around context member = visit around' context member := by
  cases member with
  | object inner =>
    rw [visit, visit, hmember, visitMember_eq hload, visitMember_eq (h ▸ hload),
      load_definitionsWithin_congr h]
  | _ => rfl

/-- **Definitions count by the context that they amount to.** -/
theorem harvest_congr {around around' : List Json}
    (h : Context.load around = Context.load around') (document : Json) :
    harvest around document = harvest around' document := by
  -- on the size of the document, for any two lists of definitions: those inside differ from those
  -- around it
  match document with
  | .object fields =>
    -- the definitions within the object come to the same, and its members are smaller
    have hwithin : Context.load (definitionsWithin around fields) = _ :=
      load_definitionsWithin_congr h
    rw [harvest_object, harvest_object, ← hwithin]
    cases hload : Context.load (definitionsWithin around fields) with
    | error e => rfl
    | ok own =>
      refine congrArg Harvest.concat (List.map_congr_left fun member hmember => ?_)
      have hsize := sizeOf_lt_of_mem_membersOf hmember
      exact visit_congr hwithin hload (harvest_congr hwithin member)
  | .array items =>
    -- items stand in the definitions around the list
    rw [harvest_array, harvest_array, ← h]
    cases hload : Context.load around with
    | error e => rfl
    | ok context =>
      refine congrArg Harvest.concat (List.map_congr_left fun member hmember => ?_)
      have hsize : sizeOf member < sizeOf (Json.array items) := by
        have := List.sizeOf_lt_of_mem hmember
        simp only [Json.array.sizeOf_spec]
        omega
      exact visit_congr h hload (harvest_congr h member)
  | .text text => by_cases hempty : text = "" <;> simp [harvest, hempty]
  | .null | .bool _ | .integer _ | .real _ => simp [harvest]
termination_by sizeOf document
decreasing_by all_goals exact hsize

/-! ## What is found inside of an object -/

/-- What is found inside of a member of a graph with some definitions in force there. Whether the
member holds a graph of its own is seen from outside, under the context of the graph around it. -/
def found (context : Context) (given : List Json) (fields : List (String × Json)) : Harvest :=
  match Context.load given with
  | .error e => .failed e
  | .ok own =>
    if (context.get? "@graph" fields).isSome then
      .concat ((membersOf own fields).map (visit given own))
    else stated own fields

/-- Visiting an object is finding what is inside of it. -/
theorem visit_object (hload : Context.load around = .ok context) :
    visit around context (.object fields) =
      found context (definitionsWithin around fields) fields := by
  rw [visit, found]
  split
  · exact harvest_object
  · exact visitMember_eq hload

/-- What is found inside depends only on what the definitions come to. -/
theorem found_congr (h : Context.load given = Context.load given') :
    found context given fields = found context given' fields := by
  rw [found, found, ← h]
  cases hload : Context.load given with
  | error e => rfl
  | ok own =>
    have hvisit : visit given own = visit given' own :=
      funext fun member => visit_congr h hload (harvest_congr h member)
    dsimp only
    rw [hvisit]

/-- Another context of the member counts by what it declares. -/
theorem found_lifted (hload : Context.load around = .ok context) {outer : Option Json} :
    found context given (lifted outer fields) = found context given fields := by
  rw [found, found, get?_lifted hload (by decide)]
  cases hown : Context.load given with
  | error e => rfl
  | ok own =>
    dsimp only
    rw [membersOf, get?_lifted hown (by decide), stated_lifted hown]
    rfl

/-- It does not matter for what is found inside of an object whether that is forgotten which has
been declared around it. -/
def Indifferent (around : List Json) (fields : List (String × Json)) : Prop :=
  ∀ context, Context.load around = .ok context →
    found context (around ++ [.null]) fields = found context around fields

/-- Where nothing has been declared, there is nothing to forget. -/
theorem indifferent_of_clear (h : ∀ context, Context.load around = .ok context →
    context.clear = context) : Indifferent around fields := by
  intro context hload
  refine found_congr ?_
  have hnull : [Json.null].flatMap Context.definitions = [.null] := by
    simp [Context.definitions]
  rw [load_append, hload, hnull]
  exact congrArg Except.ok (h context hload)

/-! ## Contexts in lists -/

/-- An object with its context, if it has one, in a list. -/
def listed (fields : List (String × Json)) : List (String × Json) :=
  match fields.lookup "@context" with
  | some own => Keyed.set "@context" (.array [own]) fields
  | none => fields

/-- A context that is an object gets into a list. -/
theorem listed_of_object {own : List (String × Json)}
    (h : fields.lookup "@context" = some (.object own)) :
    listed fields = lifted (some (.array [])) fields := by
  rw [listed, lifted, h]
  rfl

/-- So does one that is null. -/
theorem listed_of_null (h : fields.lookup "@context" = some .null) :
    listed fields = lifted (some (.array [.null])) fields := by
  rw [listed, lifted, h]
  rfl

/-- A context that is an object is one definition, in a list or not. -/
theorem definitionsWithin_listed_of_object {own : List (String × Json)}
    (h : fields.lookup "@context" = some (.object own)) :
    definitionsWithin around (listed fields) = definitionsWithin around fields := by
  rw [listed_of_object h, definitionsWithin_lifted]
  show definitionsWithin (around ++ []) fields = _
  rw [List.append_nil]

/-- By itself, a null context adds no definitions. -/
theorem definitionsWithin_of_null (h : fields.lookup "@context" = some .null) :
    definitionsWithin around fields = around := by
  rw [definitionsWithin, h]
  exact List.append_nil around

/-- A context that is null is a definition only in a list. -/
theorem definitionsWithin_listed_of_null (h : fields.lookup "@context" = some .null) :
    definitionsWithin around (listed fields) = around ++ [.null] := by
  rw [listed_of_null h, definitionsWithin_lifted]
  exact definitionsWithin_of_null h

/-- A member of a graph is visited in the same way with its context in a list. -/
def Alike (around : List Json) (fields : List (String × Json)) : Prop :=
  ∀ context, Context.load around = .ok context →
    visit around context (.object (listed fields)) = visit around context (.object fields)

/-- A context that is an object makes no difference in a list. -/
theorem alike_of_object {own : List (String × Json)}
    (h : fields.lookup "@context" = some (.object own)) : Alike around fields := by
  intro context hload
  rw [visit_object hload, visit_object hload, definitionsWithin_listed_of_object h,
    listed_of_object h, found_lifted hload]

/-- A context that is null makes none exactly if it does not matter what is forgotten. -/
theorem alike_iff_of_null (h : fields.lookup "@context" = some .null) :
    Alike around fields ↔ Indifferent around fields := by
  refine forall_congr' fun context => forall_congr' fun hload => ?_
  rw [visit_object hload, visit_object hload, definitionsWithin_listed_of_null h,
    definitionsWithin_of_null h, listed_of_null h, found_lifted hload]

/-- An object that is a document of its own is visited in the same way with another context that
amounts to the same. -/
theorem harvest_lifted {outer : Option Json}
    (h : Context.load (definitionsWithin around (lifted outer fields)) =
      Context.load (definitionsWithin around fields)) :
    harvest around (.object (lifted outer fields)) = harvest around (.object fields) := by
  rw [harvest_object, harvest_object, h]
  cases hload : Context.load (definitionsWithin around fields) with
  | error e => rfl
  | ok own =>
    dsimp only
    rw [membersOf, get?_lifted hload (by decide)]
    refine congrArg Harvest.concat (List.map_congr_left fun member _ => ?_)
    exact visit_congr h (h.trans hload) (harvest_congr h member)

/-! ## Objects in a document -/

namespace Context

/-- The name under which a keyword is found in an object. -/
def nameIn? (context : Context) (keyword : String) (fields : List (String × Json)) :
    Option String :=
  (context.namesFor keyword).find? fun name => (fields.lookup name).isSome

/-- A keyword is looked up under the first of its names that is in use. -/
theorem get?_eq_filter (context : Context) (keyword : String) (fields : List (String × Json)) :
    context.get? keyword fields =
      ((context.nameIn? keyword fields).bind (fields.lookup ·)).filter (!·.isNull) := by
  rw [get?, nameIn?]
  refine congrArg (Option.filter _) ?_
  -- name by name, up to the first that is in use
  induction context.namesFor keyword with
  | nil => rfl
  | cons name names ih =>
    rw [List.findSome?_cons, List.find?_cons]
    cases hlookup : fields.lookup name with
    | none => exact ih
    | some value => exact hlookup.symm

/-- A keyword is found under the first of its names that is in use, if it is not null there. -/
theorem get?_eq_some_iff {keyword : String} {value : Json} :
    context.get? keyword fields = some value ↔
      (∃ name, context.nameIn? keyword fields = some name ∧ fields.lookup name = some value) ∧
        value.isNull = false := by
  rw [get?_eq_filter, Option.filter_eq_some_iff, Option.bind_eq_some_iff, Bool.not_eq_true']

/-- Another value under a key in use does not change where a keyword is found. -/
theorem nameIn?_set {name : String} (h : (fields.lookup name).isSome = true) (keyword : String)
    (value : Json) :
    context.nameIn? keyword (Keyed.set name value fields) = context.nameIn? keyword fields := by
  -- the same names are in use
  have hsome : (fun other => ((Keyed.set name value fields).lookup other).isSome) =
      fun other => (fields.lookup other).isSome := by
    funext other
    by_cases hother : other = name
    · rw [hother, Keyed.lookup_set_self, h]
      rfl
    · rw [Keyed.lookup_set_of_ne hother]
  rw [nameIn?, hsome]
  rfl

/-- An object with another graph, under the name under which its graph is found. -/
def regraph (context : Context) (graph : Json) (fields : List (String × Json)) :
    List (String × Json) :=
  match context.nameIn? "@graph" fields with
  | some name => Keyed.set name graph fields
  | none => fields

end Context

/-- Members of a graph among which one object, or one in a nested graph at any depth, has its
context in a list. The object is `fields`, and `within` are the definitions in force around it. -/
inductive ListedAmong (within : List Json) (fields : List (String × Json)) :
    List Json → Context → List Json → List Json → Prop
  /-- The object is one of the members. -/
  | member {context : Context} {before after : List Json} :
      ListedAmong within fields within context (before ++ .object fields :: after)
        (before ++ .object (listed fields) :: after)
  /-- The object is found in the graph of one of the members. -/
  | deeper {around before after : List Json} {context own : Context}
      {holder : List (String × Json)} {graph : Json} :
      (context.get? "@graph" holder).isSome = true →
      Context.load (definitionsWithin around holder) = .ok own →
      ListedAmong within fields (definitionsWithin around holder) own (membersOf own holder)
        graph.elements →
      ListedAmong within fields around context (before ++ .object holder :: after)
        (before ++ .object (own.regraph graph holder) :: after)

/-- A document in which one object has its context in a list: the document itself, or a member of a
graph in it. The object is `fields`, and `within` are the definitions in force around it. -/
inductive ListedIn : List Json → List (String × Json) → Json → Json → Prop
  | whole {fields : List (String × Json)} :
      ListedIn [] fields (.object fields) (.object (listed fields))
  | graph {within : List Json} {fields holder : List (String × Json)} {own : Context}
      {graph : Json} :
      Context.load (definitionsWithin [] holder) = .ok own →
      ListedAmong within fields (definitionsWithin [] holder) own (membersOf own holder)
        graph.elements →
      ListedIn within fields (.object holder) (.object (own.regraph graph holder))
  | items {within : List Json} {fields : List (String × Json)} {items items' : List Json} :
      ListedAmong within fields [] {} items items' →
      ListedIn within fields (.array items) (.array items')

/-- There is a member to be changed, before and after. -/
theorem ListedAmong.ne_nil {within members members' : List Json}
    (h : ListedAmong within fields around context members members') :
    members ≠ [] ∧ members' ≠ [] := by
  cases h <;> simp

section

variable {holder : List (String × Json)} {graph : Json}
  (hown : Context.load (definitionsWithin around holder) = .ok own)
  (hmembers : membersOf own holder ≠ [])

include hown hmembers

/-- Where the graph of an object with members is found. -/
theorem exists_nameIn?_of_membersOf_ne_nil :
    ∃ name, own.nameIn? "@graph" holder = some name ∧ name ≠ "@context" ∧
      ∃ value, holder.lookup name = some value ∧ value.isNull = false := by
  -- members come from a graph
  obtain ⟨value, hvalue⟩ : ∃ value, own.get? "@graph" holder = some value := by
    cases hget : own.get? "@graph" holder with
    | none =>
      rw [membersOf, hget] at hmembers
      exact absurd rfl hmembers
    | some value => exact ⟨value, rfl⟩
  obtain ⟨⟨name, hname, hlookup⟩, hnull⟩ := Context.get?_eq_some_iff.mp hvalue
  refine ⟨name, hname, ?_, value, hlookup, hnull⟩
  -- contexts have no other names
  rintro rfl
  exact Context.not_mem_namesFor_context hown (by decide) (List.mem_of_find?_eq_some hname)

/-- Another graph changes nothing about the definitions. -/
theorem definitionsWithin_regraph :
    definitionsWithin around (own.regraph graph holder) = definitionsWithin around holder := by
  obtain ⟨name, hname, hcontext, -⟩ := exists_nameIn?_of_membersOf_ne_nil hown hmembers
  rw [Context.regraph, hname, definitionsWithin, Keyed.lookup_set_of_ne hcontext.symm]
  rfl

/-- It has other members. -/
theorem membersOf_regraph : membersOf own (own.regraph graph holder) = graph.elements := by
  obtain ⟨name, hname, -, value, hvalue, -⟩ := exists_nameIn?_of_membersOf_ne_nil hown hmembers
  have hsome : (holder.lookup name).isSome = true := by rw [hvalue]; rfl
  rw [Context.regraph, hname, membersOf, Context.get?_eq_filter, Context.nameIn?_set hsome, hname,
    Option.bind_some, Keyed.lookup_set_self]
  cases graph <;> rfl

/-- An object that holds a graph still holds one when the graph is another one. -/
theorem isSome_get?_regraph (hgraph : graph.elements ≠ []) (context : Context) :
    (context.get? "@graph" (own.regraph graph holder)).isSome =
      (context.get? "@graph" holder).isSome := by
  obtain ⟨name, hname, -, value, hvalue, hnull⟩ := exists_nameIn?_of_membersOf_ne_nil hown hmembers
  have hsome : (holder.lookup name).isSome = true := by rw [hvalue]; rfl
  -- seen from outside, the graph may go by another name, but what is there is null in neither case
  have hgraph' : graph.isNull = false := by
    cases graph with
    | null => exact absurd rfl hgraph
    | _ => rfl
  rw [Context.regraph, hname, Context.get?_eq_filter, Context.get?_eq_filter,
    Context.nameIn?_set hsome]
  cases hother : context.nameIn? "@graph" holder with
  | none => rfl
  | some other =>
    rw [Option.bind_some, Option.bind_some]
    -- seen from outside, the graph is found under this name, or under another one that has not
    -- changed
    by_cases heq : other = name
    · rw [heq, Keyed.lookup_set_self, hvalue, Option.filter_some, Option.filter_some, hgraph',
        hnull]
      rfl
    · rw [Keyed.lookup_set_of_ne heq]

end

/-- An object that holds a graph is visited member by member. -/
theorem visit_of_isSome (hload : Context.load around = .ok context) {holder : List (String × Json)}
    (hgraph : (context.get? "@graph" holder).isSome = true)
    (hown : Context.load (definitionsWithin around holder) = .ok own) :
    visit around context (.object holder) =
      .concat ((membersOf own holder).map (visit (definitionsWithin around holder) own)) := by
  rw [visit_object hload, found, hown]
  exact if_pos hgraph

/-- With another graph it is visited by the members of that one. -/
theorem visit_regraph (hload : Context.load around = .ok context) {holder : List (String × Json)}
    (hgraph : (context.get? "@graph" holder).isSome = true)
    (hown : Context.load (definitionsWithin around holder) = .ok own)
    (hmembers : membersOf own holder ≠ []) {graph : Json} (hother : graph.elements ≠ []) :
    visit around context (.object (own.regraph graph holder)) =
      .concat (graph.elements.map (visit (definitionsWithin around holder) own)) := by
  have hwithin : definitionsWithin around (own.regraph graph holder) = _ :=
    definitionsWithin_regraph hown hmembers
  rw [visit_of_isSome hload (by rwa [isSome_get?_regraph hown hmembers hother]) (by rwa [hwithin]),
    membersOf_regraph hown hmembers, hwithin]

/-! ## What a document states -/

variable {within members members' : List Json}

/-- Members are visited in the same way if the object is. -/
theorem sameIf_concat_visit (h : ListedAmong within fields around context members members')
    (hload : Context.load around = .ok context) :
    Harvest.SameIf (Alike within fields) (.concat (members.map (visit around context)))
      (.concat (members'.map (visit around context))) := by
  -- the condition is about the place of the object and stays the same on the way down to it
  induction h with
  | @member context before after =>
    rw [List.map_append, List.map_cons, List.map_append, List.map_cons]
    refine Harvest.SameIf.concat { same := fun halike => halike context hload, only := ?_ } _ _
    intro _ hsame other hother
    -- the definitions amount to one context only
    obtain rfl := Except.ok.inj (hload.symm.trans hother)
    exact hsame
  | deeper hgraph hown hinner ih =>
    obtain ⟨hmembers, hother⟩ := hinner.ne_nil
    rw [List.map_append, List.map_cons, List.map_append, List.map_cons,
      visit_regraph hload hgraph hown hmembers hother, visit_of_isSome hload hgraph hown]
    exact (ih hown).concat _ _

/-- A document that is an object may have its own context in a list, be it null or not, as nothing
has been declared around it. -/
theorem harvest_listed_whole (h : (∃ own, fields.lookup "@context" = some (.object own)) ∨
    fields.lookup "@context" = some .null) :
    harvest [] (.object (listed fields)) = harvest [] (.object fields) := by
  rcases h with ⟨own, hown⟩ | hnull
  · -- an object adds the same definitions in a list
    have hwithin : definitionsWithin [] (listed fields) = _ :=
      definitionsWithin_listed_of_object hown
    rw [listed_of_object hown] at hwithin ⊢
    exact harvest_lifted (congrArg Context.load hwithin)
  · have hwithin : definitionsWithin [] (listed fields) = _ :=
      definitionsWithin_listed_of_null hnull
    -- and null clears what is not there
    have hcleared : Context.load [.null] = Context.load [] := by
      simp only [Context.load, List.flatMap_cons, Context.definitions]
      rfl
    rw [listed_of_null hnull] at hwithin ⊢
    refine harvest_lifted ?_
    rw [hwithin, definitionsWithin_of_null hnull]
    exact hcleared

/-- Where nothing has been declared, nothing can be forgotten. -/
theorem indifferent_nil : Indifferent [] fields := by
  refine indifferent_of_clear fun context hload => ?_
  obtain rfl := Except.ok.inj hload
  rfl

/-- Two visits about which an object decides, by what its context is. -/
theorem same_and_sameIf_of_alike {visit visit' : Harvest}
    (h : Harvest.SameIf (Alike within fields) visit visit') :
    (∀ own, fields.lookup "@context" = some (.object own) → visit' = visit) ∧
      (fields.lookup "@context" = some .null →
        Harvest.SameIf (Indifferent within fields) visit visit') := by
  refine ⟨fun own hown => h.same (alike_of_object hown), fun hnull => ?_⟩
  rwa [← alike_iff_of_null hnull]

/-- **Which contexts can stand in a list of their own.** Put the context of one object of a document
in a list: that of the document itself, or of a member of a graph at any depth, whatever definitions
are in force around it. If the context is an object, the document states the same declarations as
before, or fails with the same error after the same declarations. If it is null, that is so
whenever it does not matter for what is found inside of the object that what has been declared
around it is forgotten; and if the document can be visited without a failure, only then. -/
theorem harvest_listed {document document' : Json}
    (h : ListedIn within fields document document') :
    (∀ own, fields.lookup "@context" = some (.object own) →
      harvest [] document' = harvest [] document) ∧
    (fields.lookup "@context" = some .null →
      Harvest.SameIf (Indifferent within fields) (harvest [] document) (harvest [] document')) := by
  cases h with
  | whole =>
    -- nothing has been declared around a document, so that a null context has nothing to forget
    refine ⟨fun own hown => harvest_listed_whole (.inl ⟨own, hown⟩), fun hnull => ?_⟩
    exact { same := fun _ => harvest_listed_whole (.inr hnull), only := fun _ _ => indifferent_nil }
  | @graph _ _ holder own graph hown hinner =>
    refine same_and_sameIf_of_alike ?_
    have hmembers := hinner.ne_nil.1
    have hwithin : definitionsWithin [] (own.regraph graph holder) = _ :=
      definitionsWithin_regraph hown hmembers
    rw [harvest_object, harvest_object, hwithin, hown]
    dsimp only
    rw [membersOf_regraph hown hmembers]
    exact sameIf_concat_visit hinner hown
  | items hinner =>
    refine same_and_sameIf_of_alike ?_
    rw [harvest_array, harvest_array]
    exact sameIf_concat_visit hinner rfl

/-- The fields of a shop that has a context and a comment. -/
def shopWith (own : Json) : List (String × Json) :=
  [("@context", own), ("@id", .text "http://schema.org/Shop"),
    ("http://www.w3.org/2000/01/rdf-schema#comment", .text "A shop.")]

/-- A document in English with such a shop. -/
def shopsWith (own : Json) : Json :=
  .object [("@context", english), ("@graph", .array [.object (shopWith own)])]

/-- The comment of the shop, in some language. -/
def shopComment (language : Option String) : Fact :=
  ⟨.iri "http://schema.org/Shop", .known .comment,
    .literal { lexical := "A shop.", language := language }⟩

/-- The context of the example, as it is loaded. -/
theorem load_english : Context.load [english] = .ok { language := .text "en" } := by
  simp only [Context.load, english, List.flatMap_cons, Context.definitions]
  rfl

/-- The shop of the example is a member of a graph. -/
theorem listedIn_shopsWith (own : Json) :
    ListedIn [english] (shopWith own) (shopsWith own) (shopsWith (.array [own])) :=
  @ListedIn.graph [english] (shopWith own) _ { language := .text "en" }
    (.array [.object (listed (shopWith own))]) load_english (@ListedAmong.member _ _ _ [] [])

/-- Inside of a shop whose context is null it matters whether the language is forgotten. -/
theorem found_shopWith_null :
    found { language := .text "en" } [english] (shopWith .null) =
        { declarations := [⟨[shopComment (some "en")], []⟩] } ∧
      found { language := .text "en" } [english, .null] (shopWith .null) =
        { declarations := [⟨[shopComment none], []⟩] } := by
  -- in a list, null forgets the language
  have hcleared : Context.load [english, .null] = .ok {} := by
    simp only [Context.load, english, List.flatMap_cons, Context.definitions]
    rfl
  constructor
  · rw [found, load_english]
    rfl
  · rw [found, hcleared]
    rfl

/-- A context with names makes no difference in a list. A null context does: the comment of the shop
is in English if it stands by itself, and so it is not if it stands in a list. -/
theorem harvest_listed_shop :
    harvest [] (shopsWith (.array [vocabulary])) = harvest [] (shopsWith vocabulary) ∧
      (harvest [] (shopsWith .null)).facts = [[shopComment (some "en")]] ∧
      harvest [] (shopsWith (.array [.null])) ≠ harvest [] (shopsWith .null) := by
  obtain ⟨hkept, hforgotten⟩ := found_shopWith_null
  -- the shop is all that there is in the graph
  have hbare : harvest [] (shopsWith .null) =
      .concat [visit [english] { language := .text "en" } (.object (shopWith .null))] := by
    rw [shopsWith, harvest_object]
    show (match Context.load [english] with | .error e => _ | .ok context => _) = _
    rw [load_english]
    rfl
  rw [visit_object load_english, definitionsWithin_of_null rfl, hkept] at hbare
  -- the two sides differ in the language of a fact, which can be computed
  have hmatters : ¬ Indifferent [english] (shopWith .null) := by
    intro hindifferent
    have hsame := hforgotten.symm.trans ((hindifferent _ load_english).trans hkept)
    exact absurd (congrArg Harvest.facts hsame) (by decide)
  have hnull := (harvest_listed (listedIn_shopsWith .null)).2 rfl
  refine ⟨(harvest_listed (listedIn_shopsWith vocabulary)).1 _ rfl, by rw [hbare]; rfl, ?_⟩
  exact fun hsame => hmatters (hnull.only (by rw [hbare]; rfl) hsame)

end LinkedData

end OntoTypes
