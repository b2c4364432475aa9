import OntoTypes.Proofs.Retention
import OntoTypes.Proofs.Sorting
import OntoTypes.Triple.Graph

/-!
# The order of triples

A graph lists its facts in the order of their terms, so that they should not depend on the order in
which the triples were found. That takes two things: triples that are equal as terms must be the
same, since the first one stays; and of two different triples exactly one must go before the other,
in an order that closes no circle. Terms do not give either for all literals. Languages are equal
up to case but are listed by their letters, values that are written in two ways are of one size, and
numbers are listed by size although all other literals are listed by datatype.

A graph and its sorting can be looked at through what must come out in any case. Whatever the
comparison of objects does, subjects and predicates are in order; and the first two triples of a
list are sorted as they compare. So if the facts are the same for every order of the triples, then
so is the list of triples behind them, and any two of them can be brought to its front.

Main definitions and results:

* `TripleGraph.listed`, `TripleGraph.facts_eq` — the triples behind the facts of a graph;
* `TripleGraph.pairwise_place_listed` — they are listed by subject and predicate;
* `TripleGraph.listed_eq_of_perm` — and follow from the facts;
* `Distinguished` — triples that are told apart by equality and by order;
* `facts_ofList_eq_iff` — exactly their facts are independent of the order in which they are found;
* `Distinguished.of_plain` — texts without values are told apart, but for the case of languages.
-/

namespace OntoTypes

open Text

namespace Triple

/-! ## Equality -/

/-- A triple without the differences that its equality overlooks. -/
def folded (triple : Triple) : Triple :=
  { triple with subject := triple.subject.folded, object := triple.object.folded }

/-- Triples are equal as terms exactly if they agree without these differences. -/
theorem same_iff_folded {a b : Triple} : a.same b = true ↔ a.folded = b.folded := by
  rw [same, Bool.and_eq_true, Bool.and_eq_true, decide_eq_true_eq, Term.same_iff_folded,
    Term.same_iff_folded, folded, folded, mk.injEq, and_assoc]

/-- Of equal triples the first one stays. -/
def slots : Slots Triple where
  same := same
  settle kept _ := kept
  refl _ := same_iff_folded.mpr rfl
  symm _ _ h := same_iff_folded.mpr (same_iff_folded.mp h).symm
  trans _ _ _ hab hbc :=
    same_iff_folded.mpr ((same_iff_folded.mp hab).trans (same_iff_folded.mp hbc))
  settle_eq _ _ := Or.inl rfl
  settle_assoc _ _ _ := rfl

/-- What is left of a triple is what it is filed under. -/
theorem keyedBy_folded : slots.KeyedBy folded := fun _ _ => same_iff_folded

/-- A triple is filed unless an equal one is there. -/
theorem file_slots (triples : List Triple) (triple : Triple) :
    slots.file triples triple =
      if triples.any (·.same triple) then triples else triples ++ [triple] := by
  induction triples with
  | nil => rfl
  | cons kept rest ih =>
    rw [Slots.file, List.any_cons]
    -- the first triple that is equal keeps its place and stays as it is
    by_cases hsame : kept.same triple = true
    · have hslot : slots.same kept triple = true := hsame
      rw [if_pos hslot, hsame, Bool.true_or, if_pos rfl]
      rfl
    · have hslot : ¬ slots.same kept triple = true := hsame
      rw [if_neg hslot, Bool.eq_false_iff.mpr hsame, Bool.false_or, ih]
      split <;> rfl

/-! ## Order -/

/-- Whether a triple states a fact. -/
def isFactual (triple : Triple) : Bool := !triple.subject.isLiteral

/-- The fact that is read off a triple, if it states one. -/
def fact (triple : Triple) : Fact := ⟨triple.subject, .ofIri triple.predicate, triple.object⟩

/-- Whether the order of terms lets one triple go before another. -/
def goesBefore (a b : Triple) : Bool := (a.compare b).isLE

end Triple

/-- What of a triple is compared before the objects are: whether its subject has an IRI, the text of
the subject, and the predicate. -/
structure Place where
  isIri     : Bool
  subject   : String
  predicate : String

namespace Place

/-- Places are compared part by part. -/
def compare (a b : Place) : Ordering :=
  (Ord.compare a.isIri b.isIri).then
    ((compareText a.subject b.subject).then (compareText a.predicate b.predicate))

instance : Std.TransCmp Place.compare :=
  have := transCmp_comap (Ord.compare : Bool → Bool → Ordering) Place.isIri
  have := transCmp_comap compareChars fun place : Place => place.subject.toList
  have := transCmp_comap compareChars fun place : Place => place.predicate.toList
  inferInstanceAs (Std.TransCmp (compareLex
    (fun a b : Place => Ord.compare a.isIri b.isIri)
    (compareLex (fun a b : Place => compareChars a.subject.toList b.subject.toList)
      (fun a b : Place => compareChars a.predicate.toList b.predicate.toList))))

/-- Places that compare as equal are equal. -/
theorem eq_of_compare {a b : Place} (h : a.compare b = .eq) : a = b := by
  obtain ⟨hiri, h⟩ := Ordering.then_eq_eq.mp h
  obtain ⟨hsubject, hpredicate⟩ := Ordering.then_eq_eq.mp h
  cases a
  cases b
  rw [Place.mk.injEq]
  exact ⟨Std.LawfulEqCmp.eq_of_compare hiri, String.toList_inj.mp (eq_of_compareChars hsubject),
    String.toList_inj.mp (eq_of_compareChars hpredicate)⟩

end Place

namespace Triple

/-- Where a triple stands among others, but for its object. -/
def place (triple : Triple) : Place where
  isIri := triple.subject matches .iri _
  subject := triple.subject.text
  predicate := triple.predicate

variable {a b : Triple}

/-- Facts are listed by place, then by object. -/
theorem compare_eq (ha : a.isFactual = true) (hb : b.isFactual = true) :
    a.compare b = (a.place.compare b.place).then (a.object.compare b.object) := by
  obtain ⟨s, p, o⟩ := a
  obtain ⟨s', p', o'⟩ := b
  -- terms of different kinds are told apart by their place
  cases s with
  | literal l => cases ha
  | iri value =>
    cases s' with
    | literal l => cases hb
    | iri value' => exact (Ordering.then_assoc ..).symm
    | blank label' => rfl
  | blank label =>
    cases s' with
    | literal l => cases hb
    | iri value' => rfl
    | blank label' => exact (Ordering.then_assoc ..).symm

/-- What states no fact is listed last. -/
theorem compare_of_not_isFactual (ha : a.isFactual = true) (hb : b.isFactual = false) :
    a.compare b = .lt ∧ b.compare a = .gt := by
  obtain ⟨s, p, o⟩ := a
  obtain ⟨s', p', o'⟩ := b
  -- what is stated about a literal is no fact, and literals come last
  cases s' with
  | literal l' =>
    cases s with
    | literal l => cases ha
    | iri value => exact ⟨rfl, rfl⟩
    | blank label => exact ⟨rfl, rfl⟩
  | iri value' => cases hb
  | blank label' => cases hb

/-- A triple goes before a fact only if it is a fact itself. -/
theorem isFactual_of_goesBefore (h : a.goesBefore b = true) (hb : b.isFactual = true) :
    a.isFactual = true := by
  by_contra ha
  rw [goesBefore, (compare_of_not_isFactual hb (Bool.eq_false_iff.mpr ha)).2] at h
  cases h

/-- A triple that a fact does not go before is a fact. -/
theorem isFactual_of_not_goesBefore (h : a.goesBefore b = false) (ha : a.isFactual = true) :
    b.isFactual = true := by
  by_contra hb
  rw [goesBefore, (compare_of_not_isFactual ha (Bool.eq_false_iff.mpr hb)).1] at h
  cases h

/-- A fact that goes before another one stands at the same place or earlier. -/
theorem isLE_place_of_goesBefore (ha : a.isFactual = true) (hb : b.isFactual = true)
    (h : a.goesBefore b = true) : (a.place.compare b.place).isLE = true := by
  rw [goesBefore, compare_eq ha hb] at h
  cases hplace : a.place.compare b.place with
  | lt | eq => rfl
  | gt =>
    rw [hplace] at h
    cases h

/-- A fact that does not go before another one stands at the same place or later. -/
theorem isLE_place_of_not_goesBefore (ha : a.isFactual = true) (hb : b.isFactual = true)
    (h : a.goesBefore b = false) : (b.place.compare a.place).isLE = true := by
  rw [goesBefore, compare_eq ha hb] at h
  rw [@Std.OrientedCmp.eq_swap _ Place.compare]
  cases hplace : a.place.compare b.place with
  | gt | eq => rfl
  | lt =>
    rw [hplace] at h
    cases h

/-- A triple that states a fact follows from its place and the fact. -/
theorem eq_of_place_of_fact (hplace : a.place = b.place) (hfact : a.fact = b.fact) : a = b := by
  obtain ⟨s, p, o⟩ := a
  obtain ⟨s', p', o'⟩ := b
  obtain ⟨-, -, rfl⟩ := Place.mk.inj hplace
  obtain ⟨rfl, -, rfl⟩ := Fact.mk.inj hfact
  rfl

/-- What equality overlooks makes no difference to the place. -/
theorem place_folded (triple : Triple) : triple.folded.place = triple.place := by
  obtain ⟨s, p, o⟩ := triple
  cases s <;> rfl

/-- Equal triples both state a fact or neither does. -/
theorem isFactual_folded (triple : Triple) : triple.folded.isFactual = triple.isFactual := by
  obtain ⟨s, p, o⟩ := triple
  cases s <;> rfl

end Triple

/-! ## The triples of a graph -/

namespace TripleGraph

variable {triples triples' : List Triple}

/-- A graph is filed triple by triple. -/
theorem triples_ofList (triples : List Triple) :
    (ofList triples).triples = Triple.slots.fileAll [] triples := by
  induction triples using List.reverseRecOn with
  | nil => rfl
  | append_singleton triples triple ih =>
    have hadd : ofList (triples ++ [triple]) = (ofList triples).add triple := List.foldl_concat ..
    have hfile : Triple.slots.fileAll [] (triples ++ [triple]) =
        Triple.slots.file (Triple.slots.fileAll [] triples) triple := List.foldl_concat ..
    rw [hadd, hfile, add, ← ih, Triple.file_slots]
    split <;> rfl

/-- A graph has one triple of each kind. -/
theorem map_folded_ofList (triples : List Triple) :
    (ofList triples).triples.map Triple.folded = (triples.map Triple.folded).eraseDups := by
  rw [triples_ofList, Triple.keyedBy_folded.map_key_fileAll_nil]

/-- No triple is in a graph that was not found. -/
theorem mem_of_mem_ofList {triple : Triple} (h : triple ∈ (ofList triples).triples) :
    triple ∈ triples := by
  rw [triples_ofList] at h
  exact (Triple.slots.mem_fileAll h).resolve_left List.not_mem_nil

/-- No two triples of a graph are equal as terms. -/
theorem nodup_folded_ofList (triples : List Triple) :
    ((ofList triples).triples.map Triple.folded).Nodup :=
  map_folded_ofList triples ▸ nodup_eraseDups _

/-- Later triples leave those that are there in their places. -/
theorem exists_ofList_append (triples later : List Triple) :
    ∃ rest, (ofList (triples ++ later)).triples = (ofList triples).triples ++ rest := by
  -- from the end, because triples are added there
  induction later using List.reverseRecOn with
  | nil => exact ⟨[], by simp⟩
  | append_singleton later triple ih =>
    obtain ⟨rest, hrest⟩ := ih
    have hadd : ofList (triples ++ (later ++ [triple])) =
        (ofList (triples ++ later)).add triple := by
      rw [← List.append_assoc]
      exact List.foldl_concat ..
    rw [hadd, add]
    split
    · exact ⟨rest, hrest⟩
    · exact ⟨rest ++ [triple], by rw [hrest, List.append_assoc]⟩

/-! ## The triples behind the facts -/

/-- The triples that state the facts of a graph, as they are listed. -/
def listed (graph : TripleGraph) : List Triple :=
  (graph.triples.mergeSort Triple.goesBefore).filter Triple.isFactual

/-- The facts of a graph are those of the triples that are listed. -/
theorem facts_eq (graph : TripleGraph) : graph.facts = graph.listed.map Triple.fact := by
  have hfilter (triples : List Triple) :
      triples.filterMap Triple.fact? = (triples.filter Triple.isFactual).map Triple.fact := by
    induction triples with
    | nil => rfl
    | cons triple rest ih =>
      rw [List.filterMap_cons, List.filter_cons, Triple.fact?, Triple.isFactual]
      cases triple.subject.isLiteral with
      | true => exact ih
      | false => exact congrArg (Triple.fact triple :: ·) ih
  exact hfilter _

/-- The triples of a graph that state facts are listed. -/
theorem mem_listed {graph : TripleGraph} {triple : Triple} :
    triple ∈ graph.listed ↔ triple ∈ graph.triples ∧ triple.isFactual = true := by
  rw [listed, List.mem_filter, List.mem_mergeSort]

/-- Facts are listed by subject and predicate, whatever becomes of their objects. -/
theorem pairwise_place_listed (graph : TripleGraph) :
    graph.listed.Pairwise fun a b => (a.place.compare b.place).isLE = true := by
  have hsorted : (graph.triples.mergeSort Triple.goesBefore).Pairwise fun a b =>
      b.isFactual = true → a.isFactual = true ∧ (a.place.compare b.place).isLE = true := by
    -- what states no fact may be listed in any way, as long as it is listed last
    refine pairwise_mergeSort_of ?_ ?_ ?_ (List.Subset.refl _)
    · intro a _ b _ c _ hab hbc hc
      obtain ⟨hb, hbc⟩ := hbc hc
      obtain ⟨ha, hab⟩ := hab hb
      exact ⟨ha, Std.TransCmp.isLE_trans hab hbc⟩
    · intro a _ b _ hab hb
      have ha := Triple.isFactual_of_goesBefore hab hb
      exact ⟨ha, Triple.isLE_place_of_goesBefore ha hb hab⟩
    · intro a _ b _ hab ha
      have hb := Triple.isFactual_of_not_goesBefore hab ha
      exact ⟨hb, Triple.isLE_place_of_not_goesBefore ha hb hab⟩
  exact List.pairwise_filter.mpr (hsorted.imp fun hab _ hb => (hab hb).2)

/-- Rearranged triples have their facts at the same places. -/
theorem map_place_listed_eq_of_perm (h : triples.Perm triples') :
    (ofList triples).listed.map Triple.place = (ofList triples').listed.map Triple.place := by
  -- up to the differences that equality overlooks, the same triples are kept
  have hfolded (triples : List Triple) : ((ofList triples).listed.map Triple.folded).Perm
      ((triples.map Triple.folded).eraseDups.filter Triple.isFactual) := by
    have hfactual : Triple.isFactual ∘ Triple.folded = Triple.isFactual :=
      funext Triple.isFactual_folded
    rw [← map_folded_ofList, List.filter_map, hfactual]
    exact ((List.mergeSort_perm _ _).filter _).map _
  -- and these differences do not show in a place
  have hplaces (triples : List Triple) : (ofList triples).listed.map Triple.place =
      ((ofList triples).listed.map Triple.folded).map Triple.place := by
    rw [List.map_map]
    exact List.map_congr_left fun triple _ => (Triple.place_folded triple).symm
  have hperm : ((ofList triples).listed.map Triple.place).Perm
      ((ofList triples').listed.map Triple.place) := by
    rw [hplaces, hplaces]
    exact ((hfolded triples).trans
      (((eraseDups_perm (h.map _)).filter _).trans (hfolded triples').symm)).map _
  have hsorted (triples : List Triple) : ((ofList triples).listed.map Triple.place).Pairwise
      fun a b => (a.compare b).isLE = true :=
    List.pairwise_map.mpr (pairwise_place_listed _)
  -- sorted lists of the same places are the same list
  refine hperm.eq_of_pairwise ?_ (hsorted triples) (hsorted triples')
  exact fun a b _ _ hab hba => Place.eq_of_compare (Std.OrientedCmp.isLE_antisymm hab hba)

/-- The triples behind the facts follow from the facts, if nothing but the order in which triples
are found is open. -/
theorem listed_eq_of_perm (h : triples.Perm triples')
    (hfacts : (ofList triples).facts = (ofList triples').facts) :
    (ofList triples).listed = (ofList triples').listed := by
  rw [facts_eq, facts_eq] at hfacts
  have hboth : (ofList triples).listed.map (fun triple => (triple.place, triple.fact)) =
      (ofList triples').listed.map fun triple => (triple.place, triple.fact) := by
    rw [← List.zip_map', ← List.zip_map', map_place_listed_eq_of_perm h, hfacts]
  refine List.map_injective_iff.mpr (fun a b hab => ?_) hboth
  obtain ⟨hplace, hfact⟩ := Prod.mk.inj hab
  exact Triple.eq_of_place_of_fact hplace hfact

/-- No two triples that are equal as terms are listed. -/
theorem eq_of_mem_listed {a b : Triple} (ha : a ∈ (ofList triples).listed)
    (hb : b ∈ (ofList triples).listed) (hsame : a.same b = true) : a = b :=
  List.inj_on_of_nodup_map (nodup_folded_ofList triples) (mem_listed.mp ha).1
    (mem_listed.mp hb).1 (Triple.same_iff_folded.mp hsame)

/-- No triple is listed twice. -/
theorem nodup_listed (triples : List Triple) : (ofList triples).listed.Nodup :=
  (((List.mergeSort_perm _ _).nodup_iff.mpr (nodup_folded_ofList triples).of_map)).filter _

/-- The triple that is found first is listed, if it states a fact. -/
theorem mem_listed_cons {triple : Triple} (hfactual : triple.isFactual = true)
    (rest : List Triple) : triple ∈ (ofList (triple :: rest)).listed := by
  obtain ⟨later, hlater⟩ := exists_ofList_append [triple] rest
  refine mem_listed.mpr ⟨?_, hfactual⟩
  rw [← List.singleton_append, hlater]
  exact List.mem_append_left _ List.mem_cons_self

/-- The two triples that are found first are listed as they compare. -/
theorem pair_sublist_listed {a b : Triple} (ha : a.isFactual = true) (hb : b.isFactual = true)
    (hsame : a.same b = false) (rest : List Triple) :
    (if a.goesBefore b then [a, b] else [b, a]).Sublist (ofList (a :: b :: rest)).listed := by
  obtain ⟨later, hlater⟩ := exists_ofList_append [a, b] rest
  -- two different triples that are found first stand first in the graph
  have hpair : (ofList [a, b]).triples = [a, b] := by
    simp [ofList, add, hsame]
  have htriples : (ofList (a :: b :: rest)).triples = a :: b :: later := by
    rw [hpair] at hlater
    exact hlater
  have hsub := (pair_sublist_mergeSort_cons_cons Triple.goesBefore a b later).filter
    Triple.isFactual
  -- and neither is dropped from the list
  have hkept : (if a.goesBefore b then [a, b] else [b, a]).filter Triple.isFactual =
      if a.goesBefore b then [a, b] else [b, a] := by
    split <;> simp [ha, hb]
  rw [hkept, ← htriples] at hsub
  exact hsub

end TripleGraph

/-! ## Independence of the order -/

/-- Triples whose facts are told apart: those that are equal as terms are the same, and of two
different ones exactly one goes before the other, in an order. -/
structure Distinguished (triples : List Triple) : Prop where
  same_eq : ∀ a ∈ triples, ∀ b ∈ triples, a.isFactual = true → b.isFactual = true →
    a.same b = true → a = b
  one_first : ∀ a ∈ triples, ∀ b ∈ triples, a.isFactual = true → b.isFactual = true → a ≠ b →
    (a.goesBefore b = true ↔ b.goesBefore a = false)
  trans : ∀ a ∈ triples, ∀ b ∈ triples, ∀ c ∈ triples, a.isFactual = true → b.isFactual = true →
    c.isFactual = true → a.goesBefore b = true → b.goesBefore c = true → a.goesBefore c = true

/-- Of two items of which one is listed after the other, it has the later place. -/
theorem idxOf_lt_of_pair_sublist [DecidableEq α] {items : List α} (h : items.Nodup) {a b : α}
    (hsub : [a, b].Sublist items) : items.idxOf a < items.idxOf b := by
  have hplaces : items.Pairwise fun x y => items.idxOf x < items.idxOf y := by
    rw [List.pairwise_iff_getElem]
    intro i j hi hj hij
    rwa [h.idxOf_getElem, h.idxOf_getElem]
  exact (List.pairwise_cons.mp (hplaces.sublist hsub)).1 b (List.mem_singleton_self b)

section

open TripleGraph

variable {triples : List Triple} {a b : Triple}
  (hfacts : ∀ triples', triples'.Perm triples → (ofList triples').facts = (ofList triples).facts)
include hfacts

/-- If the order in which triples are found makes no difference, all that state facts are listed. -/
theorem mem_listed_of_facts_eq (ha : a ∈ triples) (hfactual : a.isFactual = true) :
    a ∈ (ofList triples).listed := by
  have hperm : (a :: triples.erase a).Perm triples := (List.perm_cons_erase ha).symm
  rw [← listed_eq_of_perm hperm (hfacts _ hperm)]
  exact mem_listed_cons hfactual _

/-- If the order in which triples are found makes no difference, different ones are listed as they
compare, because they might be found first. -/
theorem goesBefore_iff_idxOf_lt (ha : a ∈ triples) (hb : b ∈ triples)
    (hfactual : a.isFactual = true) (hfactual' : b.isFactual = true) (hne : a ≠ b) :
    a.goesBefore b = true ↔
      (ofList triples).listed.idxOf a < (ofList triples).listed.idxOf b := by
  have hlisted := mem_listed_of_facts_eq hfacts ha hfactual
  have hlisted' := mem_listed_of_facts_eq hfacts hb hfactual'
  have hsame : a.same b = false :=
    Bool.eq_false_iff.mpr fun hsame => hne (eq_of_mem_listed hlisted hlisted' hsame)
  -- the triples in an order in which these two come first
  have hperm : (a :: b :: (triples.erase a).erase b).Perm triples := by
    have hb' : b ∈ triples.erase a := (List.mem_erase_of_ne (Ne.symm hne)).mpr hb
    exact ((List.perm_cons_erase hb').symm.cons a).trans (List.perm_cons_erase ha).symm
  have hpair := pair_sublist_listed hfactual hfactual' hsame ((triples.erase a).erase b)
  rw [listed_eq_of_perm hperm (hfacts _ hperm)] at hpair
  have hnodup := nodup_listed triples
  cases hbefore : a.goesBefore b with
  | true =>
    rw [if_pos hbefore] at hpair
    exact iff_of_true rfl (idxOf_lt_of_pair_sublist hnodup hpair)
  | false =>
    rw [if_neg (by simp [hbefore])] at hpair
    have hafter := idxOf_lt_of_pair_sublist hnodup hpair
    exact iff_of_false Bool.false_ne_true (by omega)

/-- If the order in which triples are found makes no difference, their facts are told apart. -/
theorem distinguished_of_facts_eq : Distinguished triples where
  same_eq a ha b hb hfactual hfactual' hsame :=
    eq_of_mem_listed (mem_listed_of_facts_eq hfacts ha hfactual)
      (mem_listed_of_facts_eq hfacts hb hfactual') hsame
  one_first a ha b hb hfactual hfactual' hne := by
    have hlisted := mem_listed_of_facts_eq hfacts ha hfactual
    -- one of them is listed first, which decides how they compare
    have hplaces : (ofList triples).listed.idxOf a ≠ (ofList triples).listed.idxOf b :=
      fun heq => hne ((List.idxOf_inj hlisted).mp heq)
    have hforth := goesBefore_iff_idxOf_lt hfacts ha hb hfactual hfactual' hne
    have hback := goesBefore_iff_idxOf_lt hfacts hb ha hfactual' hfactual (Ne.symm hne)
    rw [← Bool.not_eq_true, hforth, hback]
    omega
  trans a ha b hb c hc hfactual hfactual' hfactual'' hab hbc := by
    -- three different triples compare as their positions do
    by_cases heq : a = b
    · exact heq ▸ hbc
    by_cases heq' : b = c
    · exact heq' ▸ hab
    have hforth := (goesBefore_iff_idxOf_lt hfacts ha hb hfactual hfactual' heq).mp hab
    have hback := (goesBefore_iff_idxOf_lt hfacts hb hc hfactual' hfactual'' heq').mp hbc
    have hne : a ≠ c := by
      rintro rfl
      omega
    exact (goesBefore_iff_idxOf_lt hfacts ha hc hfactual hfactual'' hne).mpr (by omega)

end

namespace Distinguished

variable {triples triples' : List Triple} (h : Distinguished triples)
include h

/-- Whether triples are told apart does not depend on their order. -/
theorem of_perm (hperm : triples.Perm triples') : Distinguished triples' where
  same_eq a ha b hb := h.same_eq a (hperm.mem_iff.mpr ha) b (hperm.mem_iff.mpr hb)
  one_first a ha b hb := h.one_first a (hperm.mem_iff.mpr ha) b (hperm.mem_iff.mpr hb)
  trans a ha b hb c hc :=
    h.trans a (hperm.mem_iff.mpr ha) b (hperm.mem_iff.mpr hb) c (hperm.mem_iff.mpr hc)

/-- All triples that state facts are listed. -/
theorem mem_listed_iff {triple : Triple} :
    triple ∈ (TripleGraph.ofList triples).listed ↔ triple ∈ triples ∧ triple.isFactual = true := by
  rw [TripleGraph.mem_listed]
  refine and_congr_left fun hfactual => ⟨TripleGraph.mem_of_mem_ofList, fun hmem => ?_⟩
  -- one that is equal as a term is in the graph, and that can only be the triple itself
  have hfolded : triple.folded ∈ (TripleGraph.ofList triples).triples.map Triple.folded := by
    rw [TripleGraph.map_folded_ofList, List.mem_eraseDups]
    exact List.mem_map_of_mem hmem
  obtain ⟨kept, hkept, heq⟩ := List.mem_map.mp hfolded
  have hkeptFactual : kept.isFactual = true := by
    rw [← Triple.isFactual_folded, heq, Triple.isFactual_folded, hfactual]
  have hsame := h.same_eq kept (TripleGraph.mem_of_mem_ofList hkept) triple hmem hkeptFactual
    hfactual (Triple.same_iff_folded.mpr heq)
  exact hsame ▸ hkept

/-- Facts are listed in the order of their triples. -/
theorem pairwise_listed :
    (TripleGraph.ofList triples).listed.Pairwise fun a b => a = b ∨ a.goesBefore b = true := by
  have hsorted : ((TripleGraph.ofList triples).triples.mergeSort Triple.goesBefore).Pairwise
      fun a b => b.isFactual = true →
        a.isFactual = true ∧ (a = b ∨ a.goesBefore b = true) := by
    have hkept : (TripleGraph.ofList triples).triples ⊆ triples :=
      fun _ => TripleGraph.mem_of_mem_ofList
    -- among facts the comparison is an order, and what states no fact is listed after them
    refine pairwise_mergeSort_of ?_ ?_ ?_ hkept
    · intro a ha b hb c hc hab hbc hfactual''
      obtain ⟨hfactual', hbc⟩ := hbc hfactual''
      obtain ⟨hfactual, hab⟩ := hab hfactual'
      refine ⟨hfactual, ?_⟩
      rcases hab with rfl | hab
      · exact hbc
      · rcases hbc with rfl | hbc
        · exact Or.inr hab
        · exact Or.inr (h.trans a ha b hb c hc hfactual hfactual' hfactual'' hab hbc)
    · intro a _ b _ hab hfactual'
      exact ⟨Triple.isFactual_of_goesBefore hab hfactual', Or.inr hab⟩
    · intro a ha b hb hab hfactual
      have hfactual' := Triple.isFactual_of_not_goesBefore hab hfactual
      refine ⟨hfactual', or_iff_not_imp_left.mpr fun hne => ?_⟩
      exact (h.one_first b hb a ha hfactual' hfactual hne).mpr hab
  exact List.pairwise_filter.mpr (hsorted.imp fun hab _ hfactual' => (hab hfactual').2)

/-- The same triples are listed, in whatever order they are found. -/
theorem listed_eq (hperm : triples.Perm triples') :
    (TripleGraph.ofList triples').listed = (TripleGraph.ofList triples).listed := by
  have h' := h.of_perm hperm
  -- no triple is overlooked in either order
  have hlisted : (TripleGraph.ofList triples').listed.Perm (TripleGraph.ofList triples).listed := by
    refine (List.perm_ext_iff_of_nodup (TripleGraph.nodup_listed _)
      (TripleGraph.nodup_listed _)).mpr fun triple => ?_
    rw [h'.mem_listed_iff, h.mem_listed_iff, hperm.mem_iff]
  refine hlisted.eq_of_pairwise ?_ h'.pairwise_listed h.pairwise_listed
  intro a b ha hb hab hba
  obtain ⟨ha, hfactual⟩ := h.mem_listed_iff.mp (hlisted.mem_iff.mp ha)
  obtain ⟨hb, hfactual'⟩ := h.mem_listed_iff.mp hb
  -- two different triples do not go before each other
  by_contra hne
  have hforth := hab.resolve_left hne
  have hback := hba.resolve_left (Ne.symm hne)
  rw [(h.one_first a ha b hb hfactual hfactual' hne).mp hforth] at hback
  cases hback

end Distinguished

/-- **When the order of triples does not matter.** The facts of a graph are the same for every order
in which its triples are found, exactly if no two different triples that state facts are equal as
terms, and the order of terms puts one of any two of them first and closes no circle.

Sorting makes up for the order only between triples that it can tell apart. Terms that are equal may
be written in two ways, of which the graph keeps the one that is found first; and the order of
literals is by value, so that it need not tell two literals apart nor be transitive. -/
theorem facts_ofList_eq_iff (triples : List Triple) :
    (∀ triples', triples'.Perm triples →
      (TripleGraph.ofList triples').facts = (TripleGraph.ofList triples).facts) ↔
        Distinguished triples := by
  refine ⟨distinguished_of_facts_eq, fun h triples' hperm => ?_⟩
  rw [TripleGraph.facts_eq, TripleGraph.facts_eq, h.listed_eq hperm.symm]

/-- A class whose comment is found twice, with its language written in two ways. -/
def taggedTwice : List Triple := [
  ⟨.iri "http://schema.org/Thing", "http://www.w3.org/1999/02/22-rdf-syntax-ns#type",
    .iri "http://www.w3.org/2000/01/rdf-schema#Class"⟩,
  ⟨.iri "http://schema.org/Thing", "http://www.w3.org/2000/01/rdf-schema#comment",
    .literal { lexical := "A thing.", language := some "EN" }⟩,
  ⟨.iri "http://schema.org/Thing", "http://www.w3.org/2000/01/rdf-schema#comment",
    .literal { lexical := "A thing.", language := some "en" }⟩]

/-- The comment that is found first stays, so that the facts depend on the order. -/
theorem facts_ofList_ne_taggedTwice :
    ¬ ∀ triples', triples'.Perm taggedTwice →
      (TripleGraph.ofList triples').facts = (TripleGraph.ofList taggedTwice).facts := by
  intro hfacts
  have hdistinguished := (facts_ofList_eq_iff taggedTwice).mp hfacts
  have heq := hdistinguished.same_eq taggedTwice[1] (List.getElem_mem (by decide)) taggedTwice[2]
    (List.getElem_mem (by decide)) (by decide) (by decide) (by decide)
  exact absurd heq (by decide)

/-! ## Plain texts -/

/-- Whether a literal is compared by its text: it is not written for a datatype with values, and
not for the datatype that texts without one count as. -/
def Literal.isPlain (l : Literal) : Bool :=
  (l.datatype.bind Datatype.ofIri?).isNone && l.datatype ≠ some Literal.stringType

namespace Literal

/-- Comparison of literals as if none of them had a value. -/
def compareTexts (a b : Literal) : Ordering :=
  (compareText (a.datatype.getD stringType) (b.datatype.getD stringType)).then
    ((compareLanguages a.language b.language).then (compareText a.lexical b.lexical))

/-- A plain literal is compared by its texts. -/
theorem compare_eq_compareTexts {a b : Literal} (ha : a.isPlain = true) :
    a.compare b = a.compareTexts b := by
  have hnone : a.datatype.bind Datatype.ofIri? = none :=
    Option.isNone_iff_eq_none.mp (Bool.and_eq_true_iff.mp ha).1
  have hquantity : a.quantity? = none := by rw [quantity?, hnone]; rfl
  have hmeaning : a.meaning? = none := by rw [meaning?, hnone]; rfl
  rw [compare, hquantity, compareTexts, compareValues, hmeaning]
  rfl

instance : Std.TransCmp compareLanguages where
  eq_swap {a b} := by
    cases a <;> cases b
    · rfl
    · rfl
    · rfl
    · exact @Std.OrientedCmp.eq_swap _ compareChars _ _ _
  isLE_trans {a b c} := by
    cases a <;> cases b <;> cases c <;> simp only [compareLanguages, Ordering.isLE]
    all_goals first | exact @Std.TransCmp.isLE_trans _ compareChars _ _ _ _ | simp

instance : Std.TransCmp compareTexts :=
  have := transCmp_comap compareChars fun l : Literal => (l.datatype.getD stringType).toList
  have := transCmp_comap compareLanguages Literal.language
  have := transCmp_comap compareChars fun l : Literal => l.lexical.toList
  inferInstanceAs (Std.TransCmp (compareLex
    (fun a b : Literal =>
      compareChars (a.datatype.getD stringType).toList (b.datatype.getD stringType).toList)
    (compareLex (fun a b : Literal => compareLanguages a.language b.language)
      (fun a b : Literal => compareChars a.lexical.toList b.lexical.toList))))

/-- Languages that compare as equal are equal. -/
theorem eq_of_compareLanguages {a b : Option String} (h : compareLanguages a b = .eq) : a = b := by
  cases a with
  | none =>
    cases b with
    | none => rfl
    | some tag' => cases h
  | some tag =>
    cases b with
    | none => cases h
    | some tag' => exact congrArg some (String.toList_inj.mp (eq_of_compareChars h))

/-- Plain literals whose texts compare as equal are equal. -/
theorem eq_of_compareTexts {a b : Literal} (ha : a.isPlain = true) (hb : b.isPlain = true)
    (h : a.compareTexts b = .eq) : a = b := by
  obtain ⟨hdatatype, h⟩ := Ordering.then_eq_eq.mp h
  obtain ⟨hlanguage, hlexical⟩ := Ordering.then_eq_eq.mp h
  have hdatatype := String.toList_inj.mp (eq_of_compareChars hdatatype)
  have hstring := of_decide_eq_true (Bool.and_eq_true_iff.mp ha).2
  have hstring' := of_decide_eq_true (Bool.and_eq_true_iff.mp hb).2
  obtain ⟨lexical, language, datatype⟩ := a
  obtain ⟨lexical', language', datatype'⟩ := b
  obtain rfl := eq_of_compareLanguages hlanguage
  obtain rfl := String.toList_inj.mp (eq_of_compareChars hlexical)
  -- a text without a datatype is not one that is written for strings
  cases datatype with
  | none =>
    cases datatype' with
    | none => rfl
    | some iri' => exact absurd (congrArg some hdatatype.symm) hstring'
  | some iri =>
    cases datatype' with
    | none => exact absurd (congrArg some hdatatype) hstring
    | some iri' => rw [show iri = iri' from hdatatype]

end Literal

namespace Term

/-- Whether a term is no literal with a value. -/
def isPlain : Term → Bool
  | literal l => l.isPlain
  | _ => true

/-- Comparison of terms as if no literal had a value. -/
def compareTexts : Term → Term → Ordering
  | literal a, literal b => a.compareTexts b
  | a, b => a.compare b

/-- A plain term is compared by its texts. -/
theorem compare_eq_compareTexts {a b : Term} (ha : a.isPlain = true) :
    a.compare b = a.compareTexts b := by
  cases a <;> cases b
  case literal.literal => exact Literal.compare_eq_compareTexts ha
  all_goals rfl

instance : Std.TransCmp compareTexts where
  eq_swap {a b} := by
    cases a <;> cases b
    case literal.literal => exact @Std.OrientedCmp.eq_swap _ Literal.compareTexts _ _ _
    case iri.iri => exact @Std.OrientedCmp.eq_swap _ compareChars _ _ _
    case blank.blank => exact @Std.OrientedCmp.eq_swap _ compareChars _ _ _
    all_goals rfl
  isLE_trans {a b c} := by
    cases a <;> cases b <;> cases c <;> simp only [compareTexts, compare, Ordering.isLE]
    case literal.literal.literal => exact @Std.TransCmp.isLE_trans _ Literal.compareTexts _ _ _ _
    case iri.iri.iri => exact @Std.TransCmp.isLE_trans _ compareChars _ _ _ _
    case blank.blank.blank => exact @Std.TransCmp.isLE_trans _ compareChars _ _ _ _
    all_goals simp

/-- Plain terms whose texts compare as equal are equal. -/
theorem eq_of_compareTexts {a b : Term} (ha : a.isPlain = true) (hb : b.isPlain = true)
    (h : a.compareTexts b = .eq) : a = b := by
  cases a <;> cases b
  case literal.literal => exact congrArg literal (Literal.eq_of_compareTexts ha hb h)
  case iri.iri => exact congrArg iri (String.toList_inj.mp (eq_of_compareChars h))
  case blank.blank => exact congrArg blank (String.toList_inj.mp (eq_of_compareChars h))
  all_goals cases h

end Term

namespace Triple

variable {a b : Triple}

/-- Comparison of facts as if no literal had a value. -/
def compareTexts (a b : Triple) : Ordering :=
  (a.place.compare b.place).then (a.object.compareTexts b.object)

instance : Std.TransCmp compareTexts :=
  have := transCmp_comap Place.compare place
  have := transCmp_comap Term.compareTexts object
  inferInstanceAs (Std.TransCmp (compareLex
    (fun a b : Triple => a.place.compare b.place)
    (fun a b : Triple => a.object.compareTexts b.object)))

/-- Facts about plain terms are listed by their texts. -/
theorem goesBefore_eq (ha : a.isFactual = true) (hb : b.isFactual = true)
    (hplain : a.object.isPlain = true) : a.goesBefore b = (a.compareTexts b).isLE := by
  rw [goesBefore, compare_eq ha hb, Term.compare_eq_compareTexts hplain]
  rfl

/-- Facts about plain terms whose texts compare as equal are equal. -/
theorem eq_of_compareTexts (ha : a.isFactual = true) (hb : b.isFactual = true)
    (hplain : a.object.isPlain = true) (hplain' : b.object.isPlain = true)
    (h : a.compareTexts b = .eq) : a = b := by
  obtain ⟨hplace, hobject⟩ := Ordering.then_eq_eq.mp h
  obtain ⟨hiri, htext, hpredicate⟩ := Place.mk.inj (Place.eq_of_compare hplace)
  have hobject := Term.eq_of_compareTexts hplain hplain' hobject
  obtain ⟨s, p, o⟩ := a
  obtain ⟨s', p', o'⟩ := b
  obtain rfl : p = p' := hpredicate
  obtain rfl : o = o' := hobject
  -- a place tells IRIs from blank nodes, and it holds their texts
  cases s with
  | literal l => cases ha
  | iri value =>
    cases s' with
    | literal l' => cases hb
    | iri value' => rw [show value = value' from htext]
    | blank label' => cases hiri
  | blank label =>
    cases s' with
    | literal l' => cases hb
    | iri value' => cases hiri
    | blank label' => rw [show label = label' from htext]

/-- Facts that are equal as terms are the same, unless their languages are equal up to case
only. -/
theorem eq_of_same (ha : a.isFactual = true) (hsame : a.same b = true)
    (hlanguage : a.object.language?.map lowercase = b.object.language?.map lowercase →
      a.object.language? = b.object.language?) : a = b := by
  obtain ⟨s, p, o⟩ := a
  obtain ⟨s', p', o'⟩ := b
  rw [same, Bool.and_eq_true, Bool.and_eq_true, decide_eq_true_eq] at hsame
  obtain ⟨⟨hsubject, rfl⟩, hobject⟩ := hsame
  -- a subject that is no literal is equal to itself only
  have hs : s = s' := by
    rcases Term.eq_or_exists_literal_of_same hsubject with heq | ⟨l, -, rfl, -⟩
    · exact heq
    · cases ha
  -- literals may differ in the case of their languages only
  have ho : o = o' := by
    rcases Term.eq_or_exists_literal_of_same hobject with heq | ⟨l, l', rfl, rfl⟩
    · exact heq
    · have hfolded := (Literal.same_iff.mp hobject).2.2
      rw [Literal.eq_of_same hobject (hlanguage hfolded)]
  rw [hs, ho]

end Triple

/-- Plain texts are told apart, if no two of their languages are equal but for case. -/
theorem Distinguished.of_plain {triples : List Triple}
    (hplain : ∀ triple ∈ triples, triple.isFactual = true → triple.object.isPlain = true)
    (hlanguages : ∀ a ∈ triples, ∀ b ∈ triples,
      a.object.language?.map lowercase = b.object.language?.map lowercase →
        a.object.language? = b.object.language?) : Distinguished triples where
  same_eq a ha b hb hfactual _ hsame :=
    Triple.eq_of_same hfactual hsame (hlanguages a ha b hb)
  one_first a ha b hb hfactual hfactual' hne := by
    have hplain₁ := hplain a ha hfactual
    have hplain₂ := hplain b hb hfactual'
    -- different facts never compare as equal
    have hne' : a.compareTexts b ≠ .eq :=
      fun heq => hne (Triple.eq_of_compareTexts hfactual hfactual' hplain₁ hplain₂ heq)
    rw [Triple.goesBefore_eq hfactual hfactual' hplain₁,
      Triple.goesBefore_eq hfactual' hfactual hplain₂,
      @Std.OrientedCmp.eq_swap _ Triple.compareTexts _ b]
    cases hcompare : a.compareTexts b <;> simp_all
  trans a ha b hb c hc hfactual hfactual' hfactual'' hab hbc := by
    rw [Triple.goesBefore_eq hfactual hfactual' (hplain a ha hfactual)] at hab
    rw [Triple.goesBefore_eq hfactual' hfactual'' (hplain b hb hfactual')] at hbc
    rw [Triple.goesBefore_eq hfactual hfactual'' (hplain a ha hfactual)]
    exact Std.TransCmp.isLE_trans hab hbc

/-- With one of the two comments, the order makes no difference. -/
example : Distinguished (taggedTwice.take 2) := .of_plain (by decide) (by decide)

end OntoTypes
