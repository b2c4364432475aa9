import OntoTypes.Proofs.Atomic
import OntoTypes.Proofs.WellFormed

/-!
# The two walks up the hierarchy

Two walks lead up from a class. One collects all that is above it, breadth first, and passes over
what it has seen already. The other one asks whether a builtin data type is above it, depth first,
and keeps no record of where it has been; it would go round in circles for ever if there were any.

Both are given here as they are walked, step by step and with no bound on their length: a walk that
did not end would have no derivation. It is then shown that both of them end, whatever the registry
has been through, and that they end with what `Registry.ancestors` and `Registry.aliasesBuiltin`
say. The first one ends in any graph, since a class is visited once, and so every edge above the
starting point is followed once. The second one ends because no class is above itself.

Main definitions and results:

* `Registry.Walks`, `Registry.Searches` — the two walks, step by step;
* `Registry.walks_ancestors_iff`, `Registry.searches_iff` — what they end with;
* `ascends_runAll` — both of them, after any operations.
-/

namespace OntoTypes

namespace Registry

/-! ## The walks, step by step -/

/-- The walk that collects ancestors. With `seen` behind it and `queue` before it, the walk takes
`rounds` more classes from the queue, and then it has seen `found`. -/
inductive Walks (registry : Registry) :
    List ClassId → List ClassId → Nat → List ClassId → Prop
  /-- Nothing is queued any more. -/
  | done (seen : List ClassId) : Walks registry seen [] 0 seen
  /-- The next class has been seen. -/
  | pass {c : ClassId} {seen queue found : List ClassId} {rounds : Nat} :
    c ∈ seen → Walks registry seen queue rounds found →
      Walks registry seen (c :: queue) (rounds + 1) found
  /-- The next class is seen now, and its parents are queued. -/
  | visit {c : ClassId} {seen queue found : List ClassId} {rounds : Nat} :
    c ∉ seen → Walks registry (c :: seen) (queue ++ registry.parents c) rounds found →
      Walks registry seen (c :: queue) (rounds + 1) found

/-- The search for a builtin data type among some classes and above them. The classes are gone
through in their order, and the search above one of them is over before the next one is looked at;
the first data type that is found ends it all. -/
inductive Searches (registry : Registry) : List ClassId → Bool → Prop
  /-- There are no classes left. -/
  | nothing : Searches registry [] false
  /-- The next class is a data type itself. -/
  | here {c : ClassId} {rest : List ClassId} :
    registry.isBuiltin c = true → Searches registry (c :: rest) true
  /-- There is a data type above the next class. -/
  | above {c : ClassId} {rest : List ClassId} :
    registry.isBuiltin c = false → Searches registry (registry.parents c) true →
      Searches registry (c :: rest) true
  /-- There is none, so the search goes on. -/
  | later {c : ClassId} {rest : List ClassId} {answer : Bool} :
    registry.isBuiltin c = false → Searches registry (registry.parents c) false →
      Searches registry rest answer → Searches registry (c :: rest) answer

/-- The number of parent edges that start at some classes. -/
def edgesFrom (registry : Registry) (classes : List ClassId) : Nat :=
  (classes.map fun c => (registry.parents c).length).sum

/-- What the two walks up from a class come to. -/
structure Ascends (registry : Registry) (c : ClassId) : Prop where
  /-- The walk that collects ancestors ends with them, in one way only. It follows every edge that
  starts at the class or above it once. -/
  walks : ∀ rounds found, registry.Walks [] (registry.parents c) rounds found ↔
    rounds = (registry.parents c).length + registry.edgesFrom (registry.ancestors c) ∧
      found = registry.ancestors c
  /-- No ancestor is listed twice. -/
  nodup : (registry.ancestors c).Nodup
  /-- The ancestors are the classes that are reached by one or more parent edges. -/
  ancestors : ∀ a, a ∈ registry.ancestors c ↔ registry.HasAncestor c a
  /-- The search for a data type ends with an answer, and with one only. -/
  searches : ∀ answer, registry.Searches (registry.parents c) answer ↔
    answer = registry.aliasesBuiltin c
  /-- No more classes are being searched above at a time than there are. -/
  depth : ∀ chain, List.IsChain registry.HasParent (c :: chain) →
    chain.length ≤ registry.classes.size
  /-- The answer is whether a data type is among the ancestors. -/
  aliases : registry.aliasesBuiltin c = true ↔
    ∃ b ∈ registry.ancestors c, registry.isBuiltin b = true
  /-- A leaf has no children, and no data type is among its ancestors. -/
  leaf : registry.isLeaf c = true ↔
    registry.children c = [] ∧ ∀ b ∈ registry.ancestors c, registry.isBuiltin b = false

variable {registry : Registry}

/-! ## Collecting ancestors -/

/-- The walk has one way to go. -/
theorem Walks.unique {seen queue found found' : List ClassId} {rounds rounds' : Nat}
    (h : registry.Walks seen queue rounds found) (h' : registry.Walks seen queue rounds' found') :
    rounds = rounds' ∧ found = found' := by
  -- which rule applies is decided by whether the next class has been seen
  induction h generalizing rounds' with
  | done seen =>
    cases h'
    exact ⟨rfl, rfl⟩
  | pass hseen _ ih =>
    cases h' with
    | pass _ h' =>
      obtain ⟨rfl, rfl⟩ := ih h'
      exact ⟨rfl, rfl⟩
    | visit hnew _ => exact absurd hseen hnew
  | visit hnew _ ih =>
    cases h' with
    | pass hseen _ => exact absurd hseen hnew
    | visit _ h' =>
      obtain ⟨rfl, rfl⟩ := ih h'
      exact ⟨rfl, rfl⟩

/-- The walk ends, and it queues the parents of each class that it visits once. -/
theorem exists_walks_climb (hr : registry.ParentsInRange) (seen queue : List ClassId)
    (hqueue : ∀ c ∈ queue, c < registry.classes.size) :
    ∃ visited, registry.climb seen queue = visited ++ seen ∧
      registry.Walks seen queue (queue.length + registry.edgesFrom visited) (visited ++ seen) := by
  -- the derivation follows the recursion of `climb`
  fun_induction climb registry seen queue with
  | case1 seen => exact ⟨[], rfl, .done seen⟩
  | case2 seen c queue h ih =>
    -- what is queued is a class of the registry, so it is passed over because it has been seen
    obtain ⟨hc, hrest⟩ := List.forall_mem_cons.mp hqueue
    have hseen : c ∈ seen := h.resolve_right (Nat.not_le.mpr hc)
    obtain ⟨visited, hclimb, hwalks⟩ := ih hrest
    refine ⟨visited, hclimb, ?_⟩
    have hrounds : (c :: queue).length + registry.edgesFrom visited =
        queue.length + registry.edgesFrom visited + 1 := by
      rw [List.length_cons]
      omega
    rw [hrounds]
    exact .pass hseen hwalks
  | case3 seen c queue h ih =>
    obtain ⟨-, hrest⟩ := List.forall_mem_cons.mp hqueue
    -- a new class is visited, and its parents are classes of the registry as well
    have hnext : ∀ d ∈ queue ++ registry.parents c, d < registry.classes.size := by
      intro d hd
      rcases List.mem_append.mp hd with hd | hd
      · exact hrest d hd
      · exact hr c d hd
    obtain ⟨visited, hclimb, hwalks⟩ := ih hnext
    -- the class comes before all that is visited after it
    have hlist : visited ++ c :: seen = (visited ++ [c]) ++ seen := by
      rw [List.append_assoc]
      rfl
    have hrounds : (c :: queue).length + registry.edgesFrom (visited ++ [c]) =
        (queue ++ registry.parents c).length + registry.edgesFrom visited + 1 := by
      simp only [edgesFrom, List.length_cons, List.length_append, List.map_append,
        List.sum_append, List.map_cons, List.map_nil, List.sum_cons, List.sum_nil]
      omega
    refine ⟨visited ++ [c], hclimb.trans hlist, ?_⟩
    rw [hrounds, ← hlist]
    exact .visit (fun hseen => h (Or.inl hseen)) hwalks

/-- The walk sees nothing twice. -/
theorem nodup_climb {seen : List ClassId} (queue : List ClassId) (hseen : seen.Nodup) :
    (registry.climb seen queue).Nodup := by
  fun_induction climb registry seen queue with
  | case1 seen => exact hseen
  | case2 seen c queue h ih => exact ih hseen
  | case3 seen c queue h ih =>
    exact ih (List.nodup_cons.mpr ⟨fun hmem => h (Or.inl hmem), hseen⟩)

/-- **The walk that collects ancestors ends with them**, after as many rounds as there are parent
edges at the class and above it. -/
theorem walks_ancestors_iff (hr : registry.ParentsInRange) {c : ClassId} {rounds : Nat}
    {found : List ClassId} :
    registry.Walks [] (registry.parents c) rounds found ↔
      rounds = (registry.parents c).length + registry.edgesFrom (registry.ancestors c) ∧
        found = registry.ancestors c := by
  obtain ⟨visited, hclimb, hwalks⟩ :=
    exists_walks_climb hr [] (registry.parents c) fun p hp => hr c p hp
  rw [List.append_nil] at hclimb hwalks
  -- what is climbed to from the parents is what is listed as the ancestors
  have hancestors : registry.ancestors c = visited := hclimb
  rw [hancestors]
  constructor
  · exact fun h => h.unique hwalks
  · rintro ⟨rfl, rfl⟩
    exact hwalks

/-! ## Searching for a data type -/

/-- A search that ends has found out whether there is a data type among the classes or above
them. -/
theorem Searches.eq_true_iff {classes : List ClassId} {answer : Bool}
    (h : registry.Searches classes answer) :
    answer = true ↔ ∃ c ∈ classes, ∃ b,
      Relation.ReflTransGen registry.HasParent c b ∧ registry.isBuiltin b = true := by
  induction h with
  | nothing => simp
  | @here c rest hb =>
    -- the search is over with the class itself
    exact iff_of_true rfl ⟨c, List.mem_cons_self .., c, .refl, hb⟩
  | @above c rest hb _ ih =>
    -- the search is over with what is above the class
    have hfound := exists_reflTransGen_hasParent_iff.mpr (Or.inr (ih.mp rfl))
    exact iff_of_true rfl ⟨c, List.mem_cons_self .., hfound⟩
  | @later c rest answer hb _ _ ih ihrest =>
    -- the next class is no data type and has none above it, so only the others count
    have hnone : ¬ ∃ b, Relation.ReflTransGen registry.HasParent c b ∧
        registry.isBuiltin b = true := by
      intro hfound
      rcases exists_reflTransGen_hasParent_iff.mp hfound with hc | habove
      · rw [hb] at hc
        cases hc
      · cases ih.mpr habove
    rw [ihrest, List.exists_mem_cons_iff, or_iff_right hnone]

/-- Some classes are searched to the end if the search above each of them comes to its end. -/
theorem exists_searches_of_forall {classes : List ClassId}
    (h : ∀ c ∈ classes, ∃ answer, registry.Searches (registry.parents c) answer) :
    ∃ answer, registry.Searches classes answer := by
  induction classes with
  | nil => exact ⟨false, .nothing⟩
  | cons c rest ih =>
    obtain ⟨⟨found, habove⟩, hrest⟩ := List.forall_mem_cons.mp h
    -- which rule applies is decided by the class, and then by what is above it
    cases hb : registry.isBuiltin c with
    | true => exact ⟨true, .here hb⟩
    | false =>
      cases found with
      | true => exact ⟨true, .above hb habove⟩
      | false =>
        obtain ⟨answer, hlater⟩ := ih hrest
        exact ⟨answer, .later hb habove hlater⟩

/-- **The search for a data type ends with whether one is above the class.** That it ends is an
induction from the top of the hierarchy down, and needs that no class is above itself; that it has
no other answer is needed for nothing but the way back. -/
theorem searches_iff (hr : registry.ParentsInRange) (ha : registry.Acyclic) {c : ClassId}
    {answer : Bool} :
    registry.Searches (registry.parents c) answer ↔ answer = registry.aliasesBuiltin c := by
  -- a search that ends has the right answer, in any graph
  have hright : ∀ {found : Bool}, registry.Searches (registry.parents c) found →
      found = registry.aliasesBuiltin c := by
    intro found h
    -- above a class there is what its parents are or have above them
    have habove : (∃ p ∈ registry.parents c, ∃ b,
        Relation.ReflTransGen registry.HasParent p b ∧ registry.isBuiltin b = true) ↔
          ∃ b, registry.HasAncestor c b ∧ registry.isBuiltin b = true := by
      constructor
      · rintro ⟨p, hp, b, hpb, hb⟩
        exact ⟨b, Relation.TransGen.head'_iff.mpr ⟨p, hp, hpb⟩, hb⟩
      · rintro ⟨b, hcb, hb⟩
        obtain ⟨p, hp, hpb⟩ := Relation.TransGen.head'_iff.mp hcb
        exact ⟨p, hp, b, hpb, hb⟩
    rw [Bool.eq_iff_iff, h.eq_true_iff, habove, aliasesBuiltin_iff hr ha]
  -- it ends, as the searches above the parents do
  obtain ⟨found, hends⟩ : ∃ found, registry.Searches (registry.parents c) found :=
    induction_up hr ha (fun _ hparents => exists_searches_of_forall hparents) c
  constructor
  · exact hright
  · rintro rfl
    exact hright hends ▸ hends

/-! ## Both walks -/

/-- In a sound registry both walks end. Soundness is what every operation keeps: parents are classes
of the registry, and no class is above itself. -/
theorem Sound.ascends (h : registry.Sound) (c : ClassId) : registry.Ascends c := by
  have hr := h.parentsInRange
  -- both walks lead to what is above the class
  have haliases : registry.aliasesBuiltin c = true ↔
      ∃ b ∈ registry.ancestors c, registry.isBuiltin b = true := by
    simp only [aliasesBuiltin_iff hr h.acyclic, mem_ancestors hr]
  refine
    { walks := fun _ _ => walks_ancestors_iff hr
      nodup := nodup_climb _ List.nodup_nil
      ancestors := fun _ => mem_ancestors hr
      searches := fun _ => searches_iff hr h.acyclic
      depth := fun _ => length_le_of_isChain hr h.acyclic
      aliases := haliases
      leaf := ?_ }
  rw [isLeaf_eq, Bool.and_eq_true, List.isEmpty_iff, Bool.not_eq_true', ← Bool.not_eq_true,
    haliases]
  simp only [not_exists, not_and, Bool.not_eq_true]

end Registry

/-- **The two walks up the hierarchy agree, and they end.** Whatever has been asked of an empty
registry, and whatever has been refused: from every class, registered or not, the walk that collects
ancestors ends, and it ends with the classes that are reached by one or more parent edges; the
search for a builtin data type ends too, and it finds one exactly if there is one among the
ancestors. So a leaf is a class without children and without a data type above it. -/
theorem ascends_runAll (steps : List (Settings × Operation)) (c : ClassId) :
    (runAll {} steps).registry.Ascends c := by
  have hsound : (runAll {} steps).registry.Sound :=
    Registry.sound_empty.reaches (reaches_runAll (w := {}) Registry.sound_empty steps)
  exact hsound.ascends c

/-- A class below two others that are both below a data type. None of them is registered. -/
def linkBelowText : List (Settings × Operation) := [
  ({}, .create (.iri "http://schema.org/Text") (some ⟨"Text", "string", "Data type: Text."⟩)),
  ({}, .create (.iri "http://schema.org/URL") none),
  ({}, .create (.iri "http://schema.org/Path") none),
  ({}, .create (.iri "http://schema.org/Link") none),
  ({}, .link (.held 1) (.held 0)),
  ({}, .link (.held 2) (.held 0)),
  ({}, .link (.held 3) (.held 1)),
  ({}, .link (.held 3) (.held 2))]

/-- The four edges at the class and above it are followed once each, though two of them lead to the
same data type; and the class is no leaf, though it has no children. -/
theorem ascends_runAll_linkBelowText :
    let registry := (runAll {} linkBelowText).registry
    registry.Walks [] (registry.parents 3) 4 [0, 2, 1] ∧
      registry.Searches (registry.parents 3) true ∧
      registry.children 3 = [] ∧ registry.isLeaf 3 = false := by
  have hlink := ascends_runAll linkBelowText 3
  have hancestors : (runAll {} linkBelowText).registry.ancestors 3 = [0, 2, 1] := by cbv
  have hrounds : ((runAll {} linkBelowText).registry.parents 3).length +
      (runAll {} linkBelowText).registry.edgesFrom [0, 2, 1] = 4 := by cbv
  have haliases : (runAll {} linkBelowText).registry.aliasesBuiltin 3 = true := by cbv
  refine ⟨(hlink.walks ..).mpr ?_, (hlink.searches true).mpr haliases.symm, by cbv, by cbv⟩
  rw [hancestors, hrounds]
  exact ⟨rfl, rfl⟩

end OntoTypes
