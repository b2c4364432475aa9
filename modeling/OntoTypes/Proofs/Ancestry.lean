import Mathlib.Data.Finset.Card
import Mathlib.Data.List.Chain
import Mathlib.Logic.Relation
import OntoTypes.Hierarchy.Change

/-!
# Ancestors and cycles

What the two walks up the hierarchy find, said in terms of the parent relation alone.

The walk that collects ancestors keeps one invariant: whatever has been seen has its parents among
what has been seen or is still queued. When the queue is empty the seen classes are therefore closed
under parents, which is what makes the walk complete. The search for a builtin data type stops after
as many steps as there are classes; in an acyclic registry that is enough, because a chain of
parents never meets a class twice.

Main results:

* `mem_ancestors` — the ancestors of a class are the classes above it;
* `aliasesBuiltin_iff` — a class aliases a builtin data type exactly if one is above it;
* `closesCycle_iff` — what the check of an edge finds out;
* `induction_up`, `induction_down` — induction along the edges of an acyclic registry.
-/

namespace OntoTypes.Registry

/-- `p` is one of the parents of `c`. -/
def HasParent (registry : Registry) (c p : ClassId) : Prop := p ∈ registry.parents c

/-- `p` is reached from `c` by one or more parent edges. -/
def HasAncestor (registry : Registry) : ClassId → ClassId → Prop :=
  Relation.TransGen registry.HasParent

/-- No class is above itself. -/
def Acyclic (registry : Registry) : Prop := ∀ c, ¬ registry.HasAncestor c c

/-- All parents are classes of the registry. -/
def ParentsInRange (registry : Registry) : Prop :=
  ∀ c p, registry.HasParent c p → p < registry.classes.size

variable {registry : Registry}

/-- Only the classes of a registry have parents. -/
theorem HasParent.lt_size {c p : ClassId} (h : registry.HasParent c p) :
    c < registry.classes.size := by
  unfold HasParent parents node? at h
  by_contra hc
  rw [Array.getElem?_eq_none (Nat.le_of_not_lt hc)] at h
  simp at h

/-- Only the classes of a registry have ancestors. -/
theorem HasAncestor.lt_size {c a : ClassId} (h : registry.HasAncestor c a) :
    c < registry.classes.size := by
  obtain ⟨p, hp, -⟩ := Relation.TransGen.head'_iff.mp h
  exact hp.lt_size

/-- Ancestors are classes of the registry, if all parents are. The last edge of a path says so. -/
theorem HasAncestor.ancestor_lt_size (hr : registry.ParentsInRange) {c a : ClassId}
    (h : registry.HasAncestor c a) : a < registry.classes.size := by
  obtain ⟨b, -, hb⟩ := Relation.TransGen.tail'_iff.mp h
  exact hr b a hb

/-! ## The walk that collects ancestors -/

/-- The walk finds nothing but what it has seen and what is above its queue. -/
theorem climb_sound (seen queue : List ClassId) :
    ∀ x ∈ registry.climb seen queue,
      x ∈ seen ∨ ∃ q ∈ queue, Relation.ReflTransGen registry.HasParent q x := by
  fun_induction climb registry seen queue with
  | case1 seen => exact fun x hx => Or.inl hx
  | case2 seen c queue h ih =>
    -- the class is passed over
    intro x hx
    rcases ih x hx with hs | ⟨q, hq, hqx⟩
    · exact Or.inl hs
    · exact Or.inr ⟨q, List.mem_cons_of_mem _ hq, hqx⟩
  | case3 seen c queue h ih =>
    -- the class is seen and its parents are queued
    intro x hx
    rcases ih x hx with hs | ⟨q, hq, hqx⟩
    · rcases List.mem_cons.mp hs with rfl | hs
      · exact Or.inr ⟨x, List.mem_cons_self .., .refl⟩
      · exact Or.inl hs
    · rcases List.mem_append.mp hq with hq | hq
      · exact Or.inr ⟨q, List.mem_cons_of_mem _ hq, hqx⟩
      · exact Or.inr ⟨c, List.mem_cons_self .., .head hq hqx⟩

/-- The walk forgets nothing that it has seen or that is queued. -/
theorem mem_climb (seen queue : List ClassId) :
    ∀ x, x ∈ seen ∨ x ∈ queue ∧ x < registry.classes.size → x ∈ registry.climb seen queue := by
  fun_induction climb registry seen queue with
  | case1 seen => simp
  | case2 seen c queue h ih =>
    intro x hx
    apply ih x
    rcases hx with hs | ⟨hq, hlt⟩
    · exact Or.inl hs
    · rcases List.mem_cons.mp hq with rfl | hq
      · -- it is a class of the registry, so it is passed over because it has been seen
        exact Or.inl (h.resolve_right (Nat.not_le.mpr hlt))
      · exact Or.inr ⟨hq, hlt⟩
  | case3 seen c queue h ih =>
    intro x hx
    apply ih x
    rcases hx with hs | ⟨hq, hlt⟩
    · exact Or.inl (List.mem_cons_of_mem _ hs)
    · rcases List.mem_cons.mp hq with rfl | hq
      · exact Or.inl (List.mem_cons_self ..)
      · exact Or.inr ⟨List.mem_append_left _ hq, hlt⟩

/-- What the walk has seen at its end is closed under parents, if every parent of what it had seen
at its beginning was seen or queued. -/
theorem climb_closed (hr : registry.ParentsInRange) (seen queue : List ClassId)
    (hseen : ∀ s ∈ seen, ∀ p ∈ registry.parents s, p ∈ seen ∨ p ∈ queue) :
    ∀ s ∈ registry.climb seen queue, ∀ p ∈ registry.parents s, p ∈ registry.climb seen queue := by
  fun_induction climb registry seen queue with
  | case1 seen => simpa using hseen
  | case2 seen c queue h ih =>
    -- the class leaves the queue; if something seen waits for it as a parent, it has to be seen
    apply ih
    intro s hs p hp
    rcases hseen s hs p hp with hps | hpq
    · exact Or.inl hps
    · rcases List.mem_cons.mp hpq with rfl | hpq
      · -- a parent is a class of the registry, so it is passed over only if it has been seen
        have hlt := hr s p hp
        exact Or.inl (h.resolve_right (Nat.not_le.mpr hlt))
      · exact Or.inr hpq
  | case3 seen c queue h ih =>
    apply ih
    intro s hs p hp
    rcases List.mem_cons.mp hs with rfl | hs
    · -- the class itself: its parents have just been queued
      exact Or.inr (List.mem_append_right _ hp)
    · rcases hseen s hs p hp with hps | hpq
      · exact Or.inl (List.mem_cons_of_mem _ hps)
      · rcases List.mem_cons.mp hpq with rfl | hpq
        · exact Or.inl (List.mem_cons_self ..)
        · exact Or.inr (List.mem_append_left _ hpq)

/-- The ancestors of a class are the classes above it. From here on, they are spoken of in terms of
parent edges, and the walk is not looked into again to tell what it finds. -/
theorem mem_ancestors (hr : registry.ParentsInRange) {c a : ClassId} :
    a ∈ registry.ancestors c ↔ registry.HasAncestor c a := by
  constructor
  · intro ha
    -- sound: nothing has been seen at the beginning, so whatever is found is above a parent
    rcases climb_sound [] (registry.parents c) a ha with hs | ⟨p, hp, hpa⟩
    · simp at hs
    · exact Relation.TransGen.head'_iff.mpr ⟨p, hp, hpa⟩
  · intro ha
    -- complete: what has been seen at the end is closed under parents
    have hclosed := climb_closed hr [] (registry.parents c) (by simp)
    -- from the first parent on, every further edge stays among what has been seen
    induction ha with
    | single hp => exact mem_climb [] _ _ (Or.inr ⟨hp, hr _ _ hp⟩)
    | tail _ hp ih => exact hclosed _ ih _ hp

/-- A class and its ancestors are what is reached by any number of parent edges. -/
theorem reflTransGen_hasParent_iff (hr : registry.ParentsInRange) {c d : ClassId} :
    Relation.ReflTransGen registry.HasParent c d ↔ d = c ∨ d ∈ registry.ancestors c := by
  rw [mem_ancestors hr, Relation.reflTransGen_iff_eq_or_transGen]
  rfl

/-- What is found at a class or above it is found at the class, or at a parent or above that. -/
theorem exists_reflTransGen_hasParent_iff {c : ClassId} {P : ClassId → Prop} :
    (∃ d, Relation.ReflTransGen registry.HasParent c d ∧ P d) ↔
      P c ∨ ∃ p ∈ registry.parents c, ∃ d, Relation.ReflTransGen registry.HasParent p d ∧ P d := by
  constructor
  · rintro ⟨d, hd, h⟩
    rcases Relation.ReflTransGen.cases_head hd with rfl | ⟨p, hp, hpd⟩
    · exact Or.inl h
    · exact Or.inr ⟨p, hp, d, hpd, h⟩
  · rintro (h | ⟨p, hp, d, hpd, h⟩)
    · exact ⟨c, .refl, h⟩
    · exact ⟨d, .head hp hpd, h⟩

/-- The check of an edge finds out whether the parent is the child or below it. -/
theorem closesCycle_iff (hr : registry.ParentsInRange) {child parent : ClassId} :
    registry.closesCycle child parent = true ↔
      Relation.ReflTransGen registry.HasParent parent child := by
  unfold closesCycle
  rw [Bool.or_eq_true, decide_eq_true_eq, List.contains_iff_mem, reflTransGen_hasParent_iff hr,
    eq_comm]

/-! ## Induction along the edges -/

/-- What comes before a class, as a finite set. -/
private noncomputable def before (R : ClassId → ClassId → Prop) (n : Nat) (c : ClassId) :
    Finset ClassId :=
  open Classical in (Finset.range n).filter (Relation.TransGen R · c)

/-- A relation between finitely many classes that never leads back is well-founded. The measure is
the number of classes that come before a class: it grows along the relation, because what comes
before `a` comes before `b`, and `a` does so in addition. -/
theorem wellFounded_of_irrefl {R : ClassId → ClassId → Prop} {n : Nat}
    (hlt : ∀ a b, R a b → a < n) (ha : ∀ c, ¬ Relation.TransGen R c c) : WellFounded R := by
  -- less comes before a class than before one that it comes before itself
  refine Subrelation.wf ?_ (measure fun c => (before R n c).card).wf
  intro a b hab
  refine Finset.card_lt_card ((Finset.ssubset_iff_of_subset ?_).mpr ⟨a, ?_, ?_⟩)
  · -- what comes before `a` comes before `b`
    intro x hx
    simp only [before, Finset.mem_filter] at hx ⊢
    exact ⟨hx.1, hx.2.tail hab⟩
  · -- `a` itself comes before `b`
    simp only [before, Finset.mem_filter, Finset.mem_range]
    exact ⟨hlt a b hab, .single hab⟩
  · -- and not before itself
    simp only [before, Finset.mem_filter, not_and]
    exact fun _ => ha a

/-- What holds of a class as soon as it holds of its parents holds of all classes. The roots of the
hierarchy have no parents, so nothing has to be known to begin with. -/
theorem induction_up (hr : registry.ParentsInRange) (ha : registry.Acyclic)
    {P : ClassId → Prop} (step : ∀ c, (∀ p ∈ registry.parents c, P p) → P c) (c : ClassId) :
    P c := by
  have hwf : WellFounded (Function.swap registry.HasParent) := by
    refine wellFounded_of_irrefl (fun p c hp => hr c p hp) fun c hc => ?_
    exact ha c (Relation.transGen_swap.mp hc)
  exact hwf.induction c step

/-- What holds of a class as soon as it holds of all classes it is a parent of holds of all
classes. -/
theorem induction_down (ha : registry.Acyclic) {P : ClassId → Prop}
    (step : ∀ p, (∀ c, registry.HasParent c p → P c) → P p) (p : ClassId) : P p := by
  have hwf : WellFounded registry.HasParent :=
    wellFounded_of_irrefl (fun _ _ hc => hc.lt_size) ha
  exact hwf.induction p step

/-! ## Builtin ancestors -/

/-- A builtin data type found by the search is above the class. -/
theorem exists_builtin_of_reachesBuiltin {depth : Nat} {c : ClassId}
    (h : registry.reachesBuiltin depth c = true) :
    ∃ b, registry.HasAncestor c b ∧ registry.isBuiltin b = true := by
  induction depth generalizing c with
  | zero => simp [reachesBuiltin] at h
  | succ depth ih =>
    rw [reachesBuiltin, List.any_eq_true] at h
    obtain ⟨p, hp, hb⟩ := h
    rcases Bool.or_eq_true_iff.mp hb with hb | hb
    · exact ⟨p, .single hp, hb⟩
    · obtain ⟨b, hpb, hb⟩ := ih hb
      exact ⟨b, .head hp hpb, hb⟩

/-- The search follows any chain of parents that is no longer than its depth. -/
theorem reachesBuiltin_of_isChain {c : ClassId} {chain : List ClassId} (hne : chain ≠ [])
    (hchain : List.IsChain registry.HasParent (c :: chain))
    (hb : registry.isBuiltin (chain.getLast hne) = true) :
    ∀ depth, chain.length ≤ depth → registry.reachesBuiltin depth c = true := by
  induction chain generalizing c with
  | nil => exact absurd rfl hne
  | cons p chain ih =>
    intro depth hd
    -- a chain that is not empty needs a depth of at least one
    obtain ⟨hp, hrest⟩ := List.isChain_cons_cons.mp hchain
    cases depth with
    | zero => simp at hd
    | succ depth =>
      rw [reachesBuiltin, List.any_eq_true]
      -- the first class of the chain is the end of it, or the rest is a chain from there
      refine ⟨p, hp, ?_⟩
      cases chain with
      | nil => simpa using Or.inl hb
      | cons q chain =>
        rw [List.getLast_cons_cons] at hb
        rw [ih (by simp) hrest hb depth (by simpa using hd), Bool.or_true]

/-- A chain of parents is no longer than there are classes, since it cannot meet one of them
twice. -/
theorem length_le_of_isChain (hr : registry.ParentsInRange) (ha : registry.Acyclic) {c : ClassId}
    {chain : List ClassId} (hchain : List.IsChain registry.HasParent (c :: chain)) :
    chain.length ≤ registry.classes.size := by
  -- every class of the chain is above all those before it
  have hpair : (c :: chain).Pairwise registry.HasAncestor :=
    (hchain.imp fun _ _ h => Relation.TransGen.single h).pairwise
  have hnodup : chain.Nodup := by
    refine (List.pairwise_cons.mp hpair).2.imp ?_
    rintro a b hab rfl
    exact ha a hab
  -- so the chain is a list of different numbers below the number of classes
  have hsub : chain ⊆ List.range registry.classes.size := by
    intro x hx
    rw [List.mem_range]
    exact ((List.pairwise_cons.mp hpair).1 x hx).ancestor_lt_size hr
  simpa using hnodup.length_le_of_subset hsub

/-- A class aliases a builtin data type exactly if one is above it. The depth of the search is
bounded by the number of classes; that this is deep enough needs the registry to be acyclic. -/
theorem aliasesBuiltin_iff (hr : registry.ParentsInRange) (ha : registry.Acyclic) {c : ClassId} :
    registry.aliasesBuiltin c = true ↔
      ∃ b, registry.HasAncestor c b ∧ registry.isBuiltin b = true := by
  refine ⟨exists_builtin_of_reachesBuiltin, ?_⟩
  rintro ⟨b, hcb, hb⟩
  -- the path up to the data type, written out as a chain, is not too long for the search
  obtain ⟨p, hp, hpb⟩ := Relation.TransGen.head'_iff.mp hcb
  obtain ⟨chain, hchain, hlast⟩ := List.exists_isChain_cons_of_relationReflTransGen hpb
  have hchain' : List.IsChain registry.HasParent (c :: p :: chain) := .cons_cons hp hchain
  exact reachesBuiltin_of_isChain (by simp) hchain' (by rw [hlast, hb]) _
    (length_le_of_isChain hr ha hchain')

end OntoTypes.Registry
