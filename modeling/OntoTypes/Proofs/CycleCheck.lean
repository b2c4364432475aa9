import OntoTypes.Proofs.ClassGraph
import OntoTypes.Proofs.Displaced

/-!
# The check of subclass edges

A subclass edge is refused exactly if it would close a cycle, whatever the registry has been through
before. Refusals are therefore no matter of order: edges between classes that have just been
declared all go through if the graph that they make together has no cycle, and if it has one, some
edge of it is refused in whatever order they come. Edges that come twice, and several ways from one
class up to another, do no harm.

Main definitions and results:

* `Registry.linkAll` — edges made one after another;
* `Registry.Sound.link_eq_error_iff` — when a single edge is refused;
* `Registry.Sound.exists_linkAll_iff` — when none of several edges is refused;
* `link_refused_iff` — both of them for what can be reached, and for new classes.
-/

namespace OntoTypes

/-- No chain of edges leads from a class back to it. -/
def NoCycle (edges : List (ClassId × ClassId)) : Prop :=
  ∀ c, ¬ Relation.TransGen (fun child parent => (child, parent) ∈ edges) c c

/-- A path along two kinds of edges that have no class in common is a path along one of them. -/
theorem transGen_or_transGen {α : Type} {R S : α → α → Prop} {inner outer : α → Prop}
    (hR : ∀ a b, R a b → inner a ∧ inner b) (hS : ∀ a b, S a b → outer a ∧ outer b)
    (hapart : ∀ a, inner a → ¬ outer a) {a b : α}
    (h : Relation.TransGen (fun a b => R a b ∨ S a b) a b) :
    Relation.TransGen R a b ∨ Relation.TransGen S a b := by
  induction h with
  | single hedge => exact hedge.imp .single .single
  | tail _ hedge ih =>
    -- the next edge is of the kind of the last one, for they have a class in common
    rcases ih, hedge with ⟨hpath | hpath, hedge | hedge⟩
    · exact .inl (hpath.tail hedge)
    · obtain ⟨_, -, hlast⟩ := Relation.TransGen.tail'_iff.mp hpath
      exact absurd (hS _ _ hedge).1 (hapart _ (hR _ _ hlast).2)
    · obtain ⟨_, -, hlast⟩ := Relation.TransGen.tail'_iff.mp hpath
      exact absurd (hS _ _ hlast).2 (hapart _ (hR _ _ hedge).1)
    · exact .inr (hpath.tail hedge)

namespace Registry

/-- The registry after some edges, each from a child to a parent; the first refusal ends them. -/
def linkAll (registry : Registry) (edges : List (ClassId × ClassId)) : Except Error Registry :=
  edges.foldlM (fun registry (child, parent) => registry.link child parent) registry

/-- The registry with classes declared for some subjects, one after another. -/
def declareAll (registry : Registry) (subjects : List Term) : Except Error Registry :=
  subjects.foldlM (fun registry subject => registry.declare { subject := subject }) registry

variable {registry : Registry}

/-! ## A single edge -/

/-- **An edge is refused for a cycle exactly if its ends are the same class or its parent is below
its child already.** -/
theorem Sound.link_eq_error_iff (h : registry.Sound) (child parent : ClassId) :
    registry.link child parent =
        .error (.inheritanceCycle (registry.subjectText child) (registry.subjectText parent)) ↔
      child = parent ∨ registry.HasAncestor parent child := by
  -- the walk from the parent up finds the child exactly if there is a path
  have hcheck : registry.closesCycle child parent = true ↔
      child = parent ∨ registry.HasAncestor parent child := by
    rw [closesCycle_iff h.parentsInRange, Relation.reflTransGen_iff_eq_or_transGen]
    rfl
  rw [← hcheck, link]
  cases registry.closesCycle child parent with
  | true => simp
  | false =>
    -- what is left are a frozen class at either end, and an edge that is made
    cases registry.isFrozenClass child <;> cases registry.isFrozenClass parent <;> simp

/-- Any other edge is made, unless something is frozen. -/
theorem Sound.link_eq_ok (h : registry.Sound) (hf : registry.isFrozen = false)
    {child parent : ClassId} (hfree : ¬ (child = parent ∨ registry.HasAncestor parent child)) :
    registry.link child parent = .ok (registry.addEdge child parent) := by
  have hcheck : registry.closesCycle child parent = false := by
    rw [← Bool.not_eq_true, closesCycle_iff h.parentsInRange,
      Relation.reflTransGen_iff_eq_or_transGen]
    exact hfree
  simp [link, hcheck, hf]

/-! ## Several edges -/

/-- Making edges is applying edits, each of which is an edge. -/
theorem linkAll_eq_applyAll (registry : Registry) (edges : List (ClassId × ClassId)) :
    registry.linkAll edges =
      Edit.applyAll registry (edges.map fun (child, parent) => .link child parent) := by
  rw [linkAll, Edit.applyAll, List.foldlM_map]
  rfl

/-- **Edges are all made exactly if there is no cycle in the end**, whatever their order. -/
theorem Sound.exists_linkAll_iff (h : registry.Sound) (hf : registry.isFrozen = false)
    {edges : List (ClassId × ClassId)}
    (hedges : ∀ edge ∈ edges, edge.1 < registry.classes.size ∧ edge.2 < registry.classes.size) :
    (∃ linked, registry.linkAll edges = .ok linked) ↔
      ∀ c, ¬ Relation.TransGen (fun child parent =>
        registry.HasParent child parent ∨ (child, parent) ∈ edges) c c := by
  let edits : List Edit := edges.map fun (child, parent) => .link child parent
  -- the edits are edges between classes that are there
  have hrange : ∀ edit ∈ edits, edit.InRange registry.classes.size := by
    intro edit hedit
    obtain ⟨edge, hedge, rfl⟩ := List.mem_map.mp hedit
    exact hedges edge hedge
  -- the graph in the end has the edges from before and those that are made
  have hsame : (Edit.performAll registry edits).HasParent =
      fun child parent => registry.HasParent child parent ∨ (child, parent) ∈ edges := by
    funext child parent
    simp [Edit.hasParent_performAll hrange, edits]
  have hacyclic : (Edit.performAll registry edits).Acyclic ↔
      ∀ c, ¬ Relation.TransGen (fun child parent =>
        registry.HasParent child parent ∨ (child, parent) ∈ edges) c c := by
    rw [Acyclic, HasAncestor, hsame]
  have happly := fun linked =>
    @Edit.applyAll_eq_ok_iff registry linked hf h.parentsInRange h.acyclic _ hrange
  -- only the graph in the end counts, since a cycle on the way would still be there
  rw [← hacyclic, linkAll_eq_applyAll]
  constructor
  · rintro ⟨linked, hlinked⟩
    exact ((happly linked).mp hlinked).1
  · exact fun hnone => ⟨_, (happly _).mpr ⟨hnone, rfl⟩⟩

/-! ## New classes -/

/-- New classes freeze nothing. -/
theorem isFrozen_registerAll (registry : Registry) (nodes : List ClassNode) :
    (registry.registerAll nodes).isFrozen = registry.isFrozen := by
  induction nodes generalizing registry with
  | nil => rfl
  | cons node nodes ih => exact ih (registry.register node)

/-- As long as nothing is frozen, declaring classes does not fail, and registers them. -/
theorem declareAll_eq_ok (hf : registry.isFrozen = false) (subjects : List Term) :
    registry.declareAll subjects =
      .ok (registry.registerAll (subjects.map fun subject => { subject := subject })) := by
  rw [← foldlM_declare hf, declareAll, List.foldlM_map]

/-- Classes come into being without edges, and leave the others alone. -/
theorem hasParent_register_iff {node : ClassNode} (hnode : node.parents = []) {c p : ClassId} :
    (registry.register node).HasParent c p ↔ registry.HasParent c p := by
  unfold HasParent parents
  rw [node?_register]
  split
  · rename_i hc
    have hnone : registry.node? registry.classes.size = none := Array.getElem?_size
    simp [hc, hnone, hnode]
  · rfl

/-- Classes that come without parents leave the edges as they are. -/
theorem hasParent_registerAll_iff {nodes : List ClassNode}
    (hnodes : ∀ node ∈ nodes, node.parents = []) {c p : ClassId} :
    (registry.registerAll nodes).HasParent c p ↔ registry.HasParent c p := by
  induction nodes generalizing registry with
  | nil => exact Iff.rfl
  | cons node nodes ih =>
    obtain ⟨hnode, hrest⟩ := List.forall_mem_cons.mp hnodes
    rw [registerAll, List.foldl_cons, ← registerAll, ih hrest, hasParent_register_iff hnode]

/-- So a sound registry stays sound, whatever is declared. -/
theorem Sound.declareAll (h : registry.Sound) {subjects : List Term} {declared : Registry}
    (hdeclare : registry.declareAll subjects = .ok declared) : declared.Sound := by
  induction subjects generalizing registry with
  | nil => exact Except.ok.inj hdeclare ▸ h
  | cons subject subjects ih =>
    obtain ⟨next, hfirst, hrest⟩ := bind_eq_ok_iff.mp hdeclare
    exact ih (h.reaches (reaches_of_declare hfirst)) hrest

/-- The class has come into being between two states of a registry. -/
def IsNew (registry declared : Registry) (c : ClassId) : Prop :=
  registry.classes.size ≤ c ∧ c < declared.classes.size

instance (registry declared : Registry) (c : ClassId) : Decidable (registry.IsNew declared c) :=
  inferInstanceAs (Decidable (_ ∧ _))

/-- Edges between new classes are all made exactly if they have no cycle among themselves. -/
theorem Sound.exists_linkAll_new_iff (h : registry.Sound) (hf : registry.isFrozen = false)
    {subjects : List Term} {declared : Registry}
    (hdeclare : registry.declareAll subjects = .ok declared) {edges : List (ClassId × ClassId)}
    (hnew : ∀ edge ∈ edges, registry.IsNew declared edge.1 ∧ registry.IsNew declared edge.2) :
    (∃ linked, declared.linkAll edges = .ok linked) ↔ NoCycle edges := by
  have hsound := h.declareAll hdeclare
  rw [declareAll_eq_ok hf] at hdeclare
  obtain rfl := Except.ok.inj hdeclare
  -- declaring has added no edges
  have hparent : ∀ c p, (registry.registerAll
      (subjects.map fun subject => { subject := subject })).HasParent c p ↔
        registry.HasParent c p :=
    fun c p => hasParent_registerAll_iff (by simp)
  rw [hsound.exists_linkAll_iff ((isFrozen_registerAll ..).trans hf) fun edge hedge =>
    ⟨(hnew edge hedge).1.2, (hnew edge hedge).2.2⟩]
  simp only [hparent]
  constructor
  · -- the edges that are made are among all the edges
    intro hnone c hcycle
    exact hnone c (Relation.TransGen.mono (fun _ _ hedge => .inr hedge) c c hcycle)
  · -- the edges from before stay among the classes from before
    intro hnone c hcycle
    have hbefore : ∀ a b, registry.HasParent a b →
        a < registry.classes.size ∧ b < registry.classes.size :=
      fun a b hab => ⟨hab.lt_size, h.parentsInRange a b hab⟩
    have hlater : ∀ a b, (a, b) ∈ edges → registry.classes.size ≤ a ∧ registry.classes.size ≤ b :=
      fun a b hab => ⟨(hnew _ hab).1.1, (hnew _ hab).2.1⟩
    -- so a cycle is one of old edges or one of new ones, and there is neither
    rcases transGen_or_transGen hbefore hlater (fun _ hlt hle => Nat.not_le.mpr hlt hle) hcycle
      with hold | hnew
    · exact h.acyclic c hold
    · exact hnone c hnew

end Registry

/-- What becomes of an empty registry by some operations, whichever of them are refused. -/
def Reachable (registry : Registry) : Prop := ∃ steps, (runAll {} steps).registry = registry

/-- What can be reached is sound, which is all that is used of it here. -/
theorem Reachable.sound {registry : Registry} (h : Reachable registry) : registry.Sound := by
  obtain ⟨steps, rfl⟩ := h
  exact Registry.sound_empty.reaches (reaches_runAll (w := {}) Registry.sound_empty steps)

/-- **Edges are refused for cycles and for nothing else.** In a registry that can be reached and is
not frozen, an edge between two classes is refused for a cycle exactly if the two are the same class
or the parent reaches the child by parent edges, and every other edge is made. So edges between
classes that have just been declared are all made, in whatever order, exactly if the graph of all of
them has no cycle.

Registries that can be reached have no cycle to begin with, so every cycle that there could be goes
through a new edge. This is why edges between new classes can be judged all at once, by their own
graph. -/
theorem link_refused_iff {registry : Registry} (h : Reachable registry)
    (hf : registry.isFrozen = false) :
    (∀ child < registry.classes.size, ∀ parent < registry.classes.size,
      (registry.link child parent = .error
          (.inheritanceCycle (registry.subjectText child) (registry.subjectText parent)) ↔
        child = parent ∨ registry.HasAncestor parent child) ∧
      (¬ (child = parent ∨ registry.HasAncestor parent child) →
        registry.link child parent = .ok (registry.addEdge child parent))) ∧
    ∀ subjects : List Term, ∃ declared, registry.declareAll subjects = .ok declared ∧
      declared.classes.size = registry.classes.size + subjects.length ∧
      ∀ edges : List (ClassId × ClassId),
        (∀ edge ∈ edges, registry.IsNew declared edge.1 ∧ registry.IsNew declared edge.2) →
          ∀ edges', edges'.Perm edges →
            ((∃ linked, declared.linkAll edges' = .ok linked) ↔ NoCycle edges) := by
  have hsound := h.sound
  refine ⟨fun child _ parent _ => ⟨hsound.link_eq_error_iff child parent, hsound.link_eq_ok hf⟩,
    fun subjects => ⟨_, Registry.declareAll_eq_ok hf subjects, ?_, ?_⟩⟩
  · rw [Registry.size_registerAll, List.length_map]
  · intro edges hnew edges' hperm
    -- edges in another order make the same graph
    have hsame : NoCycle edges' ↔ NoCycle edges := by
      simp only [NoCycle, hperm.mem_iff]
    rw [← hsame]
    exact hsound.exists_linkAll_new_iff hf (Registry.declareAll_eq_ok hf subjects)
      fun edge hedge => hnew edge (hperm.mem_iff.mp hedge)

/-- Edges that all lead to later classes have no cycle. -/
theorem noCycle_of_lt {edges : List (ClassId × ClassId)} (h : ∀ edge ∈ edges, edge.1 < edge.2) :
    NoCycle edges := by
  have hpath : ∀ {a b : ClassId},
      Relation.TransGen (fun child parent => (child, parent) ∈ edges) a b → a < b := by
    intro a b hab
    induction hab with
    | single hedge => exact h _ hedge
    | tail _ hedge ih => exact Nat.lt_trans ih (h _ hedge)
  exact fun c hc => Nat.lt_irrefl c (hpath hc)

/-- Three classes with two ways from the first up to the last, one of the edges made twice. -/
def diamondEdges : List (ClassId × ClassId) := [(3, 4), (3, 5), (4, 5), (3, 4)]

/-- Three new classes beside a class below one that has lost its identifier. An edge that closes a
circle by way of the lost class is refused, and one that only makes a way shorter is not. The
diamond is made from either end, and not if an edge leads back to its beginning, whether that edge
comes last or first. -/
theorem link_refused_iff_diamond :
    ∃ registry declared, (runAll {} thingBelowPlace).registry = registry ∧
      registry.link 0 2 = .error
        (.inheritanceCycle "http://schema.org/Thing" "http://schema.org/Thing") ∧
      registry.link 2 0 = .ok (registry.addEdge 2 0) ∧
      registry.declareAll [.iri "http://schema.org/A", .iri "http://schema.org/B",
        .iri "http://schema.org/C"] = .ok declared ∧
      (∃ linked, declared.linkAll diamondEdges = .ok linked) ∧
      (∃ linked, declared.linkAll diamondEdges.reverse = .ok linked) ∧
      (¬ ∃ linked, declared.linkAll (diamondEdges ++ [(5, 3)]) = .ok linked) ∧
      ¬ ∃ linked, declared.linkAll ((5, 3) :: diamondEdges) = .ok linked := by
  have hf : (runAll {} thingBelowPlace).registry.isFrozen = false := by cbv
  have hbefore : (runAll {} thingBelowPlace).registry.classes.size = 3 := by cbv
  have htexts : (runAll {} thingBelowPlace).registry.subjectText 0 = "http://schema.org/Thing" ∧
      (runAll {} thingBelowPlace).registry.subjectText 2 = "http://schema.org/Thing" :=
    ⟨by cbv, by cbv⟩
  have hparents : (runAll {} thingBelowPlace).registry.parents 2 = [1] ∧
      (runAll {} thingBelowPlace).registry.parents 1 = [0] ∧
      (runAll {} thingBelowPlace).registry.parents 0 = [] := ⟨by cbv, by cbv, by cbv⟩
  generalize hregistry : (runAll {} thingBelowPlace).registry = registry at *
  obtain ⟨hsingle, hmany⟩ := link_refused_iff ⟨thingBelowPlace, hregistry⟩ hf
  obtain ⟨declared, hdeclared, hafter, hedges⟩ := hmany [.iri "http://schema.org/A",
    .iri "http://schema.org/B", .iri "http://schema.org/C"]
  -- the later class is below the one that it has taken the identifier from, and not above it
  have hup : registry.HasAncestor 2 0 := by
    refine .tail (.single (b := 1) ?_) ?_ <;> simp [Registry.HasParent, hparents]
  have hdown : ¬ registry.HasAncestor 0 2 := by
    intro hpath
    obtain ⟨p, hp, -⟩ := Relation.TransGen.head'_iff.mp hpath
    simp [Registry.HasParent, hparents] at hp
  have hnew : ∀ edge ∈ diamondEdges ++ [(5, 3)],
      registry.IsNew declared edge.1 ∧ registry.IsNew declared edge.2 := by
    simp [diamondEdges, Registry.IsNew, hbefore, hafter]
  have hmade := hedges diamondEdges fun edge hedge => hnew edge (List.mem_append_left _ hedge)
  have hrefused := hedges (diamondEdges ++ [(5, 3)]) hnew
  have hnone : NoCycle diamondEdges := noCycle_of_lt (by decide)
  -- the last edge goes back to where the diamond begins
  have hcycle : ¬ NoCycle (diamondEdges ++ [(5, 3)]) := by
    intro hnone
    refine hnone 3 (.tail (.single (b := 5) ?_) ?_) <;> simp [diamondEdges]
  refine ⟨registry, declared, rfl, ?_, ?_, hdeclared, ?_, ?_, ?_, ?_⟩
  · rw [(hsingle 0 (by omega) 2 (by omega)).1.mpr (.inr hup), htexts.1, htexts.2]
  · exact (hsingle 2 (by omega) 0 (by omega)).2 (by simpa using hdown)
  · exact (hmade _ (.refl _)).mpr hnone
  · exact (hmade _ (List.reverse_perm _)).mpr hnone
  · exact mt (hrefused _ (.refl _)).mp hcycle
  · exact mt (hrefused _ (List.perm_append_singleton _ _).symm).mp hcycle

end OntoTypes
