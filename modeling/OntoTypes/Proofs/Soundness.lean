import OntoTypes.Proofs.Edit

/-!
# Sound registries

What holds of a registry at any time, whatever it has been through: what is registered is there,
every edge is recorded on both of its ends equally often, and no class is above itself. Classes that
are not registered, or not any more, are classes of the registry like the others; the statements
are about all of them.

All that ever happens to a registry is a sequence of the steps listed here. Soundness holds of an
empty registry and is kept by every step, so it holds of whatever can be reached.

Main results:

* `Sound.step`, `Sound.reaches` — soundness is kept by a step, and by any number of steps;
* `step_of_apply`, `reaches_of_declare` — the changes of a registry are made of steps.
-/

namespace OntoTypes

namespace Registry

/-- What holds of a registry at any time. -/
structure Sound (registry : Registry) : Prop where
  /-- What is registered is there. -/
  registered_lt : ∀ c ∈ registry.registered, c < registry.classes.size
  /-- An edge is recorded on both of its ends. -/
  mirror : ∀ c p, (registry.parents c).count p = (registry.children p).count c
  acyclic : registry.Acyclic

/-- A single step in the life of a registry. -/
inductive Step (registry : Registry) : Registry → Prop
  /-- A class comes into being, without edges and not registered yet. -/
  | push (subject : Term) (primitive : Option Primitive) :
    Step registry (registry.pushClass { subject := subject, primitive := primitive })
  /-- A class is registered. -/
  | enter (c : ClassId) : registry.isFrozen = false → c < registry.classes.size →
    Step registry (registry.enter c)
  /-- Classes are changed that are not frozen. -/
  | edit (edit : Edit) : edit.InRange registry.classes.size → edit.Allowed registry →
    (∀ c ∈ edit.touched, registry.isFrozenClass c = false) → Step registry (edit.perform registry)
  /-- A property comes into being. -/
  | pushProperty (property : PropertyNode) : Step registry (registry.pushProperty property)
  | freeze : Step registry registry.freeze

/-- What becomes of a registry in some steps. -/
def Reaches : Registry → Registry → Prop := Relation.ReflTransGen Step

variable {registry registry' : Registry}

/-- References lead to registered classes and to no others. -/
theorem mem_registered_of_get? {identifier : String} {c : ClassId}
    (h : registry.get? identifier = some c) : c ∈ registry.registered := by
  obtain ⟨before, after, hindex, -⟩ := List.lookup_eq_some_iff.mp h
  rw [registered, hindex]
  simp

/-! ## Soundness -/

/-- Nothing is wrong with a registry in which there is nothing. -/
theorem sound_empty : Sound {} where
  registered_lt := by simp [registered]
  mirror := by simp [parents, children, node?]
  acyclic := fun _ hc => Nat.not_lt_zero _ hc.lt_size

/-- The parents of classes are classes of the registry. It need not be asked for, since edges are
recorded on both of their ends. -/
theorem Sound.parentsInRange (h : registry.Sound) : registry.ParentsInRange := by
  intro c p hp
  -- whoever is a parent has a child, and only the classes of a registry have children
  have hchild : c ∈ registry.children p := by
    rw [← List.count_pos_iff, ← h.mirror, List.count_pos_iff]
    exact hp
  by_contra hlt
  rw [children, node?, Array.getElem?_eq_none (Nat.le_of_not_lt hlt)] at hchild
  simp at hchild

/-- Soundness depends on the edges, and on what is registered. -/
theorem Sound.of_same_edges (h : registry.Sound) (hparents : registry'.parents = registry.parents)
    (hchildren : registry'.children = registry.children)
    (hregistered : ∀ c ∈ registry'.registered, c < registry'.classes.size) : registry'.Sound where
  registered_lt := hregistered
  mirror := by rw [hparents, hchildren]; exact h.mirror
  acyclic := by
    have hsame : registry'.HasParent = registry.HasParent := by
      funext c p
      rw [HasParent, hparents, HasParent]
    rw [Acyclic, HasAncestor, hsame]
    exact h.acyclic

/-- **Soundness is kept by every step.** -/
theorem Sound.step (h : registry.Sound) (hstep : registry.Step registry') : registry'.Sound := by
  cases hstep with
  | push subject primitive =>
    -- the new class has no edges, as it had none before it was there
    have hnone : registry.node? registry.classes.size = none := Array.getElem?_size
    refine h.of_same_edges ?_ ?_ ?_
    · funext c
      by_cases hc : c = registry.classes.size <;> simp [parents, node?_pushClass, hc, hnone]
    · funext c
      by_cases hc : c = registry.classes.size <;> simp [children, node?_pushClass, hc, hnone]
    · intro c hc
      rw [pushClass, Array.size_push]
      exact Nat.lt_succ_of_lt (h.registered_lt c hc)
  | enter c hf hc =>
    refine h.of_same_edges rfl rfl fun d hd => ?_
    -- what is registered afterwards is the class, or it was registered before
    rcases Keyed.mem_map_snd_set hd with rfl | hd
    · exact hc
    · exact h.registered_lt d hd
  | edit edit hrange hallowed _ =>
    have hes : ∀ e ∈ [edit], e.InRange registry.classes.size := by simpa using hrange
    refine ⟨?_, fun c p => ?_, ?_⟩
    · -- which classes are registered and how many there are is not for an edit to change
      intro c hc
      rw [Edit.size_perform]
      rw [registered, Edit.index_perform] at hc
      exact h.registered_lt c hc
    · -- both ends of an edge are written at once
      have hparents : (edit.perform registry).parents c = _ := Edit.parents_performAll hes c
      have hchildren : (edit.perform registry).children p = _ := Edit.children_performAll hes p
      rw [hparents, hchildren, List.count_append, List.count_append, h.mirror,
        Edit.count_filterMap_parent?]
    · -- only an edge could close a cycle, and it would not have been let through
      exact (Edit.acyclic_perform_iff h.parentsInRange hrange).mpr ⟨h.acyclic, hallowed⟩
  | pushProperty property => exact h.of_same_edges rfl rfl h.registered_lt
  | freeze => exact h.of_same_edges rfl rfl h.registered_lt

/-- Soundness is kept by any number of steps. With `sound_empty` this is what makes soundness hold
of every registry that comes about. -/
theorem Sound.reaches (h : registry.Sound) (hreaches : registry.Reaches registry') :
    registry'.Sound := by
  induction hreaches with
  | refl => exact h
  | tail _ hstep ih => exact ih.step hstep

/-! ## Changes as steps -/

/-- An edit that is let through is a step. -/
theorem step_of_apply {edit : Edit} (hrange : edit.InRange registry.classes.size)
    (h : edit.apply registry = .ok registry') : registry.Step registry' := by
  obtain ⟨hallowed, htouched, rfl⟩ := (Edit.apply_eq_ok_iff edit).mp h
  exact .edit edit hrange hallowed htouched

/-- A class that is declared is made and then registered. -/
theorem reaches_of_declare {subject : Term} {primitive : Option Primitive}
    (h : registry.declare { subject := subject, primitive := primitive } = .ok registry') :
    registry.Reaches registry' := by
  unfold declare at h
  split at h
  · cases h
  · rename_i hf
    cases h
    -- the class that is made first is the one that is registered, under its own text
    have htext : (registry.pushClass { subject := subject, primitive := primitive }).subjectText
        registry.classes.size = subject.text := by
      rw [subjectText, node?_pushClass, if_pos rfl]
      rfl
    have hregister : registry.register { subject := subject, primitive := primitive } =
        (registry.pushClass { subject := subject, primitive := primitive }).enter
          registry.classes.size := by
      rw [enter, htext]
      rfl
    rw [hregister]
    refine (Relation.ReflTransGen.single (.push subject primitive)).tail (.enter _ ?_ ?_)
    · exact Bool.eq_false_iff.mpr hf
    · rw [pushClass, Array.size_push]
      exact Nat.lt_succ_self _

/-- A class that is there is registered again in one step. -/
theorem step_of_declareAgain {c : ClassId} (hc : c < registry.classes.size)
    (h : registry.declareAgain c = .ok registry') : registry.Step registry' := by
  unfold declareAgain at h
  split at h
  · cases h
  · rename_i hf
    cases h
    exact .enter c (Bool.eq_false_iff.mpr hf) hc

end Registry

end OntoTypes
