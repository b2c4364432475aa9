import OntoTypes.Proofs.Atomic

/-!
# Frozen registries

Freezing is the last change of what a registry has on record about its classes. Whatever is asked of
a frozen registry afterwards, the registered classes and their order, their edges, descriptions,
replacements, properties and members stay as they are. New classes can still be made, and classes
that are not registered can be changed by whoever holds on to them; none of that is reached from an
identifier. Operations that name all of their classes by identifiers therefore change no class at
all: each of them is refused before it writes anything, or has nothing to write to a class.

Main definitions and results:

* `Registry.Retains` — what is on record about registered classes stays as it is;
* `Registry.retains_of_step`, `Registry.retains_of_reaches` — frozen registries retain it;
* `Operation.isByIdentifier`, `Operation.spares_run` — operations by identifier;
* `retains_runAll_of_freeze` — any run after a freeze.
-/

namespace OntoTypes

/-- An edit of other classes leaves a class as it is. -/
theorem Edit.node?_perform_of_not_touched {registry : Registry} {edit : Edit} {c : ClassId}
    (h : c ∉ edit.touched) : (edit.perform registry).node? c = registry.node? c := by
  cases edit with
  | link child parent =>
    have hne : child ≠ c ∧ parent ≠ c := by simpa [touched, eq_comm, not_or] using h
    simp [perform, Registry.addEdge, hne.1, hne.2]
  | describe d _ | supersede d _ | attachProperty _ d | attachMember _ d =>
    have hne : d ≠ c := fun heq => h (by simp [touched, heq])
    simp [perform, hne]

namespace Registry

variable {registry registry' registry'' : Registry}

/-- What a registry has on record about its registered classes is still there, as it was. -/
structure Retains (registry registry' : Registry) : Prop where
  /-- The same classes are registered, under the same identifiers and in the same order. -/
  index : registry'.index = registry.index
  /-- The same is recorded about each of them. -/
  nodes : ∀ c ∈ registry.registered, registry'.node? c = registry.node? c
  /-- The properties that they share are the same. -/
  properties : ∀ id < registry.properties.size, registry'.properties[id]? = registry.properties[id]?

/-- A registry retains what it has on record itself. -/
theorem Retains.refl (registry : Registry) : registry.Retains registry :=
  ⟨rfl, fun _ _ => rfl, fun _ _ => rfl⟩

/-- The same classes are registered, in the same order. -/
theorem Retains.registered (h : registry.Retains registry') :
    registry'.registered = registry.registered := by
  rw [Registry.registered, h.index, Registry.registered]

/-- What is retained twice is retained. The second registry has all properties of the first one, so
the third one is asked for them as well. -/
theorem Retains.trans (h : registry.Retains registry') (h' : registry'.Retains registry'') :
    registry.Retains registry'' where
  index := h'.index.trans h.index
  nodes := fun c hc => (h'.nodes c (h.registered ▸ hc)).trans (h.nodes c hc)
  properties := by
    intro id hid
    -- no property has gone in between
    have hthere : id < registry'.properties.size := by
      by_contra hlt
      have hkept := h.properties id hid
      rw [Array.getElem?_eq_none (Nat.le_of_not_lt hlt), Array.getElem?_eq_getElem hid] at hkept
      cases hkept
    exact (h'.properties id hthere).trans (h.properties id hid)

/-- In a frozen registry every registered class is frozen. -/
theorem isFrozenClass_of_registered (hf : registry.isFrozen = true) {c : ClassId}
    (hc : c ∈ registry.registered) : registry.isFrozenClass c = true := by
  rw [isFrozenClass, hf, List.contains_iff_mem.mpr hc, Bool.and_self]

/-- A frozen registry refuses every edit of a registered class. -/
theorem exists_error_of_touched (hf : registry.isFrozen = true) (edit : Edit) {c : ClassId}
    (hc : c ∈ registry.registered) (htouched : c ∈ edit.touched) :
    ∃ e, edit.apply registry = .error e := by
  -- an edit that goes through has met no frozen class
  cases happly : edit.apply registry with
  | error e => exact ⟨e, rfl⟩
  | ok r =>
    have hthawed := ((Edit.apply_eq_ok_iff edit).mp happly).2.1 c htouched
    rw [isFrozenClass_of_registered hf hc] at hthawed
    cases hthawed

/-- **A step of a frozen registry leaves it frozen and retains what is on record.** -/
theorem retains_of_step (hsound : registry.Sound) (hf : registry.isFrozen = true)
    (hstep : registry.Step registry') : registry'.isFrozen = true ∧ registry.Retains registry' := by
  cases hstep with
  | push subject primitive =>
    -- the new class comes after all that are registered
    refine ⟨hf, rfl, fun c hc => ?_, fun _ _ => rfl⟩
    rw [node?_pushClass, if_neg (Nat.ne_of_lt (hsound.registered_lt c hc))]
  | enter c hthawed =>
    -- no class is registered in a frozen registry
    rw [hf] at hthawed
    cases hthawed
  | edit edit _ _ hthawed =>
    refine ⟨(Edit.isFrozen_perform registry edit).trans hf, Edit.index_perform registry edit,
      fun c hc => ?_, fun id _ => by rw [Edit.properties_perform]⟩
    -- what is edited is not registered, since all that is registered is frozen
    have hnot : c ∉ edit.touched := by
      intro htouched
      have hfrozen := hthawed c htouched
      rw [isFrozenClass_of_registered hf hc] at hfrozen
      cases hfrozen
    exact Edit.node?_perform_of_not_touched hnot
  | pushProperty property =>
    refine ⟨hf, rfl, fun _ _ => rfl, fun id hid => ?_⟩
    -- the new property comes after all that are there
    rw [pushProperty, Array.getElem?_push, if_neg (Nat.ne_of_lt hid)]
  | freeze => exact ⟨rfl, rfl, fun _ _ => rfl, fun _ _ => rfl⟩

/-- Any number of steps of a frozen registry retain what is on record. -/
theorem retains_of_reaches (hsound : registry.Sound) (hf : registry.isFrozen = true)
    (hreaches : registry.Reaches registry') :
    registry'.isFrozen = true ∧ registry.Retains registry' := by
  induction hreaches with
  | refl => exact ⟨hf, .refl registry⟩
  | tail hnext hstep ih =>
    obtain ⟨hfrozen, hretains⟩ := ih
    obtain ⟨hfrozen', hretains'⟩ := retains_of_step (hsound.reaches hnext) hfrozen hstep
    exact ⟨hfrozen', hretains.trans hretains'⟩

end Registry

/-! ## Operations by identifier -/

/-- Whether a class is named by its identifier. -/
def ClassRef.isNamed : ClassRef → Bool
  | .named _ => true
  | .held _ => false

/-- Whether an operation names the classes it works on by their identifiers, and makes no class but
to register it. -/
def Operation.isByIdentifier : Operation → Bool
  | .create .. => false
  | .declareAgain reference | .add reference _ => reference.isNamed
  | .link child parent => child.isNamed && parent.isNamed
  | .property owner .. | .share owner _ | .member owner .. => owner.isNamed
  | .seed _ | .declare _ | .propertyTopic _ | .memberTopic _ | .freeze => true

namespace Build

variable {w : Workspace}

/-- A build leaves all classes as they are, whether it succeeds or not. -/
def Spares (x : Build α) (w : Workspace) : Prop :=
  AllOrNothing x w fun _ r => r.classes = w.registry.classes

/-- Looking at the registry spares all classes. -/
theorem spares_of_reads {x : Build α} {known : α → Prop} (h : Reads x w known) : Spares x w :=
  AllOrNothing.mono h fun _ _ hr => hr.2 ▸ rfl

/-- A build spares all classes if its first part reads the registry and its second part spares
them. -/
theorem Reads.spares_bind {x : Build α} {f : α → Build β} {known : α → Prop}
    (hx : Reads x w known)
    (hf : ∀ a w', known a → w'.registry = w.registry → Spares (f a) w') : Spares (x >>= f) w := by
  refine hx.bind fun a w' hknown hw' => ?_
  rw [← hw']
  exact hf a w' hknown hw'

/-- A build that begins with a change that is refused spares all classes. -/
theorem spares_apply_bind {change : Registry → Except Error Registry} {f : Unit → Build β}
    (h : ∃ e, change w.registry = .error e) : Spares (apply change >>= f) w := by
  obtain ⟨e, he⟩ := h
  exact (reads_apply_of_error he).spares_bind fun _ _ hfalse => hfalse.elim

section

variable (hf : w.registry.isFrozen = true)
include hf

/-- Nothing is declared in a frozen registry. -/
theorem spares_seedBuiltins (namespaceIri : String) : Spares (seedBuiltins namespaceIri) w :=
  spares_of_reads (reads_forM fun primitive _ => ⟨.frozenRegistry, by simp [Registry.declare, hf]⟩)

/-- An edit of a registered class is refused. -/
theorem spares_edit_bind (edit : Edit) {c : ClassId} (hc : c ∈ w.registry.registered)
    (htouched : c ∈ edit.touched) {f : Unit → Build β} :
    Spares (apply (fun registry => edit.apply registry) >>= f) w :=
  spares_apply_bind (Registry.exists_error_of_touched hf edit hc htouched)

/-- A property of no class is recorded, and one of registered classes is not. -/
theorem spares_addProperty (property : PropertyNode) {owners : List ClassId}
    (howners : ∀ owner ∈ owners, owner ∈ w.registry.registered) :
    Spares (addProperty property owners) w := by
  refine allOrNothing_registry_bind ?_
  -- every owner refuses the property; without owners nothing is written to a class
  have hattach : Reads (owners.forM fun owner =>
      apply (·.attachProperty w.registry.properties.size owner)) w fun _ => True :=
    reads_forM fun owner howner =>
      Registry.exists_error_of_touched hf (.attachProperty _ owner) (howners owner howner)
        (List.mem_singleton_self owner)
  exact hattach.spares_bind fun _ w' _ _ => rfl

/-- A registered class takes no value, whether it has a use for it or not. -/
theorem spares_addValue (settings : Settings) {c : ClassId} (hc : c ∈ w.registry.registered)
    (value : Value) : Spares (addValue settings c value) w := by
  refine allOrNothing_registry_bind ?_
  -- the class is asked whether it is frozen before the value is looked at
  rw [if_pos (Registry.isFrozenClass_of_registered hf hc)]
  exact allOrNothing_throw _

/-- The property of a topic is attached to registered classes only, so none of them takes it. -/
theorem spares_resolveProperty (settings : Settings) (topic : Topic) :
    Spares (resolveProperty settings topic) w := by
  refine allOrNothing_registry_bind ((reads_ofAttempt _).spares_bind fun draft w₁ hdraft hw₁ => ?_)
  rw [← hw₁] at hf hdraft
  -- the classes that the topic names as owners are registered
  have hdomains : ∀ owner ∈ draft.domains, owner ∈ w₁.registry.registered :=
    fun _ => registered_of_mem_domains hdraft
  refine (spares_addProperty hf _ hdomains).bind fun id w₂ hw₂ => ?_
  -- the report that follows comes too late to change anything
  exact (succeeds_report ..).bind fun _ w₃ hw₃ => succeeds_pure (hw₃.2 ▸ hw₂)

/-- A member belongs to a registered class, so it is not taken. -/
theorem spares_resolveMember (settings : Settings) (topic : Topic) :
    Spares (resolveMember settings topic) w := by
  unfold resolveMember memberOwner?
  -- without a type tag there is no member to be attached
  cases topic.types.find? (!·.isMetaType) with
  | none => exact rfl
  | some tag =>
    simp only [bind_assoc, pure_bind]
    refine (reads_resolve ..).spares_bind fun owner w₁ howner hw₁ => ?_
    refine (reads_ofAttempt _).spares_bind fun draft w₂ _ hw₂ => ?_
    refine Reads.spares_bind (succeeds_report ..).allOrNothing fun _ w₃ _ hw₃ => ?_
    -- nothing has happened to the registry by the time the member is attached
    have hw : w₃.registry = w.registry := hw₃.trans (hw₂.trans hw₁)
    let member : MemberNode := ⟨topic.subject, draft.comment⟩
    exact spares_edit_bind (hw ▸ hf) (.attachMember member owner) (hw ▸ howner)
      (List.mem_singleton_self owner)

end

end Build

namespace Operation

open Build

variable {w : Workspace}

/-- A class that is named by its identifier is registered. -/
theorem reads_named_of_isNamed {reference : ClassRef} (h : reference.isNamed = true) :
    Reads (named reference) w fun c => c ∈ w.registry.registered := by
  cases reference with
  | named identifier => exact reads_resolve ..
  | held c => cases h

/-- **An operation by identifier leaves all classes of a frozen registry as they are.** -/
theorem spares_run (hf : w.registry.isFrozen = true) (settings : Settings) {op : Operation}
    (hop : op.isByIdentifier = true) : Spares (op.run settings) w := by
  -- an operation by identifier either registers a class, which a frozen registry refuses, or looks
  -- up the classes it works on, which are then registered and therefore frozen; what it would do to
  -- them is refused at the first change
  cases op with
  | seed namespaceIri => exact (spares_seedBuiltins hf namespaceIri).bind_pure _
  | declare subject =>
    -- nothing new is registered
    exact spares_apply_bind ⟨.frozenRegistry, by simp [Registry.declare, hf]⟩
  -- a class that is made without being registered is not named by an identifier
  | create subject primitive => cases hop
  | declareAgain reference =>
    refine (reads_named_of_isNamed hop).spares_bind fun c w₁ _ hw₁ => ?_
    rw [← hw₁] at hf
    -- nor is anything registered once more
    exact spares_apply_bind ⟨.frozenRegistry, by simp [Registry.declareAgain, hf]⟩
  | link child parent =>
    obtain ⟨hchild, hparent⟩ := Bool.and_eq_true_iff.mp hop
    refine (reads_named_of_isNamed hchild).spares_bind fun child w₁ hregistered hw₁ => ?_
    refine (reads_named_of_isNamed hparent).spares_bind fun parent w₂ _ hw₂ => ?_
    -- both ends have been found, and the edge is refused for the child already
    have hw : w₂.registry = w.registry := hw₂.trans hw₁
    exact spares_edit_bind (hw ▸ hf) (.link child parent) (hw ▸ hregistered)
      (List.mem_cons_self ..)
  | add reference value =>
    refine (reads_named_of_isNamed hop).spares_bind fun c w₁ hc hw₁ => ?_
    rw [← hw₁] at hf hc
    exact (spares_addValue hf settings hc value).bind_pure _
  | property owner subject description range =>
    -- following the range is reading; the owner is registered
    refine (reads_range range).spares_bind fun range w₁ _ hw₁ => ?_
    refine (reads_named_of_isNamed hop).spares_bind fun owner w₂ howner hw₂ => ?_
    have howners : ∀ c ∈ [owner], c ∈ w₂.registry.registered := by
      rw [hw₂]
      simpa using howner
    exact (spares_addProperty ((hw₂.trans hw₁) ▸ hf) _ howners).bind_pure _
  | share owner id =>
    refine (reads_named_of_isNamed hop).spares_bind fun owner w₁ howner hw₁ => ?_
    rw [← hw₁] at hf howner
    exact spares_edit_bind hf (.attachProperty id owner) howner (List.mem_singleton_self owner)
  | member owner subject comment =>
    refine (reads_named_of_isNamed hop).spares_bind fun owner w₁ howner hw₁ => ?_
    rw [← hw₁] at hf howner
    let member : MemberNode := ⟨subject, comment⟩
    exact spares_edit_bind hf (.attachMember member owner) howner (List.mem_singleton_self owner)
  | propertyTopic topic => exact (spares_resolveProperty hf settings topic).bind_pure _
  | memberTopic topic => exact (spares_resolveMember hf settings topic).bind_pure _
  -- freezing again writes nothing to a class
  | freeze => exact rfl

/-- What an operation spares is there after it, refused or not. -/
theorem classes_after {step : Settings × Operation} (h : Spares (step.2.run step.1) w) :
    (after w step).registry.classes = w.registry.classes := by
  rcases after_of_allOrNothing h with ⟨_, hclasses⟩ | hsame
  · exact hclasses
  · rw [hsame]

end Operation

/-! ## After a freeze -/

/-- Operations by identifier leave all classes of a frozen registry as they are, whichever of them
are refused. -/
theorem classes_runAll_of_isFrozen {w : Workspace} (hsound : w.registry.Sound)
    (hf : w.registry.isFrozen = true) {steps : List (Settings × Operation)}
    (hsteps : ∀ step ∈ steps, step.2.isByIdentifier = true) :
    (runAll w steps).registry.classes = w.registry.classes := by
  induction steps generalizing w with
  | nil => rfl
  | cons step steps ih =>
    obtain ⟨hstep, hlater⟩ := List.forall_mem_cons.mp hsteps
    have hreaches := Operation.reaches_after hsound step
    -- the first operation leaves the registry frozen, so the others are refused alike
    have hfrozen := (Registry.retains_of_reaches hsound hf hreaches).1
    calc (runAll w (step :: steps)).registry.classes
        = (Operation.after w step).registry.classes := ih (hsound.reaches hreaches) hfrozen hlater
      _ = w.registry.classes := Operation.classes_after (Operation.spares_run hf step.1 hstep)

/-- **Frozen means frozen.** Whatever has been asked of a registry before it is frozen, whatever is
asked of it afterwards, and whatever is refused: the registered classes, their order and what is
recorded about them, and the properties that they share, stay as they are at the freeze. If nothing
but operations by identifier is asked for, then so do all other classes, and there are no new
ones. -/
theorem retains_runAll_of_freeze (settings : Settings)
    (before after : List (Settings × Operation)) :
    let frozen := runAll {} (before ++ [(settings, .freeze)])
    frozen.registry.Retains (runAll frozen after).registry ∧
      ((∀ step ∈ after, step.2.isByIdentifier = true) →
        (runAll frozen after).registry.classes = frozen.registry.classes) := by
  intro frozen
  have hsound : frozen.registry.Sound :=
    Registry.sound_empty.reaches (reaches_runAll (w := {}) Registry.sound_empty _)
  -- the last operation before the others is the freeze
  have hf : frozen.registry.isFrozen = true := by
    simp only [frozen, runAll, List.foldl_append, List.foldl_cons, List.foldl_nil]
    rfl
  exact ⟨(Registry.retains_of_reaches hsound hf (reaches_runAll hsound after)).2,
    classes_runAll_of_isFrozen hsound hf⟩

/-- Operations by identifier, of which a frozen registry refuses all but the last two: a property of
no class can still be recorded, and freezing again is no change. -/
def askedTooLate : List (Settings × Operation) := [
  ({}, .declare (.iri "http://schema.org/Person")),
  ({}, .link "http://schema.org/Place" "http://schema.org/Thing"),
  ({}, .add "http://schema.org/Place" ⟨.known .supersededBy, .iri "http://schema.org/Thing"⟩),
  ({}, .member "http://schema.org/Place" (.iri "http://schema.org/Here") none),
  ({}, .propertyTopic { subject := .iri "http://schema.org/nameless" }),
  ({}, .freeze)]

/-- The class that has lost its identifier keeps its edge, too, though it is not frozen itself. -/
theorem retains_runAll_of_freeze_thingBelowPlace :
    let frozen := runAll {} (thingBelowPlace ++ [(({} : Settings), .freeze)])
    frozen.registry.isFrozenClass 0 = false ∧
      frozen.registry.Retains (runAll frozen askedTooLate).registry ∧
      (runAll frozen askedTooLate).registry.children 0 = [1] := by
  intro frozen
  obtain ⟨hretains, hclasses⟩ := retains_runAll_of_freeze {} thingBelowPlace askedTooLate
  have hnamed : ∀ step ∈ askedTooLate, step.2.isByIdentifier = true := by
    simp [askedTooLate, Operation.isByIdentifier, ClassRef.isNamed]
  have hchildren : frozen.registry.children 0 = [1] := by cbv
  refine ⟨by cbv, hretains, ?_⟩
  rw [Registry.children, Registry.node?, hclasses hnamed]
  exact hchildren

end OntoTypes
