import Mathlib
import OntoTypes.Hierarchy.Operation
import OntoTypes.Proofs.Reading
import OntoTypes.Proofs.Soundness

/-!
# Operations are all or nothing

An operation that is refused leaves the registry as it was. For a single change this is so because
it is checked before it takes place. Some operations are made of several changes, and those could be
refused half-way; that they are not is due to what they have in common. The builtin data types are
all declared in the same registry, frozen or not, and the classes that the property of a topic is
attached to are all registered, so that either all of them are frozen or none is. What goes wrong
therefore goes wrong at the first change.

It follows that whatever operations are run, and however many of them are refused, the registry has
taken steps and nothing else, so it is sound.

Main results:

* `Operation.allOrNothing_run` — an operation takes some steps, or it is refused;
* `invariants_runAll` — what holds of a registry after any operations.
-/

namespace OntoTypes

namespace Build

/-- A build that starts at `w` ends as `good` says. -/
def Succeeds (x : Build α) (w : Workspace) (good : α → Registry → Prop) : Prop :=
  ∃ a w', x w = .ok a w' ∧ good a w'.registry

/-- A build that starts at `w` ends as `good` says, or it fails and leaves the registry as it
was. -/
def AllOrNothing (x : Build α) (w : Workspace) (good : α → Registry → Prop) : Prop :=
  match x w with
  | .ok a w' => good a w'.registry
  | .error _ w' => w'.registry = w.registry

/-- A build that starts at `w` does no more than look at the registry, and ends with something that
is `known`, or fails. -/
def Reads (x : Build α) (w : Workspace) (known : α → Prop) : Prop :=
  AllOrNothing x w fun a r => known a ∧ r = w.registry

variable {w : Workspace} {good good' : α → Registry → Prop} {known : α → Prop}

/-! ## Building blocks -/

/-- What cannot fail is all or nothing. -/
theorem Succeeds.allOrNothing {x : Build α} (h : Succeeds x w good) : AllOrNothing x w good := by
  obtain ⟨a, w', hx, hgood⟩ := h
  rw [AllOrNothing, hx]
  exact hgood

/-- Less may be said about how a build ends. -/
theorem AllOrNothing.mono {x : Build α} (h : AllOrNothing x w good)
    (himp : ∀ a r, good a r → good' a r) : AllOrNothing x w good' := by
  unfold AllOrNothing at h ⊢
  cases hx : x w with
  | ok a w' =>
    rw [hx] at h
    exact himp a _ h
  | error e w' =>
    rw [hx] at h
    exact h

/-- A result by itself ends where it has started. -/
theorem succeeds_pure {a : α} (h : good a w.registry) : Succeeds (pure a) w good :=
  ⟨a, w, rfl, h⟩

/-- Two builds of which neither can fail cannot fail one after the other. -/
theorem Succeeds.bind {x : Build α} {f : α → Build β} {good' : β → Registry → Prop}
    (hx : Succeeds x w good) (hf : ∀ a w', good a w'.registry → Succeeds (f a) w' good') :
    Succeeds (x >>= f) w good' := by
  obtain ⟨a, w', hx, hgood⟩ := hx
  obtain ⟨b, w'', hf, hgood'⟩ := hf a w' hgood
  refine ⟨b, w'', ?_, hgood'⟩
  rw [bind_apply, hx]
  exact hf

/-- A build is all or nothing if its second part cannot fail. -/
theorem AllOrNothing.bind {x : Build α} {f : α → Build β} {good' : β → Registry → Prop}
    (hx : AllOrNothing x w good) (hf : ∀ a w', good a w'.registry → Succeeds (f a) w' good') :
    AllOrNothing (x >>= f) w good' := by
  unfold AllOrNothing at hx ⊢
  rw [bind_apply]
  -- only the first part can fail, and then it has left the registry as it was
  cases hxw : x w with
  | ok a w' =>
    rw [hxw] at hx
    obtain ⟨b, w'', hf, hgood'⟩ := hf a w' hx
    simpa only [hf] using hgood'
  | error e w' =>
    rw [hxw] at hx
    exact hx

/-- What is done with the result of a build does not matter for what it does to the registry. -/
theorem AllOrNothing.bind_pure {x : Build α} {inv : Registry → Prop}
    (h : AllOrNothing x w fun _ r => inv r) (f : α → β) :
    AllOrNothing (x >>= fun a => pure (f a)) w fun _ r => inv r :=
  h.bind fun _ _ h => succeeds_pure h

/-- A build is all or nothing if its first part does no more than look at the registry. -/
theorem Reads.bind {x : Build α} {f : α → Build β} {good : β → Registry → Prop}
    (hx : Reads x w known)
    (hf : ∀ a w', known a → w'.registry = w.registry → AllOrNothing (f a) w' good) :
    AllOrNothing (x >>= f) w good := by
  unfold Reads AllOrNothing at hx
  unfold AllOrNothing at hf ⊢
  rw [bind_apply]
  cases hxw : x w with
  | ok a w' =>
    -- what the second part leaves as it was is what was there before the first part
    rw [hxw] at hx
    have hfw := hf a w' hx.1 hx.2
    rw [hx.2] at hfw
    exact hfw
  | error e w' =>
    rw [hxw] at hx
    exact hx

/-- Looking at the registry does no harm. -/
theorem allOrNothing_registry_bind {f : Registry → Build α}
    (h : AllOrNothing (f w.registry) w good) : AllOrNothing (registry >>= f) w good := h

/-- Nor does giving up before anything has been changed. -/
theorem allOrNothing_throw (e : Error) : AllOrNothing (throw e : Build α) w good := rfl

/-- Messages leave the registry as it is. -/
theorem reads_note (level : Level) (text : String) : Reads (note level text) w fun _ => True :=
  ⟨trivial, rfl⟩

/-- Reading a topic leaves the registry as it is, and ends with what has been read. -/
theorem reads_ofAttempt (x : Attempt α) : Reads (ofAttempt x) w fun a => x.outcome = .ok a := by
  unfold Reads AllOrNothing ofAttempt
  cases x.outcome with
  | ok a => exact ⟨rfl, rfl⟩
  | error e => rfl

/-- A reference is followed to a registered class. -/
theorem reads_resolve (reference subject role : String) :
    Reads (resolve reference subject role) w fun c => c ∈ w.registry.registered := by
  rw [Reads, AllOrNothing, resolve_apply]
  cases hget : w.registry.get? reference with
  | none => rfl
  | some c => exact ⟨Registry.mem_registered_of_get? hget, rfl⟩

/-- Reports leave the registry as it is, and do not fail. -/
theorem succeeds_report (settings : Settings) (isMissing : Bool) (missing kind name : String)
    (unused : List Value) :
    Succeeds (report settings isMissing missing kind name unused) w fun _ r =>
      True ∧ r = w.registry := by
  obtain ⟨a, w', hx, hsame⟩ :=
    changed_eq_ok_iff.mp (changed_report settings isMissing missing kind name unused w)
  exact ⟨a, w', hx, trivial, hsame⟩

/-- Reading one thing after another is reading. -/
theorem reads_mapM {f : α → Build β} (items : List α)
    (hf : ∀ a w', w'.registry = w.registry → Reads (f a) w' fun _ => True) :
    Reads (items.mapM f) w fun _ => True := by
  induction items generalizing w with
  | nil => exact ⟨trivial, rfl⟩
  | cons a items ih =>
    rw [List.mapM_cons]
    -- the registry is the same one for every item
    refine (hf a w rfl).bind fun b w₁ _ hw₁ => ?_
    have hlater : Reads (items.mapM f) w₁ fun _ => True :=
      ih fun a w₂ hw₂ => hf a w₂ (hw₂.trans hw₁)
    exact hlater.bind fun bs w₂ _ hw₂ => ⟨trivial, hw₂.trans hw₁⟩

/-- Changes that are all let through. -/
theorem succeeds_forM {change : α → Registry → Except Error Registry} {inv : Registry → Prop}
    {items : List α}
    (hstep : ∀ a ∈ items, ∀ r, inv r → ∃ r', change a r = .ok r' ∧ inv r')
    (hinv : inv w.registry) :
    Succeeds (items.forM fun a => apply (change a)) w fun _ r => inv r := by
  induction items generalizing w with
  | nil => exact succeeds_pure hinv
  | cons a items ih =>
    obtain ⟨ha, hrest⟩ := List.forall_mem_cons.mp hstep
    obtain ⟨r', hr', hinv'⟩ := ha w.registry hinv
    -- the first change is let through and keeps the invariant for the others
    have hfirst : Succeeds (apply (change a)) w fun _ r => inv r :=
      ⟨(), { w with registry := r' }, by rw [apply, hr'], hinv'⟩
    exact hfirst.bind fun _ w' hw' => ih hrest hw'

/-- A change that is refused is no more than a look at the registry. -/
theorem reads_apply_of_error {change : Registry → Except Error Registry} {e : Error}
    (h : change w.registry = .error e) : Reads (apply change) w fun _ => False := by
  unfold Reads AllOrNothing apply
  rw [h]

/-- Changes none of which is let through. -/
theorem reads_forM {change : α → Registry → Except Error Registry} {items : List α}
    (h : ∀ a ∈ items, ∃ e, change a w.registry = .error e) :
    Reads (items.forM fun a => apply (change a)) w fun _ => True := by
  cases items with
  | nil => exact ⟨trivial, rfl⟩
  | cons a items =>
    obtain ⟨e, he⟩ := h a (List.mem_cons_self ..)
    exact (reads_apply_of_error he).bind fun _ _ hfalse => hfalse.elim

/-! ## Changes of classes and properties -/

/-- A change that consists of steps, unless it is refused. -/
theorem allOrNothing_apply {change : Registry → Except Error Registry}
    (h : ∀ r, change w.registry = .ok r → w.registry.Reaches r) :
    AllOrNothing (apply change) w fun _ r => w.registry.Reaches r := by
  unfold AllOrNothing apply
  cases hchange : change w.registry with
  | ok r => exact h r hchange
  | error e => rfl

/-- An edit is a step, unless it is refused. -/
theorem allOrNothing_edit (edit : Edit) (hrange : edit.InRange w.registry.classes.size) :
    AllOrNothing (apply fun registry => edit.apply registry) w fun _ r => w.registry.Reaches r :=
  allOrNothing_apply fun _ hr => .single (Registry.step_of_apply hrange hr)

/-- The builtin data types are all declared, or none is. -/
theorem allOrNothing_seedBuiltins (namespaceIri : String) :
    AllOrNothing (seedBuiltins namespaceIri) w fun _ r => w.registry.Reaches r := by
  cases hf : w.registry.isFrozen with
  | true =>
    -- the first class is refused already
    have hnone : Reads (seedBuiltins namespaceIri) w fun _ => True :=
      reads_forM fun primitive _ => ⟨.frozenRegistry, by simp [Registry.declare, hf]⟩
    exact hnone.mono fun _ r hr => hr.2 ▸ .refl
  | false =>
    -- a registry is not frozen by declaring a class, so the next one can be declared too
    have hall : Succeeds (seedBuiltins namespaceIri) w fun _ r =>
        w.registry.Reaches r ∧ r.isFrozen = false := by
      refine succeeds_forM (fun primitive _ r hr => ?_) ⟨.refl, hf⟩
      have hdeclare : r.declare (builtinNode namespaceIri primitive) =
          .ok (r.register (builtinNode namespaceIri primitive)) := by
        simp [Registry.declare, hr.2]
      exact ⟨_, hdeclare, hr.1.trans (Registry.reaches_of_declare hdeclare), hr.2⟩
    exact hall.allOrNothing.mono fun _ _ hr => hr.1

/-- A class is described, or nothing happens. -/
theorem allOrNothing_describeClass (c : ClassId) (text : String) :
    AllOrNothing (describeClass c text) w fun _ r => w.registry.Reaches r := by
  refine allOrNothing_registry_bind ?_
  split
  · -- a second description is reported first
    refine (reads_note _ _).bind fun _ w₁ _ hw₁ => ?_
    rw [← hw₁]
    exact allOrNothing_edit (.describe c text) trivial
  · exact allOrNothing_edit (.describe c text) trivial

/-- A value is made known to a class, or nothing happens. -/
theorem allOrNothing_addValue (hsound : w.registry.Sound) (settings : Settings) {c : ClassId}
    (hc : c < w.registry.classes.size) (value : Value) :
    AllOrNothing (addValue settings c value) w fun _ r => w.registry.Reaches r := by
  refine allOrNothing_registry_bind ?_
  split
  · exact allOrNothing_throw _
  refine allOrNothing_registry_bind ?_
  -- a comment, a parent, a replacement, or nothing that a class has a use for
  cases value.comment? settings.lang with
  | some text => exact (allOrNothing_describeClass c text).bind_pure _
  | none =>
    dsimp only
    cases value.reference? .subClassOf with
    | some reference =>
      refine (reads_resolve ..).bind fun parent w₁ hparent hw₁ => ?_
      rw [← hw₁] at hsound hc hparent ⊢
      have hlink := allOrNothing_edit (.link c parent) ⟨hc, hsound.registered_lt parent hparent⟩
      exact hlink.bind_pure _
    | none =>
      dsimp only
      cases value.reference? .supersededBy with
      | some reference =>
        refine (reads_resolve ..).bind fun target w₁ _ hw₁ => ?_
        rw [← hw₁]
        exact (allOrNothing_edit (.supersede c target) trivial).bind_pure _
      | none => exact .refl

/-- A new property is attached to classes that are all frozen, or to classes none of which is. -/
theorem allOrNothing_addProperty (property : PropertyNode) {owners : List ClassId}
    (halike : ∃ isFrozen, ∀ owner ∈ owners, w.registry.isFrozenClass owner = isFrozen) :
    AllOrNothing (addProperty property owners) w fun _ r => w.registry.Reaches r := by
  -- once the property is attached, nothing can go wrong any more
  have hrecord : ∀ w' : Workspace, w.registry.Reaches w'.registry →
      Succeeds (do
        apply fun registry => .ok (registry.pushProperty property)
        return w.registry.properties.size) w' fun _ r => w.registry.Reaches r :=
    fun w' hw' => ⟨_, _, rfl, hw'.tail (.pushProperty property)⟩
  refine allOrNothing_registry_bind (AllOrNothing.bind ?_ fun _ w' hw' => hrecord w' hw')
  obtain ⟨isFrozen, halike⟩ := halike
  cases isFrozen with
  | true =>
    refine (reads_forM fun owner howner => ?_).mono fun _ r hr => hr.2 ▸ .refl
    exact ⟨_, by rw [Registry.attachProperty, Registry.change, if_pos (halike owner howner)]⟩
  | false =>
    -- which classes are frozen does not change while the property is attached
    have hall : Succeeds (owners.forM fun owner =>
        apply (·.attachProperty w.registry.properties.size owner)) w fun _ r =>
          w.registry.Reaches r ∧ r.isFrozenClass = w.registry.isFrozenClass := by
      refine succeeds_forM (fun owner howner r hr => ?_) ⟨.refl, rfl⟩
      let edit : Edit := .attachProperty w.registry.properties.size owner
      have hthawed : ∀ c ∈ edit.touched, r.isFrozenClass c = false := by
        simpa [edit, Edit.touched, hr.2] using halike owner howner
      have happly := (Edit.apply_eq_ok_iff edit).mpr ⟨trivial, hthawed, rfl⟩
      exact ⟨_, happly, hr.1.tail (.edit edit trivial trivial hthawed), hr.2⟩
    exact hall.allOrNothing.mono fun _ _ hr => hr.1

/-- The domain classes that a topic names are registered. -/
theorem registered_of_mem_domains {settings : Settings} {registry : Registry} {topic : Topic}
    {draft : PropertyDraft} {owner : ClassId}
    (hdraft : (PropertyDraft.ofTopic settings registry topic).outcome = .ok draft)
    (howner : owner ∈ draft.domains) : owner ∈ registry.registered := by
  have hgathers := (PropertyDraft.outcome_foldlM_readValue topic.values _).1 draft hdraft
  rw [hgathers.2.domains, List.nil_append] at howner
  obtain ⟨value, -, hvalue⟩ := List.mem_filterMap.mp howner
  obtain ⟨node, -, hnode⟩ := Option.bind_eq_some_iff.mp hvalue
  exact Registry.mem_registered_of_get? hnode

/-- The property of a topic is attached to all of its domain classes, or it is not recorded. -/
theorem allOrNothing_resolveProperty (settings : Settings) (topic : Topic) :
    AllOrNothing (resolveProperty settings topic) w fun _ r => w.registry.Reaches r := by
  refine allOrNothing_registry_bind ((reads_ofAttempt _).bind fun draft w₁ hdraft hw₁ => ?_)
  rw [← hw₁] at hdraft ⊢
  -- registered classes are all frozen, or none is
  have halike : ∀ owner ∈ draft.domains,
      w₁.registry.isFrozenClass owner = w₁.registry.isFrozen := by
    intro owner howner
    have hmem := List.contains_iff_mem.mpr (registered_of_mem_domains hdraft howner)
    rw [Registry.isFrozenClass, hmem, Bool.and_true]
  refine (allOrNothing_addProperty _ ⟨_, halike⟩).bind fun id w₂ hw₂ => ?_
  exact (succeeds_report ..).bind fun _ w₃ hw₃ => succeeds_pure (hw₃.2 ▸ hw₂)

/-- The member that a topic describes is attached to its class, or nothing happens. -/
theorem allOrNothing_resolveMember (settings : Settings) (topic : Topic) :
    AllOrNothing (resolveMember settings topic) w fun _ r => w.registry.Reaches r := by
  unfold resolveMember memberOwner?
  cases topic.types.find? (!·.isMetaType) with
  | none => exact .refl
  | some tag =>
    -- the owner is looked up, the topic is read, the report is made; only then is anything changed
    simp only [bind_assoc, pure_bind]
    refine (reads_resolve ..).bind fun owner w₁ _ hw₁ => ?_
    refine (reads_ofAttempt _).bind fun draft w₂ _ hw₂ => ?_
    refine Reads.bind (succeeds_report ..).allOrNothing fun _ w₃ _ hw₃ => ?_
    rw [← hw₁, ← hw₂, ← hw₃]
    let member : MemberNode := ⟨topic.subject, draft.comment⟩
    exact (allOrNothing_edit (.attachMember member owner) trivial).bind_pure _

end Build

/-! ## Operations -/

namespace Operation

open Build

variable {w : Workspace}

/-- A class that is referred to is there. -/
theorem reads_named (hsound : w.registry.Sound) (reference : ClassRef) :
    Reads (named reference) w fun c => c < w.registry.classes.size := by
  cases reference with
  | named identifier =>
    exact (reads_resolve ..).mono fun c r h => ⟨hsound.registered_lt c h.1, h.2⟩
  | held c =>
    refine allOrNothing_registry_bind ?_
    split
    · rename_i hc
      exact ⟨hc, rfl⟩
    · exact allOrNothing_throw _

/-- Following the references of a range is reading. -/
theorem reads_range (range : List String) :
    Reads (range.mapM fun identifier => named (.named identifier)) w fun _ => True :=
  reads_mapM range fun _ _ _ => (reads_resolve ..).mono fun _ _ h => ⟨trivial, h.2⟩

/-- **An operation on a sound registry takes some steps, or it is refused and leaves the registry as
it was.** Soundness is needed for the classes that an operation refers to: they have to be there for
an edge between them to be a step. -/
theorem allOrNothing_run (hsound : w.registry.Sound) (settings : Settings) (op : Operation) :
    AllOrNothing (op.run settings) w fun _ r => w.registry.Reaches r := by
  cases op with
  | seed namespaceIri =>
    exact (allOrNothing_seedBuiltins namespaceIri).bind_pure _
  | declare subject =>
    exact (allOrNothing_apply fun _ hr => Registry.reaches_of_declare hr).bind_pure _
  | create subject primitive => exact Relation.ReflTransGen.single (.push subject primitive)
  | declareAgain reference =>
    -- the class is looked up before it is registered again
    refine (reads_named hsound reference).bind fun c w₁ hc hw₁ => ?_
    rw [← hw₁] at hc ⊢
    exact (allOrNothing_apply fun _ hr => .single (Registry.step_of_declareAgain hc hr)).bind_pure _
  | link child parent =>
    -- both ends are looked up before the edge is made
    refine (reads_named hsound child).bind fun child w₁ hchild hw₁ => ?_
    rw [← hw₁] at hsound hchild ⊢
    refine (reads_named hsound parent).bind fun parent w₂ hparent hw₂ => ?_
    rw [← hw₂] at hchild hparent ⊢
    have hlink := allOrNothing_edit (.link child parent) ⟨hchild, hparent⟩
    exact hlink.bind_pure _
  | add reference value =>
    refine (reads_named hsound reference).bind fun c w₁ hc hw₁ => ?_
    rw [← hw₁] at hsound hc ⊢
    exact (allOrNothing_addValue hsound settings hc value).bind_pure _
  | property owner subject description range =>
    -- the classes of the range and the owner are looked up before anything changes
    refine (reads_range range).bind fun range w₁ _ hw₁ => ?_
    rw [← hw₁] at hsound ⊢
    refine (reads_named hsound owner).bind fun owner w₂ _ hw₂ => ?_
    rw [← hw₂]
    have halike : ∃ isFrozen, ∀ c ∈ [owner], w₂.registry.isFrozenClass c = isFrozen :=
      ⟨_, fun c hc => congrArg _ (List.mem_singleton.mp hc)⟩
    exact (allOrNothing_addProperty _ halike).bind_pure _
  | share owner id =>
    refine (reads_named hsound owner).bind fun owner w₁ _ hw₁ => ?_
    rw [← hw₁]
    exact (allOrNothing_edit (.attachProperty id owner) trivial).bind_pure _
  | member owner subject comment =>
    refine (reads_named hsound owner).bind fun owner w₁ _ hw₁ => ?_
    rw [← hw₁]
    let member : MemberNode := ⟨subject, comment⟩
    exact (allOrNothing_edit (.attachMember member owner) trivial).bind_pure _
  | propertyTopic topic =>
    exact (allOrNothing_resolveProperty settings topic).bind_pure _
  | memberTopic topic =>
    exact (allOrNothing_resolveMember settings topic).bind_pure _
  | freeze => exact Relation.ReflTransGen.single .freeze

/-- After an operation the registry is as the operation has left it, or it is as it was. -/
theorem after_of_allOrNothing {step : Settings × Operation} {good : Reply → Registry → Prop}
    (h : AllOrNothing (step.2.run step.1) w good) :
    (∃ reply, good reply (after w step).registry) ∨ (after w step).registry = w.registry := by
  unfold AllOrNothing at h
  unfold after
  cases hw : step.2.run step.1 w with
  | ok reply w' =>
    rw [hw] at h
    exact .inl ⟨reply, h⟩
  | error _ w' =>
    rw [hw] at h
    exact .inr h

/-- An operation takes some steps, refused or not. -/
theorem reaches_after (hsound : w.registry.Sound) (step : Settings × Operation) :
    w.registry.Reaches (after w step).registry := by
  rcases after_of_allOrNothing (allOrNothing_run hsound step.1 step.2) with ⟨_, hreaches⟩ | hsame
  · exact hreaches
  · exact hsame ▸ .refl

end Operation

/-- Operations take some steps, whichever of them are refused. -/
theorem reaches_runAll {w : Workspace} (hsound : w.registry.Sound)
    (steps : List (Settings × Operation)) : w.registry.Reaches (runAll w steps).registry := by
  induction steps generalizing w with
  | nil => exact .refl
  | cons step steps ih =>
    -- refused or not, the first operation leaves a sound registry behind
    have hfirst := Operation.reaches_after hsound step
    exact hfirst.trans (ih (hsound.reaches hfirst))

/-- **The class graph after any operations.** Whatever is asked of an empty registry, and whatever
is refused on the way, no class is above itself, every edge is recorded on both of its ends equally
often, and the next operation leaves everything as it is if it is refused.

Operations may hold on to classes that are not registered, or not any more, so edges are counted
between positions and not between identifiers. The last part speaks of the registry as a whole: the
tables and the index are the same, and not only what can be found through them. -/
theorem invariants_runAll (steps : List (Settings × Operation)) :
    (runAll {} steps).registry.Acyclic ∧
      (∀ c p, ((runAll {} steps).registry.parents c).count p =
        ((runAll {} steps).registry.children p).count c) ∧
      ∀ (settings : Settings) (op : Operation) (e : Error) (w' : Workspace),
        op.run settings (runAll {} steps) = .error e w' →
          w'.registry = (runAll {} steps).registry := by
  have hsound : (runAll {} steps).registry.Sound :=
    Registry.sound_empty.reaches (reaches_runAll (w := {}) Registry.sound_empty steps)
  refine ⟨hsound.acyclic, hsound.mirror, fun settings op e w' hrefused => ?_⟩
  -- the next operation is all or nothing as well, and nothing is left if it is refused
  have hrun := Operation.allOrNothing_run hsound settings op
  rw [Build.AllOrNothing, hrefused] at hrun
  exact hrun

/-- A class that is declared anew below a class that is still below the old one. -/
def thingBelowPlace : List (Settings × Operation) := [
  ({}, .declare (.iri "http://schema.org/Thing")),
  ({}, .declare (.iri "http://schema.org/Place")),
  ({}, .link "http://schema.org/Place" "http://schema.org/Thing"),
  ({}, .declare (.iri "http://schema.org/Thing")),
  ({}, .link "http://schema.org/Thing" "http://schema.org/Place")]

/-- The edges lead from the new class to the old one, and an edge back is refused. -/
theorem invariants_runAll_thingBelowPlace :
    ∃ w', (Operation.link (.held 0) "http://schema.org/Thing").run {}
          (runAll {} thingBelowPlace) =
        .error (.inheritanceCycle "http://schema.org/Thing" "http://schema.org/Thing") w' ∧
      w'.registry = (runAll {} thingBelowPlace).registry ∧
      (runAll {} thingBelowPlace).registry.Acyclic ∧
      (runAll {} thingBelowPlace).registry.parents 2 = [1] ∧
      (runAll {} thingBelowPlace).registry.parents 1 = [0] := by
  have hrefused : ∃ w', (Operation.link (.held 0) "http://schema.org/Thing").run {}
      (runAll {} thingBelowPlace) =
        .error (.inheritanceCycle "http://schema.org/Thing" "http://schema.org/Thing") w' :=
    ⟨_, by cbv⟩
  obtain ⟨w', hw'⟩ := hrefused
  obtain ⟨hacyclic, -, hsame⟩ := invariants_runAll thingBelowPlace
  exact ⟨w', hw', hsame _ _ _ w' hw', hacyclic, by cbv, by cbv⟩

end OntoTypes
