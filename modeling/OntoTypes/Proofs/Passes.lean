import OntoTypes.Generation
import OntoTypes.Proofs.Edit

/-!
# The passes as functions of the registry

A build threads a registry and messages through its steps. The messages decide nothing, so each step
has a plain reading: a function from the registry before it to the registry after it, or to the
error that ends the run. This module gives the reading of every step of the three passes and shows
that the step does what its reading says, in every workspace.

Main results:

* `Build.changed_bind_of_forall`, `Build.changed_forM`, `Build.changed_mapM` — readings compose;
* `outcome_registryOf` — the hierarchy of some topics as one function of the topics.
-/

namespace OntoTypes

namespace Build

/-- What a build makes of the registry, its messages and its result aside. -/
def changed (x : Build α) (w : Workspace) : Except Error Registry :=
  match x w with
  | .ok _ w' => .ok w'.registry
  | .error e _ => .error e

/-- A reading gives a registry exactly if the build ends with it, whatever it returns and reports.
-/
theorem changed_eq_ok_iff {x : Build α} {w : Workspace} {registry : Registry} :
    changed x w = .ok registry ↔ ∃ a w', x w = .ok a w' ∧ w'.registry = registry := by
  rw [changed]
  cases x w with
  | ok a w' => simp
  | error e w' => simp

/-- A result by itself changes nothing. -/
@[simp] theorem changed_pure (a : α) (w : Workspace) :
    changed (pure a : Build α) w = .ok w.registry := rfl

@[simp] theorem changed_note (level : Level) (text : String) (w : Workspace) :
    changed (note level text) w = .ok w.registry := rfl

/-- A change of the registry is its own reading. -/
@[simp] theorem changed_apply (change : Registry → Except Error Registry) (w : Workspace) :
    changed (apply change) w = change w.registry := by
  unfold changed apply
  cases change w.registry <;> rfl

/-- The second part of a build goes on from where the first one has ended. -/
theorem changed_bind (x : Build α) (f : α → Build β) (w : Workspace) :
    changed (x >>= f) w =
      match x w with
      | .ok a w' => changed (f a) w'
      | .error e _ => .error e := by
  rw [changed, bind_apply]
  cases x w <;> rfl

/-- What is done with the result of a build does not change the registry. -/
theorem changed_bind_pure (x : Build α) (f : α → β) (w : Workspace) :
    changed (x >>= fun a => pure (f a)) w = changed x w := by
  rw [changed_bind, changed]
  cases x w <;> rfl

/-- Looking at the registry leaves it as it is. -/
@[simp] theorem changed_registry_bind (f : Registry → Build α) (w : Workspace) :
    changed (registry >>= f) w = changed (f w.registry) w := rfl

/-- If the second part reads nothing but the registry, so does the whole. -/
theorem changed_bind_of_forall {x : Build α} {f : α → Build β}
    {g : Registry → Except Error Registry}
    (hf : ∀ a w, changed (f a) w = g w.registry) (w : Workspace) :
    changed (x >>= f) w = (changed x w).bind g := by
  rw [changed_bind, changed]
  cases x w with
  | ok a w' => exact hf a w'
  | error e w' => rfl

/-- Two builds one after the other read as their readings one after the other. -/
theorem changed_andThen {x : Build α} {y : Build β} {g h : Registry → Except Error Registry}
    (hx : ∀ w, changed x w = g w.registry) (hy : ∀ w, changed y w = h w.registry)
    (w : Workspace) :
    changed (x >>= fun _ => y) w = (g w.registry).bind h := by
  rw [changed_bind_of_forall (fun _ w => hy w), hx]

/-- A reference that cannot be followed ends the build before its second part. -/
@[simp] theorem changed_resolve_bind (reference subject role : String) (f : ClassId → Build α)
    (w : Workspace) :
    changed (resolve reference subject role >>= f) w =
      match w.registry.resolve reference subject role with
      | .ok c => changed (f c) w
      | .error e => .error e := by
  rw [changed_bind, resolve_apply, Registry.resolve]
  cases w.registry.get? reference <;> rfl

@[simp] theorem changed_throw (e : Error) (w : Workspace) :
    changed (throw e : Build α) w = .error e := rfl

/-- So does a result that is an error. -/
@[simp] theorem changed_ofExcept_bind (x : Except Error α) (f : α → Build β) (w : Workspace) :
    changed (ofExcept x >>= f) w =
      match x with
      | .ok a => changed (f a) w
      | .error e => .error e := by
  cases x <;> rfl

/-- A build for each of some items reads as a fold over them. -/
theorem changed_forM {f : α → Build Unit} {g : Registry → α → Except Error Registry}
    (hf : ∀ a w, changed (f a) w = g w.registry a) (items : List α) (w : Workspace) :
    changed (items.forM f) w = items.foldlM g w.registry := by
  induction items generalizing w with
  | nil => rfl
  | cons a items ih =>
    show changed (f a >>= fun _ => items.forM f) w = _
    rw [List.foldlM_cons,
      changed_bind_of_forall (g := fun r => items.foldlM g r) (fun _ w => ih w), hf]
    rfl

/-- So does one that gathers results. -/
theorem changed_mapM {f : α → Build β} {g : Registry → α → Except Error Registry}
    (hf : ∀ a w, changed (f a) w = g w.registry a) (items : List α) (w : Workspace) :
    changed (items.mapM f) w = items.foldlM g w.registry := by
  induction items generalizing w with
  | nil => rfl
  | cons a items ih =>
    -- the results are gathered without a look at the registry
    have hrest : ∀ b w, changed (do let bs ← items.mapM f; pure (b :: bs)) w =
        items.foldlM g w.registry := by
      intro b w
      rw [changed_bind_of_forall (g := .ok) (fun _ _ => changed_pure _ _), ih]
      cases items.foldlM g w.registry <;> rfl
    rw [List.mapM_cons, List.foldlM_cons,
      changed_bind_of_forall (g := fun r => items.foldlM g r) hrest, hf]
    rfl

/-- Reports change nothing. -/
@[simp] theorem changed_report (settings : Settings) (isMissing : Bool)
    (missing kind name : String) (unused : List Value) (w : Workspace) :
    changed (report settings isMissing missing kind name unused) w = .ok w.registry := by
  unfold report
  -- whatever is asked for and whatever is missing, all that happens are messages
  by_cases hv : settings.verbose = true <;> by_cases hm : isMissing = true <;>
    by_cases hu : unused.isEmpty = true <;>
      simp [hv, hm, hu, changed_bind_of_forall, Except.bind]

end Build

/-! ## Seeding and declaring -/

namespace Registry

/-- Declares the class of a topic, unless its identifier is the one of a builtin data type. -/
def declareTopic (registry : Registry) (topic : Topic) : Except Error Registry :=
  if (registry.get? topic.subject.text).any registry.isBuiltin then .ok registry
  else (typeName topic.subject).bind fun _ => registry.declare { subject := topic.subject }

/-- Declares the builtin data types under a namespace. -/
def seed (registry : Registry) (namespaceIri : String) : Except Error Registry :=
  catalogue.foldlM (fun r primitive => r.declare (builtinNode namespaceIri primitive)) registry

/-! ## Completing classes -/

/-- Makes a value of its topic known to a class. -/
def claim (settings : Settings) (c : ClassId) (registry : Registry) (value : Value) :
    Except Error Registry :=
  if registry.isFrozenClass c then .error (.frozenClass (registry.subjectText c))
  else
    match value.comment? settings.lang with
    | some text => registry.describe c text
    | none =>
      match value.reference? .subClassOf with
      | some reference =>
        (registry.resolve reference.text (registry.subjectText c) "parent").bind (registry.link c)
      | none =>
        match value.reference? .supersededBy with
        | some reference =>
          (registry.resolve reference.text (registry.subjectText c) "superseding class").bind
            (registry.supersede c)
        | none => .ok registry

/-- Makes a value of its topic known to a class, unless it is a label. -/
def receive (settings : Settings) (c : ClassId) (registry : Registry) (value : Value) :
    Except Error Registry :=
  if value.predicate = .known .label then .ok registry else claim settings c registry value

/-- Follows the references of the class of a topic. -/
def completeTopic (settings : Settings) (registry : Registry) (topic : Topic) :
    Except Error Registry :=
  match registry.get? topic.subject.text with
  | none => .ok registry
  | some c =>
    if registry.isBuiltin c then .ok registry
    else topic.values.foldlM (receive settings c) registry

/-! ## Attaching properties and members -/

/-- Records a new property and attaches it to some classes, one after another. -/
def addProperty (registry : Registry) (property : PropertyNode) (owners : List ClassId) :
    Except Error Registry :=
  (owners.foldlM (fun r owner => attachProperty r registry.properties.size owner) registry).bind
    fun r => .ok (r.pushProperty property)

/-- Attaches the property of a topic to the classes that own it. -/
def attachPropertyOf (settings : Settings) (registry : Registry) (topic : Topic) :
    Except Error Registry :=
  (PropertyDraft.ofTopic settings registry topic).outcome.bind fun draft =>
    registry.addProperty { draft.property with owners := draft.domains } draft.domains

/-- Attaches the member that a topic describes to its class, if the topic describes a member. -/
def attachMemberOf (settings : Settings) (registry : Registry) (topic : Topic) :
    Except Error Registry :=
  match topic.types.find? (!·.isMetaType) with
  | none => .ok registry
  | some tag =>
    (registry.resolve tag.text topic.subject.text "enumeration type").bind
      (registry.attachMember ⟨topic.subject, (MemberDraft.ofTopic settings topic).value.comment⟩)

/-! ## All passes -/

/-- Declares the classes of some topics, then follows their references. -/
def buildClasses (settings : Settings) (topics : List Topic) (registry : Registry) :
    Except Error Registry :=
  let classes := topics.filter Topic.isClass
  if classes.isEmpty then .error .emptyOntology
  else (classes.foldlM declareTopic registry).bind (classes.foldlM (completeTopic settings))

/-- Attaches the properties of some topics. -/
def attachProperties (settings : Settings) (topics : List Topic) (registry : Registry) :
    Except Error Registry :=
  (topics.filter Topic.isProperty).foldlM (attachPropertyOf settings) registry

/-- Attaches the members that some topics describe. -/
def attachMembers (settings : Settings) (topics : List Topic) (registry : Registry) :
    Except Error Registry :=
  (topics.filter fun topic => hasMemberType topic.types).foldlM (attachMemberOf settings) registry

/-- The hierarchy of some topics. -/
def ofTopics (settings : Settings) (topics : List Topic) : Except Error Registry := do
  let seeded ← seed {} settings.namespaceIri
  let completed ← buildClasses settings topics seeded
  let owning ← attachProperties settings topics completed
  let enumerated ← attachMembers settings topics owning
  return enumerated.freeze

end Registry

namespace Build

theorem changed_seedBuiltins (namespaceIri : String) (w : Workspace) :
    changed (seedBuiltins namespaceIri) w = w.registry.seed namespaceIri :=
  changed_forM (fun _ _ => changed_apply ..) catalogue w

theorem changed_declareTopic (topic : Topic) (w : Workspace) :
    changed (declareTopic topic) w = w.registry.declareTopic topic := by
  unfold declareTopic Registry.declareTopic
  rw [changed_registry_bind]
  -- a builtin data type keeps its place; any other topic declares a class if it has a name
  split
  · exact changed_note ..
  · rw [changed_ofExcept_bind]
    cases typeName topic.subject with
    | ok name => exact changed_apply ..
    | error e => rfl

theorem changed_describeClass (c : ClassId) (text : String) (w : Workspace) :
    changed (describeClass c text) w = w.registry.describe c text := by
  unfold describeClass
  rw [changed_registry_bind]
  split
  · exact changed_bind_of_forall (fun _ _ => changed_apply ..) w
  · exact changed_apply ..

theorem changed_addValue (settings : Settings) (c : ClassId) (value : Value) (w : Workspace) :
    changed (addValue settings c value) w = Registry.claim settings c w.registry value := by
  unfold addValue claimValue Registry.claim
  rw [changed_registry_bind]
  split
  · rfl
  rw [changed_registry_bind]
  -- a comment, a parent, a replacement, or nothing that a class has a use for
  cases value.comment? settings.lang with
  | some text =>
    dsimp only
    rw [changed_bind_pure, changed_describeClass]
  | none =>
    dsimp only
    cases value.reference? .subClassOf with
    | some reference =>
      dsimp only
      rw [changed_resolve_bind]
      cases w.registry.resolve reference.text (w.registry.subjectText c) "parent" with
      | ok parent => exact (changed_bind_pure ..).trans (changed_apply ..)
      | error e => rfl
    | none =>
      dsimp only
      cases value.reference? .supersededBy with
      | some reference =>
        dsimp only
        rw [changed_resolve_bind]
        cases w.registry.resolve reference.text (w.registry.subjectText c) "superseding class" with
        | ok target => exact (changed_bind_pure ..).trans (changed_apply ..)
        | error e => rfl
      | none => rfl

/-- The values of a topic are made known to its class one after another. The values that the class
has no use for are gathered on the way, and change nothing. -/
theorem changed_addValues (settings : Settings) (c : ClassId) (values : List Value)
    (w : Workspace) :
    changed (addValues settings c values) w =
      values.foldlM (Registry.receive settings c) w.registry := by
  induction values generalizing w with
  | nil => rfl
  | cons value values ih =>
    -- the values that are left over are collected, which changes nothing
    have hrest : ∀ (unused : Bool) w, changed (do
          let later ← addValues settings c values
          return if unused then value :: later else later) w =
        values.foldlM (Registry.receive settings c) w.registry := by
      intro unused w
      rw [changed_bind_of_forall (g := .ok) (fun _ _ => changed_pure ..), ih]
      cases values.foldlM (Registry.receive settings c) w.registry <;> rfl
    rw [addValues, List.foldlM_cons, Registry.receive]
    split
    · exact hrest false w
    · refine (changed_bind_of_forall (g := fun r => values.foldlM (Registry.receive settings c) r)
        (fun claimed w => hrest (!claimed) w) w).trans ?_
      rw [changed_addValue]
      rfl

/-- A class is completed by the values of its topic. A report that follows changes nothing. -/
theorem changed_completeTopic (settings : Settings) (topic : Topic) (w : Workspace) :
    changed (completeTopic settings topic) w = w.registry.completeTopic settings topic := by
  unfold completeTopic Registry.completeTopic
  rw [changed_registry_bind]
  cases w.registry.get? topic.subject.text with
  | none => rfl
  | some c =>
    dsimp only
    split
    · rfl
    · -- what is reported at the end changes nothing
      rw [changed_bind_of_forall (g := .ok), changed_addValues]
      · cases topic.values.foldlM (Registry.receive settings c) w.registry <;> rfl
      · intro unused w
        rw [changed_registry_bind, changed_report]

theorem changed_buildClasses (settings : Settings) (topics : List Topic) (w : Workspace) :
    changed (buildClasses settings topics) w = w.registry.buildClasses settings topics := by
  unfold buildClasses Registry.buildClasses
  dsimp only
  split
  · rfl
  · -- all classes are declared before the first one is completed
    rw [changed_bind_of_forall
      (g := (topics.filter Topic.isClass).foldlM (Registry.completeTopic settings)),
      changed_forM changed_declareTopic]
    exact fun _ w => changed_forM (changed_completeTopic settings) _ w

/-- What has been read without a look at the registry decides how the build goes on. -/
theorem changed_ofAttempt_bind (x : Attempt α) {f : α → Build β}
    {g : Registry → α → Except Error Registry} (hf : ∀ a w, changed (f a) w = g w.registry a)
    (w : Workspace) :
    changed (ofAttempt x >>= f) w = x.outcome.bind (g w.registry) := by
  rw [changed_bind, ofAttempt]
  cases x.outcome with
  | ok a => exact hf a _
  | error e => rfl

theorem changed_addProperty (property : PropertyNode) (owners : List ClassId) (w : Workspace) :
    changed (addProperty property owners) w = w.registry.addProperty property owners := by
  unfold addProperty Registry.addProperty
  -- attach to the owners one by one, then record
  rw [changed_registry_bind]
  rw [changed_bind_of_forall (g := fun r => .ok (r.pushProperty property)),
    changed_forM (g := fun r owner => Registry.attachProperty r w.registry.properties.size owner)]
  · exact fun _ _ => changed_apply ..
  · intro _ w
    rw [changed_bind_pure, changed_apply]

/-- A property is read first and attached afterwards. -/
theorem changed_resolveProperty (settings : Settings) (topic : Topic) (w : Workspace) :
    changed (resolveProperty settings topic) w = w.registry.attachPropertyOf settings topic := by
  unfold resolveProperty Registry.attachPropertyOf
  rw [changed_registry_bind]
  refine changed_ofAttempt_bind _ (g := fun r (draft : PropertyDraft) =>
    r.addProperty { draft.property with owners := draft.domains } draft.domains) ?_ w
  intro draft w
  rw [changed_bind_of_forall (g := .ok), changed_addProperty]
  · cases Registry.addProperty w.registry _ draft.domains <;> rfl
  · intro id w
    rw [changed_bind_pure, changed_report]

/-- A member belongs to the class that is found first; it is read afterwards. -/
theorem changed_resolveMember (settings : Settings) (topic : Topic) (w : Workspace) :
    changed (resolveMember settings topic) w = w.registry.attachMemberOf settings topic := by
  unfold resolveMember memberOwner? Registry.attachMemberOf
  cases topic.types.find? (!·.isMetaType) with
  | none => rfl
  | some tag =>
    -- the owner is looked up before anything is read
    simp only [bind_assoc, pure_bind]
    rw [changed_resolve_bind]
    cases w.registry.resolve tag.text topic.subject.text "enumeration type" with
    | error e => rfl
    | ok owner =>
      dsimp only
      rw [changed_ofAttempt_bind (g := fun r (draft : MemberDraft) =>
        r.attachMember ⟨topic.subject, draft.comment⟩ owner)]
      · rfl
      · intro draft w
        rw [changed_bind_of_forall (g := fun r =>
          r.attachMember ⟨topic.subject, draft.comment⟩ owner), changed_report]
        · rfl
        · intro _ w
          rw [changed_bind_pure, changed_apply]

theorem changed_resolveProperties (settings : Settings) (topics : List Topic) (w : Workspace) :
    changed (resolveProperties settings topics) w =
      w.registry.attachProperties settings topics :=
  changed_mapM (changed_resolveProperty settings) _ w

theorem changed_resolveMembers (settings : Settings) (topics : List Topic) (w : Workspace) :
    changed (resolveMembers settings topics) w = w.registry.attachMembers settings topics :=
  (changed_bind_pure ..).trans (changed_mapM (changed_resolveMember settings) _ w)

/-- All passes, one after another, each on the registry that the one before it has left. -/
theorem changed_buildRegistry (settings : Settings) (topics : List Topic) :
    changed (buildRegistry settings topics) {} = Registry.ofTopics settings topics := by
  -- each pass goes on from the registry that the one before it has left
  have hfreeze : ∀ w, changed (apply fun r => .ok r.freeze) w = .ok w.registry.freeze :=
    changed_apply _
  have hmembers : ∀ w, changed _ w =
      (fun r => (Registry.attachMembers settings topics r).bind fun r => .ok r.freeze) w.registry :=
    changed_andThen (changed_resolveMembers settings topics) hfreeze
  have hproperties : ∀ w, changed _ w =
      (fun r => (Registry.attachProperties settings topics r).bind fun r =>
        (Registry.attachMembers settings topics r).bind fun r => .ok r.freeze) w.registry :=
    changed_andThen (changed_resolveProperties settings topics) hmembers
  rw [buildRegistry, changed_bind_of_forall (g := fun r =>
    (Registry.buildClasses settings topics r).bind fun r =>
      (Registry.attachProperties settings topics r).bind fun r =>
        (Registry.attachMembers settings topics r).bind fun r => .ok r.freeze),
    changed_seedBuiltins]
  · rfl
  · exact fun _ => changed_andThen (changed_buildClasses settings topics) hproperties

end Build

/-- The hierarchy of some topics, as one function of the topics. -/
theorem outcome_registryOf (settings : Settings) (topics : List Topic) :
    (registryOf settings topics).outcome = Registry.ofTopics settings topics := by
  rw [← Build.changed_buildRegistry, Build.changed, registryOf]
  cases Build.buildRegistry settings topics {} <;> rfl

end OntoTypes
