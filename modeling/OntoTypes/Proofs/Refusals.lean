import OntoTypes.Proofs.CycleCheck
import OntoTypes.Proofs.Enumerations

/-!
# Why properties and members are refused

A property is attached to all of its owners or to none of them, and a member is attached or not.
This module says which of the two happens, for every topic and every registry, and names the error
in the case of a refusal. The references of a topic are all followed before the first owner is
changed, so the first one that cannot be followed is reported, wherever it stands, and a frozen
owner only if there is no such reference. Owners are registered, and registered classes are all
frozen or none is; so a frozen owner is the first one.

What is frozen is a matter of the past: a class is frozen if it was registered when somebody asked
for a freeze, and for no other reason.

Main definitions and results:

* `isFrozenClass_runAll_iff` — which classes are frozen after any operations;
* `Registry.propertyRefusal?`, `Registry.memberRefusal?` — why a topic is refused, if it is;
* `Registry.attachPropertyOf_eq`, `Registry.attachMemberOf_eq` — the registry after a topic, frozen
  or not;
* `Build.Settles`, `settles_runAll` — a topic is taken or refused, and a refusal changes nothing.
-/

namespace OntoTypes

/-! ## Who freezes a registry -/

namespace Build

/-- A build that neither freezes a registry nor thaws it, whether it succeeds or not. -/
def LeavesFrozen (x : Build α) : Prop :=
  ∀ w, match x w with
    | .ok _ w' | .error _ w' => w'.registry.isFrozen = w.registry.isFrozen

/-- A result by itself freezes nothing. -/
theorem leavesFrozen_pure (a : α) : LeavesFrozen (pure a) := fun _ => rfl

/-- Nor does giving up. -/
theorem leavesFrozen_throw (e : Error) : LeavesFrozen (throw e : Build α) := fun _ => rfl

/-- Nor does a message. -/
theorem leavesFrozen_note (level : Level) (text : String) : LeavesFrozen (note level text) :=
  fun _ => rfl

/-- Nor does reading a topic, successful or not. -/
theorem leavesFrozen_ofAttempt (x : Attempt α) : LeavesFrozen (ofAttempt x) := by
  intro w
  rw [ofAttempt]
  cases x.outcome <;> rfl

/-- Nor does following a reference. -/
theorem leavesFrozen_resolve (reference subject role : String) :
    LeavesFrozen (resolve reference subject role) := by
  intro w
  rw [resolve_apply]
  cases w.registry.get? reference <;> rfl

/-- Nor does a report. -/
theorem leavesFrozen_report (settings : Settings) (isMissing : Bool)
    (missing kind name : String) (unused : List Value) :
    LeavesFrozen (report settings isMissing missing kind name unused) := by
  intro w
  obtain ⟨a, w', hreport, -, hsame⟩ :=
    succeeds_report (w := w) settings isMissing missing kind name unused
  rw [hreport]
  exact congrArg Registry.isFrozen hsame

/-- Two builds that freeze nothing freeze nothing one after the other, even if the second one is not
reached. -/
theorem LeavesFrozen.bind {x : Build α} {f : α → Build β} (hx : LeavesFrozen x)
    (hf : ∀ a, LeavesFrozen (f a)) : LeavesFrozen (x >>= f) := by
  intro w
  have hfirst := hx w
  rw [bind_apply]
  cases hxw : x w with
  | error e w' =>
    rw [hxw] at hfirst
    exact hfirst
  | ok a w' =>
    -- the second part leaves what the first part has left
    rw [hxw] at hfirst
    have hsecond := hf a w'
    dsimp only at hfirst hsecond ⊢
    rw [hfirst] at hsecond
    exact hsecond

/-- What is done with the result of a build does not matter. -/
theorem LeavesFrozen.bind_pure {x : Build α} (hx : LeavesFrozen x) (f : α → β) :
    LeavesFrozen (x >>= fun a => pure (f a)) :=
  hx.bind fun a => leavesFrozen_pure (f a)

/-- Looking at the registry does not freeze it. -/
theorem leavesFrozen_registry_bind {f : Registry → Build α}
    (h : ∀ registry, LeavesFrozen (f registry)) : LeavesFrozen (registry >>= f) :=
  fun w => h w.registry w

/-- What is done for each of some items freezes nothing if none of it does. -/
theorem leavesFrozen_forM {f : α → Build Unit} (hf : ∀ a, LeavesFrozen (f a)) (items : List α) :
    LeavesFrozen (items.forM f) := by
  induction items with
  | nil => exact leavesFrozen_pure ()
  | cons a items ih => exact (hf a).bind fun _ => ih

/-- The same holds if results are gathered. -/
theorem leavesFrozen_mapM {f : α → Build β} (hf : ∀ a, LeavesFrozen (f a)) (items : List α) :
    LeavesFrozen (items.mapM f) := by
  induction items with
  | nil => exact leavesFrozen_pure []
  | cons a items ih =>
    rw [List.mapM_cons]
    exact (hf a).bind fun _ => ih.bind_pure _

/-- A change that is no freeze. -/
theorem leavesFrozen_apply {change : Registry → Except Error Registry}
    (h : ∀ r r', change r = .ok r' → r'.isFrozen = r.isFrozen) : LeavesFrozen (apply change) := by
  intro w
  rw [apply]
  cases hchange : change w.registry with
  | ok r' => exact h w.registry r' hchange
  | error e => rfl

/-- Edits are changes of classes, and leave the mark of the registry alone. -/
theorem leavesFrozen_edit (edit : Edit) :
    LeavesFrozen (apply fun registry => edit.apply registry) := by
  refine leavesFrozen_apply fun r r' happly => ?_
  obtain ⟨-, -, rfl⟩ := (Edit.apply_eq_ok_iff edit).mp happly
  exact Edit.isFrozen_perform r edit

/-- What a frozen registry refuses, and what does not freeze another one. -/
theorem leavesFrozen_enter {change : Registry → Registry}
    (h : ∀ r, (change r).isFrozen = r.isFrozen) :
    LeavesFrozen (apply fun r =>
      if r.isFrozen then .error .frozenRegistry else .ok (change r)) := by
  refine leavesFrozen_apply fun r r' hchange => ?_
  split at hchange
  · cases hchange
  · obtain rfl := Except.ok.inj hchange
    exact h r

/-- Declaring a class freezes nothing. -/
theorem leavesFrozen_declare (node : ClassNode) : LeavesFrozen (apply (·.declare node)) :=
  leavesFrozen_enter fun r => show (r.register node).isFrozen = r.isFrozen from rfl

/-- Nor does registering one that is there. -/
theorem leavesFrozen_declareAgain (c : ClassId) : LeavesFrozen (apply (·.declareAgain c)) :=
  leavesFrozen_enter fun r => show (r.enter c).isFrozen = r.isFrozen from rfl

/-- Nor does recording a property and attaching it to its owners. -/
theorem leavesFrozen_addProperty (property : PropertyNode) (owners : List ClassId) :
    LeavesFrozen (addProperty property owners) :=
  leavesFrozen_registry_bind fun registry =>
    (leavesFrozen_forM (fun owner =>
        leavesFrozen_edit (.attachProperty registry.properties.size owner)) owners).bind
      fun _ => LeavesFrozen.bind_pure (fun _ => rfl) _

/-- Nor does making a value known to a class, whatever the value is. -/
theorem leavesFrozen_addValue (settings : Settings) (c : ClassId) (value : Value) :
    LeavesFrozen (addValue settings c value) := by
  refine leavesFrozen_registry_bind fun registry => ?_
  split
  · exact leavesFrozen_throw _
  refine leavesFrozen_registry_bind fun registry => ?_
  -- a comment, a parent, a replacement, or nothing that the class has a use for
  cases value.comment? settings.lang with
  | some text =>
    refine LeavesFrozen.bind_pure ?_ _
    refine leavesFrozen_registry_bind fun registry => ?_
    split
    · -- a second description is reported
      exact (leavesFrozen_note _ _).bind fun _ => leavesFrozen_edit (.describe c text)
    · exact leavesFrozen_edit (.describe c text)
  | none =>
    dsimp only
    cases value.reference? .subClassOf with
    | some reference =>
      exact (leavesFrozen_resolve _ _ _).bind fun parent =>
        (leavesFrozen_edit (.link c parent)).bind_pure _
    | none =>
      dsimp only
      cases value.reference? .supersededBy with
      | some reference =>
        exact (leavesFrozen_resolve _ _ _).bind fun target =>
          (leavesFrozen_edit (.supersede c target)).bind_pure _
      | none => exact leavesFrozen_pure _

/-- The property of a topic is read, recorded, attached and reported about; nothing of that freezes.
-/
theorem leavesFrozen_resolveProperty (settings : Settings) (topic : Topic) :
    LeavesFrozen (resolveProperty settings topic) :=
  leavesFrozen_registry_bind fun _ => (leavesFrozen_ofAttempt _).bind fun _ =>
    (leavesFrozen_addProperty _ _).bind fun _ =>
      (leavesFrozen_report _ _ _ _ _ _).bind_pure _

/-- The same holds of the member that a topic describes. -/
theorem leavesFrozen_resolveMember (settings : Settings) (topic : Topic) :
    LeavesFrozen (resolveMember settings topic) := by
  unfold resolveMember memberOwner?
  cases topic.types.find? (!·.isMetaType) with
  | none => exact leavesFrozen_pure none
  | some tag =>
    simp only [bind_assoc, pure_bind]
    refine (leavesFrozen_resolve _ _ _).bind fun owner => ?_
    refine (leavesFrozen_ofAttempt _).bind fun draft => ?_
    refine (leavesFrozen_report _ _ _ _ _ _).bind fun _ => ?_
    let member : MemberNode := ⟨topic.subject, draft.comment⟩
    exact (leavesFrozen_edit (.attachMember member owner)).bind_pure _

end Build

namespace Operation

open Build

/-- Classes are looked up without freezing anything. -/
theorem leavesFrozen_named (reference : ClassRef) : LeavesFrozen (named reference) := by
  cases reference with
  | named identifier => exact leavesFrozen_resolve _ _ _
  | held c =>
    refine leavesFrozen_registry_bind fun registry => ?_
    split
    · exact leavesFrozen_pure _
    · exact leavesFrozen_throw _

/-- Nothing freezes a registry but a freeze. -/
theorem leavesFrozen_run (settings : Settings) {op : Operation} (hop : op ≠ .freeze) :
    LeavesFrozen (op.run settings) := by
  -- each of the other operations looks up what it works on and then makes its changes
  cases op with
  | seed namespaceIri =>
    exact (leavesFrozen_forM (fun _ => leavesFrozen_declare _) _).bind_pure _
  | declare subject => exact (leavesFrozen_declare _).bind_pure _
  | create subject primitive => exact LeavesFrozen.bind_pure (fun _ => rfl) _
  | declareAgain reference =>
    exact (leavesFrozen_named reference).bind fun _ =>
      (leavesFrozen_declareAgain _).bind_pure _
  | link child parent =>
    refine (leavesFrozen_named child).bind fun child => ?_
    refine (leavesFrozen_named parent).bind fun parent => ?_
    exact (leavesFrozen_edit (.link child parent)).bind_pure _
  | add reference value =>
    exact (leavesFrozen_named reference).bind fun _ =>
      (leavesFrozen_addValue settings _ value).bind_pure _
  | property owner subject description range =>
    exact (leavesFrozen_mapM (fun _ => leavesFrozen_named _) range).bind fun _ =>
      (leavesFrozen_named owner).bind fun _ =>
        (leavesFrozen_addProperty _ _).bind_pure _
  | share owner id =>
    exact (leavesFrozen_named owner).bind fun owner =>
      (leavesFrozen_edit (.attachProperty id owner)).bind_pure _
  | member owner subject comment =>
    let member : MemberNode := ⟨subject, comment⟩
    exact (leavesFrozen_named owner).bind fun owner =>
      (leavesFrozen_edit (.attachMember member owner)).bind_pure _
  | propertyTopic topic =>
    exact (leavesFrozen_resolveProperty settings topic).bind_pure _
  | memberTopic topic =>
    exact (leavesFrozen_resolveMember settings topic).bind_pure _
  | freeze => exact absurd rfl hop

/-- Refused or not, an operation that is no freeze leaves a registry frozen or not. -/
theorem isFrozen_after {step : Settings × Operation} (hstep : step.2 ≠ .freeze) (w : Workspace) :
    (after w step).registry.isFrozen = w.registry.isFrozen := by
  have hrun := leavesFrozen_run step.1 hstep w
  rw [after]
  -- the workspace afterwards is the one that the operation has ended with, either way
  cases hw : step.2.run step.1 w <;> rw [hw] at hrun <;> exact hrun

end Operation

/-- The classes that are registered when a freeze is asked for are frozen from then on. -/
theorem isFrozenClass_of_freeze {before : List (Settings × Operation)} {c : ClassId}
    (hc : c ∈ (runAll {} before).registry.registered) (settings : Settings)
    (after : List (Settings × Operation)) :
    (runAll {} (before ++ (settings, .freeze) :: after)).registry.isFrozenClass c = true := by
  let frozen : Workspace := Operation.after (runAll {} before) (settings, .freeze)
  -- the freeze ends the first part of the run, and the second part starts from a frozen registry
  have hrun : runAll {} (before ++ (settings, .freeze) :: after) = runAll frozen after := by
    rw [runAll, List.foldl_append]
    rfl
  have hbefore : (runAll {} before).registry.Sound := Reachable.sound ⟨before, rfl⟩
  have hsound : frozen.registry.Sound := hbefore.reaches (Operation.reaches_after hbefore _)
  obtain ⟨hf, hretains⟩ := Registry.retains_of_reaches hsound rfl (reaches_runAll hsound after)
  rw [hrun]
  refine Registry.isFrozenClass_of_registered hf ?_
  rw [hretains.registered]
  exact hc

/-- A class that is frozen was registered when a freeze was asked for. The induction goes back over
the operations to the first freeze, since no class has been registered after that. -/
theorem exists_freeze_of_isFrozenClass {steps : List (Settings × Operation)} {c : ClassId}
    (hfrozen : (runAll {} steps).registry.isFrozenClass c = true) :
    ∃ before settings after, steps = before ++ (settings, .freeze) :: after ∧
      c ∈ (runAll {} before).registry.registered := by
  induction steps using List.reverseRecOn with
  | nil => cases hfrozen
  | append_singleton steps step ih =>
    rw [runAll_append_singleton, Registry.isFrozenClass, Bool.and_eq_true,
      List.contains_iff_mem] at hfrozen
    obtain ⟨hnow, hc⟩ := hfrozen
    have hsound : (runAll {} steps).registry.Sound := Reachable.sound ⟨steps, rfl⟩
    cases hearlier : (runAll {} steps).registry.isFrozen with
    | true =>
      -- the registry was frozen before the last operation, so the class was registered by then
      have hretains := (Registry.retains_of_reaches hsound hearlier
        (Operation.reaches_after hsound step)).2
      rw [hretains.registered] at hc
      obtain ⟨before, settings, after, rfl, hbefore⟩ :=
        ih (Registry.isFrozenClass_of_registered hearlier hc)
      exact ⟨before, settings, after ++ [step], by simp, hbefore⟩
    | false =>
      -- only a freeze can have made the difference
      obtain ⟨settings, op⟩ := step
      by_cases hop : op = .freeze
      · subst hop
        exact ⟨steps, settings, [], rfl, hc⟩
      · rw [Operation.isFrozen_after hop, hearlier] at hnow
        cases hnow

/-- **Which classes are frozen.** After any operations, refused or not, a class is frozen exactly if
one of them was a freeze and the class was registered at the time. -/
theorem isFrozenClass_runAll_iff (steps : List (Settings × Operation)) (c : ClassId) :
    (runAll {} steps).registry.isFrozenClass c = true ↔
      ∃ before settings after, steps = before ++ (settings, .freeze) :: after ∧
        c ∈ (runAll {} before).registry.registered := by
  constructor
  · exact exists_freeze_of_isFrozenClass
  · rintro ⟨before, settings, after, rfl, hc⟩
    exact isFrozenClass_of_freeze hc settings after

/-! ## What is refused -/

namespace Value

/-- What a value refers to by an edge of the given kind, if that is the name of no class. -/
def dangling? (find : String → Option ClassId) (word : Vocabulary) (value : Value) :
    Option String :=
  ((value.reference? word).map Term.text).filter fun identifier => (find identifier).isNone

/-- Why a property is refused for one of the values of its topic, if it is: for a class of its range
or a class that is to own it, if that is not there. -/
def refusal? (find : String → Option ClassId) (subject : String) (value : Value) : Option Error :=
  ((value.dangling? find .rangeIncludes).map fun identifier =>
      .unresolvedReference subject identifier "range class").or
    ((value.dangling? find .domainIncludes).map fun identifier =>
      .unresolvedReference subject identifier "domain class")

/-- What is no reference does not dangle. -/
@[simp] theorem dangling?_of_reference?_eq_none {find : String → Option ClassId} {word : Vocabulary}
    {value : Value} (h : value.reference? word = none) : value.dangling? find word = none := by
  rw [dangling?, h]
  rfl

/-- A reference dangles exactly if it names no class. -/
theorem dangling?_of_reference? {find : String → Option ClassId} {word : Vocabulary}
    {value : Value} {node : Term} (h : value.reference? word = some node) :
    value.dangling? find word = if (find node.text).isNone then some node.text else none := by
  rw [dangling?, h, Option.map_some, Option.filter_some]

end Value

namespace Registry

/-- Why one of some classes cannot be changed, if one of them cannot. -/
def frozenAmong? (registry : Registry) (classes : List ClassId) : Option Error :=
  (classes.find? registry.isFrozenClass).map fun c => .frozenClass (registry.subjectText c)

/-- Why the property of a topic is refused, if it is. -/
def propertyRefusal? (registry : Registry) (topic : Topic) : Option Error :=
  (topic.values.findSome? (Value.refusal? registry.get? topic.subject.text)).or
    (registry.frozenAmong? (topic.targets registry.get? .domainIncludes))

/-- Why the member that a topic describes is refused, if it is. -/
def memberRefusal? (registry : Registry) (topic : Topic) : Option Error :=
  topic.memberTag?.bind fun tag =>
    match registry.get? tag.text with
    | none => some (.unresolvedReference topic.subject.text tag.text "enumeration type")
    | some owner => registry.frozenAmong? [owner]

end Registry

/-- What succeeds has not been refused. -/
theorem eq_none_of_eq_ok {x : Except Error α} {refusal? : Option Error} {a : α}
    (hrefused : ∀ e, x = .error e ↔ refusal? = some e) (hx : x = .ok a) : refusal? = none := by
  rw [Option.eq_none_iff_forall_ne_some]
  intro e hrefusal
  rw [(hrefused e).mpr hrefusal] at hx
  cases hx

namespace PropertyDraft

variable {settings : Settings} {registry : Registry} {subject : String}

/-- A value is refused for a reference to no class, and for nothing else. -/
theorem outcome_readValue_eq_error_iff {draft : PropertyDraft} {value : Value} {e : Error} :
    (readValue settings registry subject draft value).outcome = .error e ↔
      value.refusal? registry.get? subject = some e := by
  unfold readValue Value.refusal?
  -- the questions are put to the value in the order in which the pass puts them; only the
  -- references to a range and to an owner can be refused
  by_cases hl : value.predicate = .known .label
  · simp [hl, Value.reference?_eq_none_of_predicate]
  simp only [if_neg hl]
  cases hc : value.comment? settings.lang with
  | some text =>
    have hp := Value.predicate_of_comment? hc
    by_cases hd : draft.property.description.isSome = true <;>
      simp [hd, hp, Value.reference?_eq_none_of_predicate, Attempt.outcome_bind, Except.bind,
        -bind_pure_comp]
  | none =>
    cases hr : value.reference? .rangeIncludes with
    | some node =>
      have hp := Value.predicate_of_reference? hr
      have hnot : value.reference? .domainIncludes = none := by
        simp [Value.reference?_eq_none_of_predicate, hp]
      cases hf : registry.get? node.text <;>
        simp [Value.dangling?_of_reference? hr, hnot, hf, Registry.resolve, Attempt.outcome_bind,
          Except.bind, -bind_pure_comp]
    | none =>
      cases hd : value.reference? .domainIncludes with
      | some node =>
        cases hf : registry.get? node.text <;>
          simp [Value.dangling?_of_reference? hd, hr, hf, Registry.resolve, Attempt.outcome_bind,
            Except.bind, -bind_pure_comp]
      | none => cases hs : value.reference? .supersededBy <;> simp [hr, hd]

/-- The values of a topic are refused for the first one that is. -/
theorem outcome_foldlM_readValue_eq_error_iff (values : List Value) (draft : PropertyDraft)
    {e : Error} :
    (values.foldlM (readValue settings registry subject) draft).outcome = .error e ↔
      values.findSome? (Value.refusal? registry.get? subject) = some e := by
  induction values generalizing draft with
  | nil => simp
  | cons value values ih =>
    rw [List.foldlM_cons, Attempt.outcome_bind, List.findSome?_cons]
    cases hfirst : (readValue settings registry subject draft value).outcome with
    | error e' =>
      rw [outcome_readValue_eq_error_iff.mp hfirst]
      simp [Except.bind]
    | ok next =>
      rw [eq_none_of_eq_ok (fun _ => outcome_readValue_eq_error_iff) hfirst]
      exact ih next

end PropertyDraft

namespace Registry

variable {settings : Settings} {registry : Registry}

/-- A property is attached to some classes one after another, until one of them is frozen. -/
theorem foldlM_attachProperty_eq (registry : Registry) (id : PropertyId) (owners : List ClassId) :
    owners.foldlM (fun r owner => attachProperty r id owner) registry =
      match registry.frozenAmong? owners with
      | some e => .error e
      | none => .ok (Edit.performAll registry (owners.map (.attachProperty id))) := by
  induction owners generalizing registry with
  | nil => rfl
  | cons owner owners ih =>
    rw [List.foldlM_cons, attachProperty, change, frozenAmong?, List.find?_cons]
    cases hfrozen : registry.isFrozenClass owner with
    -- the first owner refuses, and that ends it
    | true => rfl
    | false =>
      -- what is attached to one class does not change which classes are frozen
      let edit : Edit := .attachProperty id owner
      have hsame : (edit.perform registry).frozenAmong? owners = registry.frozenAmong? owners := by
        have hthawed : (edit.perform registry).isFrozenClass = registry.isFrozenClass := rfl
        have htext := funext (subjectText_performAll registry [edit])
        rw [frozenAmong?, hthawed, show (edit.perform registry).subjectText = _ from htext]
        rfl
      have hrest := ih (edit.perform registry)
      rw [hsame] at hrest
      exact hrest

/-- The property of a topic is attached to all of its owners unless there is a reason to refuse it,
in a frozen registry as in any other. -/
theorem attachPropertyOf_eq (settings : Settings) (registry : Registry) (topic : Topic) :
    registry.attachPropertyOf settings topic =
      match registry.propertyRefusal? topic with
      | some e => .error e
      | none => .ok ((Edit.performAll registry
          (topic.propertyEdits registry.get? registry.properties.size)).pushProperty
            (topic.propertyNode settings.lang registry.get?)) := by
  -- what the topic is read as, and why it is refused otherwise
  have hread := @PropertyDraft.outcome_foldlM_readValue settings registry
    topic.subject.text topic.values { property := { subject := topic.subject } }
  have hrefused := @PropertyDraft.outcome_foldlM_readValue_eq_error_iff settings registry
    topic.subject.text topic.values { property := { subject := topic.subject } }
  rw [attachPropertyOf, propertyRefusal?, PropertyDraft.ofTopic]
  cases hdraft : (topic.values.foldlM (PropertyDraft.readValue settings registry
      topic.subject.text) { property := { subject := topic.subject } }).outcome with
  | error e =>
    rw [hrefused.mp hdraft]
    rfl
  | ok draft =>
    have hnone := eq_none_of_eq_ok (fun _ => hrefused) hdraft
    obtain ⟨hproperty, hdomains⟩ := (hread.1 draft hdraft).2
    rw [List.nil_append] at hdomains
    -- the owners are those that the values of the topic name
    have htargets : draft.domains = topic.targets registry.get? .domainIncludes := hdomains
    -- reading has given no reason, so the owners decide
    rw [hnone, Option.none_or, Except.bind, addProperty, foldlM_attachProperty_eq, htargets]
    cases registry.frozenAmong? (topic.targets registry.get? .domainIncludes) with
    | some e => rfl
    | none =>
      rw [hproperty]
      simp [Except.bind, Topic.propertyEdits, Topic.propertyNode, Topic.targets, Topic.comments,
        Topic.references]

/-- The member that a topic describes is attached to its class unless there is a reason to refuse
it. -/
theorem attachMemberOf_eq (settings : Settings) (registry : Registry) (topic : Topic) :
    registry.attachMemberOf settings topic =
      match registry.memberRefusal? topic with
      | some e => .error e
      | none => .ok (Edit.performAll registry (topic.memberEdits settings.lang registry.get?)) := by
  unfold attachMemberOf memberRefusal? Topic.memberEdits Topic.memberTag?
  rw [MemberDraft.comment_ofTopic]
  cases topic.types.find? (!·.isMetaType) with
  -- a topic without a type tag is not refused, and changes nothing
  | none => rfl
  | some tag =>
    simp only [Option.bind_some, resolve]
    cases registry.get? tag.text with
    | none => rfl
    | some owner =>
      simp only [Except.bind, attachMember, change, frozenAmong?, List.find?_cons, List.find?_nil]
      cases registry.isFrozenClass owner <;> rfl

end Registry

/-! ## Topics that are refused -/

namespace Build

variable {w : Workspace}

/-- A build that fails for the reason there is to refuse it and leaves the registry as it was, or
that ends as `good` says if there is no such reason. -/
def Settles (x : Build α) (w : Workspace) (refusal? : Option Error)
    (good : α → Registry → Prop) : Prop :=
  match x w with
  | .ok a w' => refusal? = none ∧ good a w'.registry
  | .error e w' => refusal? = some e ∧ w'.registry = w.registry

/-- A refusal has a reason and changes nothing. -/
theorem Settles.of_error {x : Build α} {refusal? : Option Error} {good : α → Registry → Prop}
    (h : Settles x w refusal? good) {e : Error} {w' : Workspace} (hx : x w = .error e w') :
    refusal? = some e ∧ w'.registry = w.registry := by
  unfold Settles at h
  rw [hx] at h
  exact h

/-- A build settles if it is all or nothing and what it makes of the registry is known. What it is
known to make of the registry tells when it fails and why; that it is all or nothing tells what is
left behind then. -/
theorem AllOrNothing.settles {x : Build α} {good : α → Registry → Prop} {known : α → Prop}
    {refusal? : Option Error} {registry : Registry} (h : AllOrNothing x w good)
    (hchanged : changed x w =
      match refusal? with
      | some e => .error e
      | none => .ok registry)
    (hknown : ∀ a w', x w = .ok a w' → known a) :
    Settles x w refusal? fun a r => known a ∧ r = registry := by
  unfold AllOrNothing at h
  unfold changed at hchanged
  unfold Settles
  cases hx : x w with
  | ok a w' =>
    rw [hx] at hchanged
    cases refusal? with
    -- it ends well, so there was no reason to refuse it
    | some e => cases hchanged
    | none => exact ⟨rfl, hknown a w' hx, Except.ok.inj hchanged⟩
  | error e w' =>
    rw [hx] at h hchanged
    cases refusal? with
    -- it fails, so there was a reason, and it is the one that is reported
    | some e' => exact ⟨congrArg some (Except.error.inj hchanged).symm, h⟩
    | none => cases hchanged

/-- A new property is the last one there is. -/
theorem id_of_addProperty {property : PropertyNode} {owners : List ClassId} {id : PropertyId}
    {w' : Workspace} (h : addProperty property owners w = .ok id w') :
    id = w.registry.properties.size := by
  obtain ⟨registry, w₀, hregistry, h⟩ := exists_of_bind_eq_ok h
  cases hregistry
  obtain ⟨_, w₁, -, h⟩ := exists_of_bind_eq_ok h
  obtain ⟨_, w₂, -, h⟩ := exists_of_bind_eq_ok h
  cases h
  rfl

/-- The property of a topic is the last one there is, too: reading the topic comes before it is
recorded and adds none. -/
theorem id_of_resolveProperty {settings : Settings} {topic : Topic} {id : PropertyId}
    {w' : Workspace} (h : resolveProperty settings topic w = .ok id w') :
    id = w.registry.properties.size := by
  obtain ⟨registry, w₀, hregistry, h⟩ := exists_of_bind_eq_ok h
  cases hregistry
  obtain ⟨draft, w₁, hdraft, h⟩ := exists_of_bind_eq_ok h
  obtain ⟨id', w₂, hadd, h⟩ := exists_of_bind_eq_ok h
  obtain ⟨_, w₃, -, h⟩ := exists_of_bind_eq_ok h
  cases h
  -- reading the topic has not changed the registry
  have hread := reads_ofAttempt (w := w) (PropertyDraft.ofTopic settings w.registry topic)
  rw [Reads, AllOrNothing, hdraft] at hread
  rw [← hread.2]
  exact id_of_addProperty hadd

/-- The property of a topic is attached to all of its owners, or to none. -/
theorem settles_resolveProperty (settings : Settings) (topic : Topic) (w : Workspace) :
    Settles (resolveProperty settings topic) w (w.registry.propertyRefusal? topic) fun id r =>
      id = w.registry.properties.size ∧
        r = (Edit.performAll w.registry
          (topic.propertyEdits w.registry.get? w.registry.properties.size)).pushProperty
            (topic.propertyNode settings.lang w.registry.get?) :=
  (allOrNothing_resolveProperty settings topic).settles
    ((changed_resolveProperty settings topic w).trans
      (Registry.attachPropertyOf_eq settings w.registry topic))
    fun _ _ => id_of_resolveProperty

/-- The member that a topic describes is attached to its class, or nothing is. -/
theorem settles_resolveMember (settings : Settings) (topic : Topic) (w : Workspace) :
    Settles (resolveMember settings topic) w (w.registry.memberRefusal? topic) fun member r =>
      member = (topic.memberTag?.map fun _ => topic.memberNode settings.lang) ∧
        r = Edit.performAll w.registry (topic.memberEdits settings.lang w.registry.get?) :=
  (allOrNothing_resolveMember settings topic).settles
    ((changed_resolveMember settings topic w).trans
      (Registry.attachMemberOf_eq settings w.registry topic))
    (yields_resolveMember topic w)

end Build

/-- **Topics are taken or refused as a whole.** After any operations, a freeze among them or not,
the property of a topic is attached to every class that is to own it, or the topic is refused. It is
refused for the first of its references to the range or to an owner that cannot be followed, else
for its first owner if that is frozen, and for nothing else. A member is attached to the class of
its type tag, or its topic is refused because there is no such class or it is frozen. Whatever the
reason, no class, property or member is different after a refusal from what it was before. -/
theorem settles_runAll (steps : List (Settings × Operation)) (settings : Settings) (topic : Topic) :
    let w := runAll {} steps
    (Build.Settles (Build.resolveProperty settings topic) w (w.registry.propertyRefusal? topic)
      fun id r =>
        id = w.registry.properties.size ∧
          r = (Edit.performAll w.registry
            (topic.propertyEdits w.registry.get? w.registry.properties.size)).pushProperty
              (topic.propertyNode settings.lang w.registry.get?)) ∧
    (Build.Settles (Build.resolveMember settings topic) w (w.registry.memberRefusal? topic)
      fun member r =>
        member = (topic.memberTag?.map fun _ => topic.memberNode settings.lang) ∧
          r = Edit.performAll w.registry (topic.memberEdits settings.lang w.registry.get?)) :=
  ⟨Build.settles_resolveProperty settings topic _, Build.settles_resolveMember settings topic _⟩

/-- A property that ranges over a class that is not there, named after two owners that are. The
owner after it is not there either. -/
def nearby : Topic :=
  { subject := .iri "http://schema.org/nearby", types := [.iri propertyType]
    values := [⟨.known .rangeIncludes, .iri "http://schema.org/Place"⟩,
      ⟨.known .domainIncludes, .iri "http://schema.org/Place"⟩,
      ⟨.known .domainIncludes, .iri "http://schema.org/Thing"⟩,
      ⟨.known .rangeIncludes, .iri "http://schema.org/Nowhere"⟩,
      ⟨.known .domainIncludes, .iri "http://schema.org/Elsewhere"⟩] }

/-- The first reference that cannot be followed is the reason, though two owners have been found
before it. Without the last two values it is the first owner once the registry is frozen. -/
theorem settles_runAll_nearby :
    let frozen := runAll {} (thingBelowPlace ++ [(({} : Settings), .freeze)])
    let found : Topic := { nearby with values := nearby.values.take 3 }
    (∃ w', Build.resolveProperty {} nearby (runAll {} thingBelowPlace) =
        .error (.unresolvedReference "http://schema.org/nearby" "http://schema.org/Nowhere"
          "range class") w' ∧
      w'.registry = (runAll {} thingBelowPlace).registry) ∧
    (∃ w', Build.resolveProperty {} found frozen =
        .error (.frozenClass "http://schema.org/Place") w' ∧
      w'.registry = frozen.registry) := by
  intro frozen found
  have hmissing : ∃ w', Build.resolveProperty {} nearby (runAll {} thingBelowPlace) =
      .error (.unresolvedReference "http://schema.org/nearby" "http://schema.org/Nowhere"
        "range class") w' := ⟨_, by cbv⟩
  have hrefused : ∃ w', Build.resolveProperty {} found frozen =
      .error (.frozenClass "http://schema.org/Place") w' := ⟨_, by cbv⟩
  obtain ⟨w₁, hw₁⟩ := hmissing
  obtain ⟨w₂, hw₂⟩ := hrefused
  have hbefore := (settles_runAll thingBelowPlace {} nearby).1
  have hafter := (settles_runAll (thingBelowPlace ++ [(({} : Settings), .freeze)]) {} found).1
  exact ⟨⟨w₁, hw₁, (hbefore.of_error hw₁).2⟩, w₂, hw₂, (hafter.of_error hw₂).2⟩

end OntoTypes
