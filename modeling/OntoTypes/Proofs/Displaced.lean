import OntoTypes.Proofs.Declaring
import OntoTypes.Proofs.Freezing

/-!
# Displaced classes

A class that is declared under an identifier in use takes the place of the class registered there.
Whatever refers to the old class still does: it has children or supersedes others, but its
identifier leads to the new class, which has nothing of the kind. From then on the classes and their
identifiers tell different stories, and the parent relation may have cycles among identifiers though
it has none among classes.

Nothing else has this effect. References and identifiers agree as long as no operation declares anew
the identifier of a class that another class refers to, unless it declares the other one anew too.

Main definitions and results:

* `Registry.IsClosed` — references lead to what is registered;
* `Registry.Displaces` — declarations that leave a reference behind;
* `Registry.IsClosed.registerAll_iff`, `Operation.refersWithin_of_changed` — what declarations and
  what other operations do to the references;
* `Operation.isClosed_after_iff`, `isClosed_runAll_iff` — closed registries after one operation by
  identifier, and after any number of them.
-/

namespace OntoTypes

/-! ## References -/

/-- The classes that a class refers to. -/
def ClassNode.references (node : ClassNode) : List ClassId :=
  node.parents ++ node.children ++ node.supersededBy

/-- The classes that are referred to after an edit. -/
def Edit.referents : Edit → List ClassId
  | link child parent => [child, parent]
  | supersede _ target => [target]
  | _ => []

/-- Which edit sets what a class is superseded by. -/
theorem Edit.target?_eq_some_iff {edit : Edit} {c d : ClassId} :
    edit.target? c = some d ↔ edit = .supersede c d := by
  cases edit <;> simp [target?]

/-- The references of an edited class are those that it had and those of the edits. -/
theorem ClassNode.mem_references_edited {c d : ClassId} {edits : List Edit} {node : ClassNode}
    (h : d ∈ (node.edited c edits).references) :
    d ∈ node.references ∨ ∃ edit ∈ edits, d ∈ edit.referents := by
  simp only [references, edited, List.mem_append, List.mem_filterMap, Edit.parent?_eq_some_iff,
    Edit.child?_eq_some_iff, Edit.target?_eq_some_iff, exists_eq_right] at h ⊢
  -- a parent, a child or a superseding class, each of them from before or from an edit
  rcases h with ((h | h) | (h | h)) | (h | h)
  · exact .inl (.inl (.inl h))
  · exact .inr ⟨_, h, by simp [Edit.referents]⟩
  · exact .inl (.inl (.inr h))
  · exact .inr ⟨_, h, by simp [Edit.referents]⟩
  · exact .inl (.inr h)
  · exact .inr ⟨_, h, by simp [Edit.referents]⟩

namespace Registry

/-- The classes that a class refers to. -/
def references (registry : Registry) (c : ClassId) : List ClassId :=
  ((registry.node? c).map (·.references)).getD []

/-- Whatever a registered class refers to is registered under its identifier. -/
def IsClosed (registry : Registry) : Prop :=
  ∀ c ∈ registry.registered, ∀ d ∈ registry.references c,
    registry.get? (registry.subjectText d) = some d

/-- The class registered under `child` has a parent whose identifier is `parent`. -/
def HasParentNamed (registry : Registry) (child parent : String) : Prop :=
  ∃ c p, registry.get? child = some c ∧ registry.HasParent c p ∧ registry.subjectText p = parent

/-- No identifier is above itself. -/
def AcyclicByName (registry : Registry) : Prop :=
  ∀ identifier, ¬ Relation.TransGen registry.HasParentNamed identifier identifier

/-- Identifiers lead to classes of which they are the identifiers. -/
structure Indexed (registry : Registry) : Prop where
  keys : (Keyed.keys registry.index).Nodup
  text : ∀ identifier c, registry.get? identifier = some c → registry.subjectText c = identifier

variable {registry registry' : Registry}

/-- Edits leave the subjects of classes as they are. -/
theorem subjectText_performAll (registry : Registry) (edits : List Edit) (c : ClassId) :
    (Edit.performAll registry edits).subjectText c = registry.subjectText c := by
  rw [subjectText, Edit.node?_performAll, subjectText, Option.map_map]
  rfl

/-! ## Identifiers lead to their classes -/

/-- In an empty registry no identifier leads anywhere. -/
theorem indexed_empty : Indexed {} := ⟨.nil, by simp [get?]⟩

/-- A registered class is found under its own identifier. -/
theorem Indexed.get?_subjectText (h : registry.Indexed) {c : ClassId}
    (hc : c ∈ registry.registered) : registry.get? (registry.subjectText c) = some c := by
  obtain ⟨⟨identifier, d⟩, hentry, rfl⟩ := List.mem_map.mp hc
  have hget : registry.get? identifier = some d := (Keyed.lookup_eq_some_iff_mem h.keys).mpr hentry
  rw [h.text identifier d hget, hget]

/-- What is registered already stays where it is when it is declared again. -/
theorem Indexed.enter_eq (h : registry.Indexed) {c : ClassId} (hc : c ∈ registry.registered) :
    registry.enter c = registry := by
  have hlookup : registry.index.lookup (registry.subjectText c) = some c := h.get?_subjectText hc
  -- what is entered is there already, so no lookup changes, and neither do the keys
  have hindex : Keyed.set (registry.subjectText c) c registry.index = registry.index := by
    refine Keyed.eq_of_lookup (Keyed.nodup_keys_set h.keys _ _) ?_ fun key => ?_
    · rw [Keyed.keys_set, if_pos]
      exact List.mem_map_of_mem ((Keyed.lookup_eq_some_iff_mem h.keys).mp hlookup)
    · by_cases hkey : key = registry.subjectText c
      · rw [hkey, Keyed.lookup_set_self, hlookup]
      · exact Keyed.lookup_set_of_ne hkey _ _
  rw [enter, hindex]

/-- **Whatever a step does, identifiers lead to classes that have them.** -/
theorem Indexed.step (h : registry.Indexed) (hsound : registry.Sound)
    (hstep : registry.Step registry') : registry'.Indexed := by
  cases hstep with
  | push subject primitive =>
    -- the new class comes after all that are registered
    refine ⟨h.keys, fun identifier c hget => ?_⟩
    have hne := Nat.ne_of_lt (hsound.registered_lt c (mem_registered_of_get? hget))
    rw [subjectText, node?_pushClass, if_neg hne]
    exact h.text identifier c hget
  | enter c _ _ =>
    -- the identifier of the class leads to it now, and the others lead where they led before
    refine ⟨Keyed.nodup_keys_set h.keys _ _, fun identifier d hget => ?_⟩
    by_cases hid : identifier = registry.subjectText c
    · rw [get?, enter, hid, Keyed.lookup_set_self] at hget
      obtain rfl := Option.some.inj hget
      exact hid.symm
    · rw [get?, enter, Keyed.lookup_set_of_ne hid] at hget
      exact h.text identifier d hget
  | edit edit _ _ _ =>
    -- edits change no identifier and no subject
    refine ⟨(Edit.index_perform registry edit).symm ▸ h.keys, fun identifier c hget => ?_⟩
    rw [get?, Edit.index_perform] at hget
    exact (subjectText_performAll registry [edit] c).trans (h.text identifier c hget)
  | pushProperty _ | freeze => exact ⟨h.keys, h.text⟩

/-- So they do after any number of steps. -/
theorem Indexed.reaches (h : registry.Indexed) (hsound : registry.Sound)
    (hreaches : registry.Reaches registry') : registry'.Indexed := by
  induction hreaches with
  | refl => exact h
  | tail hnext hstep ih => exact ih.step (hsound.reaches hnext) hstep

/-! ## Closed registries -/

/-- An empty registry has no classes that could refer to any. -/
theorem isClosed_empty : IsClosed {} := by
  simp [IsClosed, registered]

/-- Parents are referred to. -/
theorem HasParent.mem_references {c p : ClassId} (h : registry.HasParent c p) :
    p ∈ registry.references c := by
  unfold HasParent parents at h
  unfold references
  cases hnode : registry.node? c with
  | none => simp [hnode] at h
  | some node =>
    rw [hnode] at h
    exact List.mem_append_left _ (List.mem_append_left _ h)

/-- In a closed registry, a path of identifiers is a path of the classes registered under them. -/
theorem IsClosed.exists_hasAncestor (h : registry.IsClosed) {child ancestor : String}
    (hpath : Relation.TransGen registry.HasParentNamed child ancestor) :
    ∃ c a, registry.get? child = some c ∧ registry.get? ancestor = some a ∧
      registry.HasAncestor c a := by
  -- in a closed registry, the subject of a parent leads back to it
  have hget : ∀ {c p}, c ∈ registry.registered → registry.HasParent c p →
      registry.get? (registry.subjectText p) = some p :=
    fun hc hp => h _ hc _ hp.mem_references
  induction hpath with
  | single hedge =>
    obtain ⟨c, p, hchild, hp, rfl⟩ := hedge
    exact ⟨c, p, hchild, hget (mem_registered_of_get? hchild) hp, .single hp⟩
  | tail _ hedge ih =>
    obtain ⟨c, b, hchild, hb, hpath⟩ := ih
    -- the class in the middle is the same one, as its identifier leads to one class only
    obtain ⟨b', p, hb', hp, rfl⟩ := hedge
    obtain rfl := Option.some.inj (hb.symm.trans hb')
    exact ⟨c, p, hchild, hget (mem_registered_of_get? hb) hp, hpath.tail hp⟩

/-- **No identifier is above itself in a closed registry.** -/
theorem IsClosed.acyclicByName (h : registry.IsClosed) (hsound : registry.Sound) :
    registry.AcyclicByName := by
  intro identifier hcycle
  obtain ⟨c, a, hc, ha, hpath⟩ := h.exists_hasAncestor hcycle
  obtain rfl := Option.some.inj (hc.symm.trans ha)
  exact hsound.acyclic c hpath

/-- The same classes are registered, and they come to refer to nothing but registered classes. -/
structure RefersWithin (registry registry' : Registry) : Prop where
  index : registry'.index = registry.index
  text : registry'.subjectText = registry.subjectText
  references : ∀ c, ∀ d ∈ registry'.references c,
    d ∈ registry.references c ∨ d ∈ registry.registered

/-- If neither classes nor identifiers change, references do not. -/
theorem RefersWithin.of_classes (hindex : registry'.index = registry.index)
    (hclasses : registry'.classes = registry.classes) : registry.RefersWithin registry' where
  index := hindex
  text := by
    funext c
    rw [subjectText, node?, hclasses, subjectText, node?]
  references := by
    intro c d hd
    rw [Registry.references, node?, hclasses] at hd
    exact .inl hd

/-- A closed registry stays closed, if references are added to registered classes only: identifiers
lead where they led before, and classes keep their subjects. -/
theorem IsClosed.refersWithin (h : registry.IsClosed) (hindexed : registry.Indexed)
    (hwithin : registry.RefersWithin registry') : registry'.IsClosed := by
  intro c hc d hd
  rw [registered, hwithin.index] at hc
  rw [get?, hwithin.index, hwithin.text]
  rcases hwithin.references c d hd with hd | hd
  · exact h c hc d hd
  · exact hindexed.get?_subjectText hd

/-- Edits may add references to registered classes. -/
theorem refersWithin_performAll {edits : List Edit}
    (h : ∀ edit ∈ edits, ∀ d ∈ edit.referents, d ∈ registry.registered) :
    registry.RefersWithin (Edit.performAll registry edits) where
  index := Edit.index_performAll registry edits
  text := funext (subjectText_performAll registry edits)
  references := by
    intro c d hd
    rw [references, Edit.node?_performAll] at hd
    cases hnode : registry.node? c with
    | none => simp [hnode] at hd
    | some node =>
      rw [hnode] at hd
      -- from before, or from one of the edits
      rcases ClassNode.mem_references_edited hd with hd | ⟨edit, hedit, hd⟩
      · exact .inl (by rw [references, hnode]; exact hd)
      · exact .inr (h edit hedit d hd)

/-- So does an edit that goes through, as it does what performing it does. -/
theorem refersWithin_of_apply (hf : registry.isFrozen = false) (edit : Edit)
    (h : edit.apply registry = .ok registry')
    (href : ∀ d ∈ edit.referents, d ∈ registry.registered) : registry.RefersWithin registry' := by
  obtain rfl := ((Edit.apply_eq_ok_iff_of_unfrozen hf edit).mp h).2
  have hperform : registry.RefersWithin (Edit.performAll registry [edit]) :=
    refersWithin_performAll (by simpa using href)
  exact hperform

/-- What a reference is resolved to is registered. -/
theorem mem_registered_of_resolve {reference subject role : String} {c : ClassId}
    (h : registry.resolve reference subject role = .ok c) : c ∈ registry.registered := by
  unfold resolve at h
  cases hget : registry.get? reference with
  | none => simp [hget] at h
  | some found =>
    rw [hget] at h
    exact Except.ok.inj h ▸ mem_registered_of_get? hget

/-! ## Declarations -/

/-- The identifiers of some classes that are to be declared. -/
def identifiers (nodes : List ClassNode) : List String := nodes.map (·.subject.text)

section

variable {nodes : List ClassNode}

/-- Classes that are there stay as they are when others are registered. -/
theorem node?_registerAll_of_lt {c : ClassId} (hc : c < registry.classes.size) :
    (registry.registerAll nodes).node? c = registry.node? c := by
  induction nodes generalizing registry with
  | nil => rfl
  | cons node nodes ih =>
    -- new classes come after those that are there
    have hlater : c < (registry.register node).classes.size := by
      rw [register, Array.size_push]
      exact Nat.lt_succ_of_lt hc
    calc ((registry.register node).registerAll nodes).node? c
        = (registry.register node).node? c := ih hlater
      _ = registry.node? c := by rw [node?_register, if_neg (Nat.ne_of_lt hc)]

/-- Identifiers under which nothing is declared lead where they led before. -/
theorem get?_registerAll_of_notMem {identifier : String} (h : identifier ∉ identifiers nodes) :
    (registry.registerAll nodes).get? identifier = registry.get? identifier := by
  induction nodes generalizing registry with
  | nil => rfl
  | cons node nodes ih =>
    obtain ⟨hne, hlater⟩ : identifier ≠ node.subject.text ∧ identifier ∉ identifiers nodes := by
      simpa [identifiers] using h
    calc ((registry.register node).registerAll nodes).get? identifier
        = (registry.register node).get? identifier := ih hlater
      _ = registry.get? identifier := by rw [get?_register, if_neg hne]

/-- What is found under an identifier that has been declared is new. -/
theorem exists_get?_registerAll (registry : Registry) {identifier : String}
    (h : identifier ∈ identifiers nodes) : ∃ c node,
      (registry.registerAll nodes).get? identifier = some c ∧ registry.classes.size ≤ c ∧
        (registry.registerAll nodes).node? c = some node ∧ node ∈ nodes := by
  induction nodes generalizing registry with
  | nil => cases h
  | cons node nodes ih =>
    have hsize : (registry.register node).classes.size = registry.classes.size + 1 :=
      Array.size_push _
    -- the last class of the identifier is the one that is found
    by_cases hlater : identifier ∈ identifiers nodes
    · obtain ⟨c, found, hget, hc, hnode, hmem⟩ := ih (registry.register node) hlater
      exact ⟨c, found, hget, by omega, hnode, List.mem_cons_of_mem _ hmem⟩
    · -- nothing takes the place of the first class
      have hid : identifier = node.subject.text := (List.mem_cons.mp h).resolve_right hlater
      refine ⟨registry.classes.size, node, ?_, le_rfl, ?_, List.mem_cons_self ..⟩
      · exact (get?_registerAll_of_notMem hlater).trans (by rw [get?_register, if_pos hid])
      · calc ((registry.register node).registerAll nodes).node? registry.classes.size
            = (registry.register node).node? registry.classes.size :=
              node?_registerAll_of_lt (hsize ▸ Nat.lt_succ_self _)
          _ = some node := by rw [node?_register, if_pos rfl]

/-- **Declarations leave a closed registry closed exactly if no class that keeps its place refers to
one that loses it.** -/
theorem IsClosed.registerAll_iff (h : registry.IsClosed) (hsound : registry.Sound)
    (hindexed : registry.Indexed) (hplain : ∀ node ∈ nodes, node.references = [])
    (hindexed' : (registry.registerAll nodes).Indexed) :
    (registry.registerAll nodes).IsClosed ↔
      ∀ c ∈ registry.registered, registry.subjectText c ∉ identifiers nodes →
        ∀ d ∈ registry.references c, registry.subjectText d ∉ identifiers nodes := by
  -- classes that are there keep their references and their subjects
  have hkept : ∀ c ∈ registry.registered,
      (registry.registerAll nodes).references c = registry.references c ∧
        (registry.registerAll nodes).subjectText c = registry.subjectText c := by
    intro c hc
    have hnode : (registry.registerAll nodes).node? c = registry.node? c :=
      node?_registerAll_of_lt (hsound.registered_lt c hc)
    simp only [references, subjectText, hnode, and_self]
  -- and they refer to registered classes
  have hreferent : ∀ c ∈ registry.registered, ∀ d ∈ registry.references c,
      d ∈ registry.registered := fun c hc d hd => mem_registered_of_get? (h c hc d hd)
  constructor
  · intro hclosed c hc hplace d hd hdeclared
    have hget : (registry.registerAll nodes).get? (registry.subjectText c) = some c :=
      (get?_registerAll_of_notMem hplace).trans (hindexed.get?_subjectText hc)
    -- what it refers to would have to be found under its identifier
    have hthere := hclosed c (mem_registered_of_get? hget) d ((hkept c hc).1 ▸ hd)
    -- but a new class is registered there
    obtain ⟨new, -, hnew, hle, -⟩ := exists_get?_registerAll registry hdeclared
    rw [(hkept d (hreferent c hc d hd)).2, hnew] at hthere
    obtain rfl := Option.some.inj hthere
    exact Nat.not_le.mpr (hsound.registered_lt new (hreferent c hc new hd)) hle
  · intro hfree c hc d hd
    have hget := hindexed'.get?_subjectText hc
    by_cases hdeclared : (registry.registerAll nodes).subjectText c ∈ identifiers nodes
    · -- a class without references
      obtain ⟨new, node, hnew, -, hnode, hmem⟩ := exists_get?_registerAll registry hdeclared
      obtain rfl := Option.some.inj (hget.symm.trans hnew)
      rw [references, hnode] at hd
      simp [hplain node hmem] at hd
    · -- a class that keeps its place, and what it refers to keeps its own
      rw [get?_registerAll_of_notMem hdeclared] at hget
      have hc := mem_registered_of_get? hget
      rw [(hkept c hc).2] at hdeclared
      rw [(hkept c hc).1] at hd
      rw [(hkept d (hreferent c hc d hd)).2,
        get?_registerAll_of_notMem (hfree c hc hdeclared d hd)]
      exact h c hc d hd

end

end Registry

/-! ## Operations by identifier -/

/-- The classes that an operation declares. -/
def Operation.newClasses : Operation → List ClassNode
  | seed namespaceIri => catalogue.map (builtinNode namespaceIri)
  | declare subject => [{ subject := subject }]
  | _ => []

/-- An operation declares anew the identifier of a class that another class refers to, and leaves
the other one in its place. -/
def Registry.Displaces (registry : Registry) (op : Operation) : Prop :=
  registry.isFrozen = false ∧
    ∃ c ∈ registry.registered, registry.subjectText c ∉ identifiers op.newClasses ∧
      ∃ d ∈ registry.references c, registry.subjectText d ∈ identifiers op.newClasses

instance (registry : Registry) (op : Operation) : Decidable (registry.Displaces op) :=
  inferInstanceAs (Decidable (_ ∧ ∃ c ∈ registry.registered, _ ∧ ∃ d ∈ registry.references c, _))

namespace Build

variable {w : Workspace} {registry' : Registry}

/-- A build that begins with a look at the registry. -/
theorem Reads.exists_of_changed_bind {x : Build α} {f : α → Build β} {known : α → Prop}
    (hx : Reads x w known) (h : changed (x >>= f) w = .ok registry') :
    ∃ a w', known a ∧ w'.registry = w.registry ∧ changed (f a) w' = .ok registry' := by
  unfold Reads AllOrNothing at hx
  rw [changed_bind] at h
  -- the look either finds something and changes nothing, or it fails and so does the build
  cases hxw : x w with
  | ok a w' =>
    rw [hxw] at hx h
    exact ⟨a, w', hx.1, hx.2, h⟩
  | error e w' =>
    rw [hxw] at h
    cases h

/-- A value adds no reference but to registered classes. -/
theorem refersWithin_of_claim {registry : Registry} (hf : registry.isFrozen = false)
    {settings : Settings} {c : ClassId} (hc : c ∈ registry.registered) {value : Value}
    (h : registry.claim settings c value = .ok registry') : registry.RefersWithin registry' := by
  unfold Registry.claim at h
  rw [Registry.isFrozenClass_of_unfrozen hf, if_neg Bool.false_ne_true] at h
  -- a comment, a parent, a replacement, or nothing that a class has a use for
  split at h
  · exact Registry.refersWithin_of_apply hf (.describe c _) h (by simp [Edit.referents])
  split at h
  · obtain ⟨parent, hresolve, h⟩ := bind_eq_ok_iff.mp h
    have hparent := Registry.mem_registered_of_resolve hresolve
    exact Registry.refersWithin_of_apply hf (.link c parent) h
      (by simp [Edit.referents, hc, hparent])
  split at h
  · obtain ⟨target, hresolve, h⟩ := bind_eq_ok_iff.mp h
    have htarget := Registry.mem_registered_of_resolve hresolve
    exact Registry.refersWithin_of_apply hf (.supersede c target) h
      (by simp [Edit.referents, htarget])
  · exact .of_classes (Except.ok.inj h ▸ rfl) (Except.ok.inj h ▸ rfl)

/-- A property adds no reference. -/
theorem refersWithin_pushProperty {registry : Registry} (property : PropertyNode)
    {edits : List Edit} (hplain : ∀ edit ∈ edits, edit.referents = []) :
    registry.RefersWithin ((Edit.performAll registry edits).pushProperty property) := by
  have hedits : registry.RefersWithin (Edit.performAll registry edits) := by
    refine Registry.refersWithin_performAll fun edit hedit d hd => ?_
    rw [hplain edit hedit] at hd
    cases hd
  exact ⟨hedits.index, hedits.text, hedits.references⟩

end Build

namespace Operation

open Build

variable {w : Workspace}

/-- An operation declares nothing, or it declares some classes and does nothing else. -/
theorem newClasses_eq_nil_or (hf : w.registry.isFrozen = false) (settings : Settings)
    (op : Operation) :
    op.newClasses = [] ∨
      changed (op.run settings) w = .ok (w.registry.registerAll op.newClasses) := by
  cases op with
  | seed namespaceIri =>
    -- seeding declares the data types, one after another
    refine .inr ((changed_bind_pure ..).trans ((changed_seedBuiltins namespaceIri w).trans ?_))
    rw [Registry.seed, newClasses, ← Registry.foldlM_declare hf, List.foldlM_map]
  | declare subject =>
    -- a class is declared without edges
    refine .inr ((changed_bind_pure ..).trans ((changed_apply ..).trans ?_))
    rw [Registry.declare, hf]
    rfl
  | _ => exact .inl rfl

/-- Newly declared classes refer to nothing. -/
theorem references_of_mem_newClasses {op : Operation} {node : ClassNode}
    (h : node ∈ op.newClasses) : node.references = [] := by
  cases op with
  | seed namespaceIri =>
    obtain ⟨primitive, -, rfl⟩ := List.mem_map.mp h
    rfl
  | declare subject =>
    rw [List.mem_singleton.mp h]
    rfl
  | _ => cases h

/-- An operation by identifier that declares nothing adds no reference but to registered
classes. -/
theorem refersWithin_of_changed (hindexed : w.registry.Indexed) (hf : w.registry.isFrozen = false)
    {settings : Settings} {op : Operation} (hop : op.isByIdentifier = true)
    (hnew : op.newClasses = []) {registry' : Registry}
    (h : changed (op.run settings) w = .ok registry') : w.registry.RefersWithin registry' := by
  -- Each operation resolves its references first, which changes nothing, and then makes one change.
  -- References are added by an edge and by a value; everything else leaves them as they are.
  cases op with
  | seed namespaceIri | declare subject => cases hnew
  | create subject primitive => cases hop
  | declareAgain reference =>
    -- the class is registered already, so nothing is entered
    obtain ⟨c, w₁, hc, hw₁, h⟩ := (reads_named_of_isNamed hop).exists_of_changed_bind h
    rw [changed_bind_pure, changed_apply, hw₁, Registry.declareAgain, hf] at h
    obtain rfl := (Except.ok.inj h).symm
    rw [hindexed.enter_eq hc]
    exact .of_classes rfl rfl
  | link child parent =>
    -- an edge, both of whose ends have been found under identifiers
    obtain ⟨hchild, hparent⟩ := Bool.and_eq_true_iff.mp hop
    obtain ⟨child, w₁, hc, hw₁, h⟩ := (reads_named_of_isNamed hchild).exists_of_changed_bind h
    obtain ⟨parent, w₂, hp, hw₂, h⟩ := (reads_named_of_isNamed hparent).exists_of_changed_bind h
    rw [changed_bind_pure, changed_apply, hw₂, hw₁] at h
    rw [hw₁] at hp
    exact Registry.refersWithin_of_apply hf (.link child parent) h
      (by simp [Edit.referents, hc, hp])
  | add reference value =>
    -- a comment, or a reference that is resolved before it is added
    obtain ⟨c, w₁, hc, hw₁, h⟩ := (reads_named_of_isNamed hop).exists_of_changed_bind h
    rw [changed_bind_pure, changed_addValue, hw₁] at h
    exact refersWithin_of_claim hf hc h
  | property owner subject description range =>
    -- a property refers to classes, but no class refers to more classes than before
    obtain ⟨range, w₁, -, hw₁, h⟩ := (reads_range range).exists_of_changed_bind h
    obtain ⟨c, w₂, -, hw₂, h⟩ := (reads_named_of_isNamed hop).exists_of_changed_bind h
    rw [changed_bind_pure, changed_addProperty, hw₂, hw₁, Registry.addProperty_eq_ok hf] at h
    obtain rfl := (Except.ok.inj h).symm
    exact refersWithin_pushProperty _ (by simp [Edit.referents])
  | share owner id =>
    -- the same goes for a property that is there already
    obtain ⟨c, w₁, -, hw₁, h⟩ := (reads_named_of_isNamed hop).exists_of_changed_bind h
    rw [changed_bind_pure, changed_apply, hw₁] at h
    exact Registry.refersWithin_of_apply hf (.attachProperty id c) h (by simp [Edit.referents])
  | member owner subject comment =>
    -- and for a member
    obtain ⟨c, w₁, -, hw₁, h⟩ := (reads_named_of_isNamed hop).exists_of_changed_bind h
    rw [changed_bind_pure, changed_apply, hw₁] at h
    let member : MemberNode := ⟨subject, comment⟩
    exact Registry.refersWithin_of_apply hf (.attachMember member c) h (by simp [Edit.referents])
  | propertyTopic topic =>
    -- what the passes attach are properties and members too, by the edits of the topic
    rw [run, changed_bind_pure, changed_resolveProperty] at h
    rw [((Registry.attachPropertyOf_eq_ok_iff hf).mp h).2]
    exact refersWithin_pushProperty _ (by simp [Topic.propertyEdits, Edit.referents])
  | memberTopic topic =>
    rw [run, changed_bind_pure, changed_resolveMember] at h
    rw [((Registry.attachMemberOf_eq_ok_iff hf).mp h).2]
    refine Registry.refersWithin_performAll fun edit hedit d hd => ?_
    obtain ⟨owner, -, rfl⟩ := Option.map_eq_some_iff.mp (Option.mem_toList.mp hedit)
    cases hd
  | freeze =>
    obtain rfl := (Except.ok.inj h).symm
    exact .of_classes rfl rfl

/-- What an operation makes of the registry. -/
theorem registry_after_of_changed {step : Settings × Operation} {registry' : Registry}
    (h : changed (step.2.run step.1) w = .ok registry') : (after w step).registry = registry' := by
  obtain ⟨reply, w', hrun, hregistry⟩ := changed_eq_ok_iff.mp h
  rw [after, hrun]
  exact hregistry

/-- An operation by identifier that declares nothing, refused or not, adds no reference but to
registered classes. -/
theorem refersWithin_after (hsound : w.registry.Sound) (hindexed : w.registry.Indexed)
    (hf : w.registry.isFrozen = false) {step : Settings × Operation}
    (hop : step.2.isByIdentifier = true) (hnew : step.2.newClasses = []) :
    w.registry.RefersWithin (after w step).registry := by
  -- an operation that is refused changes nothing, so only success has to be looked at
  have hrun : AllOrNothing (step.2.run step.1) w fun _ r => w.registry.RefersWithin r := by
    have hreaches := allOrNothing_run hsound step.1 step.2
    unfold AllOrNothing at hreaches ⊢
    cases hw : step.2.run step.1 w with
    | ok reply w' =>
      exact refersWithin_of_changed hindexed hf hop hnew
        (changed_eq_ok_iff.mpr ⟨reply, w', hw, rfl⟩)
    | error _ w' =>
      rw [hw] at hreaches
      exact hreaches
  rcases after_of_allOrNothing hrun with ⟨_, hwithin⟩ | hsame
  · exact hwithin
  · exact hsame ▸ .of_classes rfl rfl

/-- **An operation by identifier leaves a closed registry closed exactly if it displaces no class
that is referred to.** -/
theorem isClosed_after_iff (hsound : w.registry.Sound) (hindexed : w.registry.Indexed)
    (hclosed : w.registry.IsClosed) {step : Settings × Operation}
    (hop : step.2.isByIdentifier = true) :
    (after w step).registry.IsClosed ↔ ¬ w.registry.Displaces step.2 := by
  have hreaches := reaches_after hsound step
  have hindexed' := hindexed.reaches hsound hreaches
  cases hf : w.registry.isFrozen with
  | true =>
    -- a frozen registry keeps its classes, and nothing is displaced
    have hretains := (Registry.retains_of_reaches hsound hf hreaches).2
    have hwithin : w.registry.RefersWithin (after w step).registry :=
      .of_classes hretains.index (classes_after (spares_run hf step.1 hop))
    refine iff_of_true (hclosed.refersWithin hindexed hwithin) fun hdisplaces => ?_
    exact Bool.noConfusion (hf.symm.trans hdisplaces.1)
  | false =>
    rcases newClasses_eq_nil_or hf step.1 step.2 with hnew | hdeclares
    · -- what declares nothing displaces nothing
      have hwithin := refersWithin_after hsound hindexed hf hop hnew
      refine iff_of_true (hclosed.refersWithin hindexed hwithin) fun hdisplaces => ?_
      obtain ⟨-, c, -, -, d, -, hd⟩ := hdisplaces
      rw [hnew] at hd
      cases hd
    · -- what declares something does just that
      rw [registry_after_of_changed hdeclares] at hindexed' ⊢
      rw [hclosed.registerAll_iff hsound hindexed (fun _ => references_of_mem_newClasses) hindexed',
        Registry.Displaces, hf]
      simp

end Operation

/-! ## Any operations -/

/-- One step more is a step after the others. -/
theorem runAll_append_singleton (w : Workspace) (before : List (Settings × Operation))
    (step : Settings × Operation) :
    runAll w (before ++ [step]) = Operation.after (runAll w before) step := by
  rw [runAll, List.foldl_append]
  rfl

/-- **References lead to what is registered until a declaration displaces a class.** Operations by
identifier keep an empty registry closed at all times exactly if none of them displaces a class that
another class refers to; and no identifier is above itself where the registry is closed.

That the operations are by identifier is asked because a class that is held may have lost its place:
an edge to it would lead out of what is registered without anything being displaced. -/
theorem isClosed_runAll_iff {steps : List (Settings × Operation)}
    (hsteps : ∀ step ∈ steps, step.2.isByIdentifier = true) :
    ((∀ before, before <+: steps → (runAll {} before).registry.IsClosed) ↔
      ∀ before step, before ++ [step] <+: steps →
        ¬ (runAll {} before).registry.Displaces step.2) ∧
      ∀ before, (runAll {} before).registry.IsClosed →
        (runAll {} before).registry.AcyclicByName := by
  have hreaches (before) := reaches_runAll (w := {}) Registry.sound_empty before
  have hsound (before) := Registry.sound_empty.reaches (hreaches before)
  have hindexed (before) := Registry.indexed_empty.reaches Registry.sound_empty (hreaches before)
  -- one step after another, from a registry that is sound and indexed
  have hafter : ∀ before step, before ++ [step] <+: steps → (runAll {} before).registry.IsClosed →
      ((runAll {} (before ++ [step])).registry.IsClosed ↔
        ¬ (runAll {} before).registry.Displaces step.2) := by
    intro before step hinit hclosed
    rw [runAll_append_singleton]
    exact Operation.isClosed_after_iff (hsound before) (hindexed before) hclosed
      (hsteps step (hinit.subset (List.mem_append_right _ (List.mem_singleton_self step))))
  refine ⟨⟨fun hclosed before step hinit => ?_, fun hkeeps before hinit => ?_⟩,
    fun before hclosed => hclosed.acyclicByName (hsound before)⟩
  · have hbefore := hclosed before ((List.prefix_append before [step]).trans hinit)
    exact (hafter before step hinit hbefore).mp (hclosed _ hinit)
  · -- induction from the beginning, as a step is looked at in a registry that is closed before it
    induction before using List.reverseRecOn with
    | nil => exact Registry.isClosed_empty
    | append_singleton before step ih =>
      have hbefore := ih ((List.prefix_append before [step]).trans hinit)
      exact (hafter before step hinit hbefore).mpr (hkeeps before step hinit)

/-- The second declaration of the upper class leaves the lower class below a class that is not
registered any more; an edge back then closes a cycle of identifiers. -/
theorem isClosed_runAll_iff_thingBelowPlace :
    (∀ step ∈ thingBelowPlace, step.2.isByIdentifier = true) ∧
      (runAll {} (thingBelowPlace.take 3)).registry.Displaces
        (.declare (.iri "http://schema.org/Thing")) ∧
      (¬ ∀ before, before <+: thingBelowPlace → (runAll {} before).registry.IsClosed) ∧
      ¬ (runAll {} thingBelowPlace).registry.AcyclicByName := by
  have hsteps : ∀ step ∈ thingBelowPlace, step.2.isByIdentifier = true := by
    simp [thingBelowPlace, Operation.isByIdentifier, ClassRef.isNamed]
  have hdisplaces : (runAll {} (thingBelowPlace.take 3)).registry.Displaces
      (.declare (.iri "http://schema.org/Thing")) := of_decide_eq_true (by cbv)
  -- both ways, identifiers are one edge apart
  have hthing : (runAll {} thingBelowPlace).registry.HasParentNamed "http://schema.org/Thing"
      "http://schema.org/Place" := ⟨2, 1, by cbv, List.contains_iff_mem.mp (by cbv), by cbv⟩
  have hplace : (runAll {} thingBelowPlace).registry.HasParentNamed "http://schema.org/Place"
      "http://schema.org/Thing" := ⟨1, 0, by cbv, List.contains_iff_mem.mp (by cbv), by cbv⟩
  refine ⟨hsteps, hdisplaces, fun hclosed => ?_, fun hacyclic => ?_⟩
  · exact (isClosed_runAll_iff hsteps).1.mp hclosed (thingBelowPlace.take 3) ({}, _)
      (List.take_prefix 4 thingBelowPlace) hdisplaces
  · exact hacyclic _ (.tail (.single hthing) hplace)

end OntoTypes
