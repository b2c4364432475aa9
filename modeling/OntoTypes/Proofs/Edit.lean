import OntoTypes.Proofs.Ancestry

/-!
# Edits of classes

Once the classes of a registry are declared, all that happens to them is a sequence of small edits:
a description, a subclass edge, a superseding class, a property, a member. This module turns such a
sequence into data. What a sequence of edits makes of a registry can then be read off class by class
and list by list: the parents of a class are the parents of the edges that start at it, its children
are the children of the edges that end at it, in the order of the edits.

As long as nothing is frozen, only an edge can be refused, and only because of a cycle. A sequence
of edits therefore goes through exactly if the graph with all of its edges is acyclic: an edge that
closes a cycle is refused where it stands, and would leave a cycle in the end if it were not.

Main results:

* `foldlM_eq_ok_iff` — when steps that ask for edits succeed;
* `node?_performAll` — what a sequence of edits makes of a class;
* `applyAll_eq_ok_iff` — when a sequence of edits goes through.
-/

namespace OntoTypes

/-- Two steps succeed exactly if the first one does and the second one does with its result. -/
theorem bind_eq_ok_iff {x : Except ε α} {f : α → Except ε β} {b : β} :
    x.bind f = .ok b ↔ ∃ a, x = .ok a ∧ f a = .ok b := by
  cases x with
  | error e => simp [Except.bind]
  | ok a => simp [Except.bind]

/-- A change of what is recorded about the classes of a registry. -/
inductive Edit where
  | describe (c : ClassId) (text : String)
  | link (child parent : ClassId)
  | supersede (c target : ClassId)
  | attachProperty (property : PropertyId) (owner : ClassId)
  | attachMember (member : MemberNode) (owner : ClassId)

namespace Edit

/-- The registry after an edit, which may be refused. -/
def apply (registry : Registry) : Edit → Except Error Registry
  | describe c text => registry.describe c text
  | link child parent => registry.link child parent
  | supersede c target => registry.supersede c target
  | attachProperty property owner => registry.attachProperty property owner
  | attachMember member owner => registry.attachMember member owner

/-- The registry after an edit that nobody checks. -/
def perform (registry : Registry) : Edit → Registry
  | describe c text => registry.modify c fun node => { node with description := some text }
  | link child parent => registry.addEdge child parent
  | supersede c target =>
    registry.modify c fun node => { node with supersededBy := node.supersededBy ++ [target] }
  | attachProperty property owner =>
    registry.modify owner fun node => { node with properties := node.properties ++ [property] }
  | attachMember member owner =>
    registry.modify owner fun node => { node with members := node.members ++ [member] }

/-- The registry after some edits, the first refusal ending them. -/
def applyAll (registry : Registry) (edits : List Edit) : Except Error Registry :=
  edits.foldlM apply registry

/-- The registry after some edits that nobody checks. -/
def performAll (registry : Registry) (edits : List Edit) : Registry :=
  edits.foldl perform registry

/-- Whether an edit is let through by a registry that is not frozen. -/
def Allowed (registry : Registry) : Edit → Prop
  | link child parent => registry.closesCycle child parent = false
  | _ => True

/-- Whether the edges among some edits join classes of a registry. -/
def InRange (size : Nat) : Edit → Prop
  | link child parent => child < size ∧ parent < size
  | _ => True

/-- The classes that an edit changes. -/
def touched : Edit → List ClassId
  | describe c _ => [c]
  | link child parent => [child, parent]
  | supersede c _ => [c]
  | attachProperty _ owner => [owner]
  | attachMember _ owner => [owner]

/-! ## What an edit adds to the class at `c` -/

/-- The description that an edit gives to the class at `c`. -/
def description? (c : ClassId) : Edit → Option String
  | describe d text => if d = c then some text else none
  | _ => none

/-- The parent that an edit adds to the class at `c`. -/
def parent? (c : ClassId) : Edit → Option ClassId
  | link child parent => if child = c then some parent else none
  | _ => none

/-- The child that an edit adds to the class at `c`. An edge is recorded on both of its ends, so one
edit adds a child here and a parent there. -/
def child? (c : ClassId) : Edit → Option ClassId
  | link child parent => if parent = c then some child else none
  | _ => none

/-- The property that an edit attaches to the class at `c`. -/
def property? (c : ClassId) : Edit → Option PropertyId
  | attachProperty property owner => if owner = c then some property else none
  | _ => none

/-- The member that an edit attaches to the class at `c`. -/
def member? (c : ClassId) : Edit → Option MemberNode
  | attachMember member owner => if owner = c then some member else none
  | _ => none

/-- The class by which an edit says that the class at `c` is superseded. -/
def target? (c : ClassId) : Edit → Option ClassId
  | supersede d target => if d = c then some target else none
  | _ => none

end Edit

/-- What is recorded about the class at `c` after some edits. -/
def ClassNode.edited (c : ClassId) (edits : List Edit) (node : ClassNode) : ClassNode :=
  { node with
    description := (edits.filterMap (Edit.description? c)).getLast?.or node.description
    parents := node.parents ++ edits.filterMap (Edit.parent? c)
    children := node.children ++ edits.filterMap (Edit.child? c)
    properties := node.properties ++ edits.filterMap (Edit.property? c)
    members := node.members ++ edits.filterMap (Edit.member? c)
    supersededBy := node.supersededBy ++ edits.filterMap (Edit.target? c) }

namespace Registry

/-! ## Classes, one by one -/

/-- A change of one class leaves all others as they are. -/
@[simp] theorem node?_modify (registry : Registry) (c d : ClassId) (f : ClassNode → ClassNode) :
    (registry.modify c f).node? d =
      if c = d then (registry.node? d).map f else registry.node? d := by
  simp only [node?, modify, Array.getElem?_modify]

@[simp] theorem size_modify (registry : Registry) (c : ClassId) (f : ClassNode → ClassNode) :
    (registry.modify c f).classes.size = registry.classes.size := by
  simp [modify]

/-- A new class is the last one, and the others stay as they are. -/
theorem node?_pushClass (registry : Registry) (node : ClassNode) (c : ClassId) :
    (registry.pushClass node).node? c =
      if c = registry.classes.size then some node else registry.node? c := by
  rw [node?, pushClass, Array.getElem?_push, node?]

/-- The children of a class. -/
def children (registry : Registry) (c : ClassId) : List ClassId :=
  ((registry.node? c).map (·.children)).getD []

/-- The edges of a class are those that are recorded about it. -/
theorem parents_of_node? {registry : Registry} {c : ClassId} {node : ClassNode}
    (h : registry.node? c = some node) : registry.parents c = node.parents := by
  rw [parents, h]
  rfl

theorem children_of_node? {registry : Registry} {c : ClassId} {node : ClassNode}
    (h : registry.node? c = some node) : registry.children c = node.children := by
  rw [children, h]
  rfl

end Registry

namespace Edit

variable {registry registry' : Registry}

/-! ## A single edit -/

/-- Which class is registered under which identifier is not for edits to change. -/
@[simp] theorem index_perform (registry : Registry) (edit : Edit) :
    (edit.perform registry).index = registry.index := by
  cases edit <;> rfl

@[simp] theorem properties_perform (registry : Registry) (edit : Edit) :
    (edit.perform registry).properties = registry.properties := by
  cases edit <;> rfl

@[simp] theorem isFrozen_perform (registry : Registry) (edit : Edit) :
    (edit.perform registry).isFrozen = registry.isFrozen := by
  cases edit <;> rfl

@[simp] theorem size_perform (registry : Registry) (edit : Edit) :
    (edit.perform registry).classes.size = registry.classes.size := by
  cases edit <;> simp [perform, Registry.addEdge]

/-- An edit is done to each class by itself. -/
theorem node?_perform (registry : Registry) (edit : Edit) (c : ClassId) :
    (edit.perform registry).node? c = (registry.node? c).map (ClassNode.edited c [edit]) := by
  unfold ClassNode.edited
  simp only [List.filterMap_cons, List.filterMap_nil]
  -- an edit of another class leaves this one alone, so the cases ask which class is edited
  cases hn : registry.node? c with
  | none =>
    cases edit <;> simp [perform, Registry.addEdge, hn]
  | some node =>
    cases edit with
    | describe d text =>
      by_cases h : d = c <;>
        simp [perform, description?, parent?, child?, property?, member?, target?, h, hn]
    | link child parent =>
      by_cases hc : child = c <;> by_cases hp : parent = c <;>
        simp [perform, Registry.addEdge, description?, parent?, child?, property?, member?,
          target?, hc, hp, hn]
    | supersede d target =>
      by_cases h : d = c <;>
        simp [perform, description?, parent?, child?, property?, member?, target?, h, hn]
    | attachProperty property owner =>
      by_cases h : owner = c <;>
        simp [perform, description?, parent?, child?, property?, member?, target?, h, hn]
    | attachMember member owner =>
      by_cases h : owner = c <;>
        simp [perform, description?, parent?, child?, property?, member?, target?, h, hn]

/-- An edit is done unless an edge would close a cycle or a class that it changes is frozen. -/
theorem apply_eq_ok_iff (edit : Edit) :
    edit.apply registry = .ok registry' ↔
      edit.Allowed registry ∧ (∀ c ∈ edit.touched, registry.isFrozenClass c = false) ∧
        registry' = edit.perform registry := by
  rw [@eq_comm _ registry']
  cases edit with
  -- an edge is checked for a cycle first, then on both of its ends; the other edits ask one class
  | link child parent =>
    by_cases h : registry.closesCycle child parent = true <;>
      by_cases hc : registry.isFrozenClass child = true <;>
        by_cases hp : registry.isFrozenClass parent = true <;>
          simp [apply, Registry.link, Allowed, touched, perform, h, hc, hp]
  | describe c _ | supersede c _ | attachProperty _ c | attachMember _ c =>
    by_cases h : registry.isFrozenClass c = true <;>
      simp [apply, Registry.describe, Registry.supersede, Registry.attachProperty,
        Registry.attachMember, Registry.change, Allowed, touched, perform, h]

/-- A registry that is not frozen does what it is asked, unless an edge would close a cycle. -/
theorem apply_eq_ok_iff_of_unfrozen (hf : registry.isFrozen = false) (edit : Edit) :
    edit.apply registry = .ok registry' ↔
      edit.Allowed registry ∧ registry' = edit.perform registry := by
  simp [apply_eq_ok_iff, hf]

/-! ## Sequences of edits -/

/-- Edits go on from where the first one has ended. -/
theorem applyAll_cons (registry : Registry) (edit : Edit) (edits : List Edit) :
    applyAll registry (edit :: edits) =
      (edit.apply registry).bind fun registry => applyAll registry edits := rfl

theorem applyAll_singleton (registry : Registry) (edit : Edit) :
    applyAll registry [edit] = edit.apply registry := by
  rw [applyAll_cons]
  cases edit.apply registry <;> rfl

theorem applyAll_append (registry : Registry) (edits later : List Edit) :
    applyAll registry (edits ++ later) =
      (applyAll registry edits).bind fun registry => applyAll registry later := by
  simp only [applyAll, List.foldlM_append]
  rfl

/-- Edits can be performed in two parts. -/
theorem performAll_append (registry : Registry) (edits later : List Edit) :
    performAll registry (edits ++ later) = performAll (performAll registry edits) later := by
  simp only [performAll, List.foldl_append]

/-- What each edit leaves alone, all of them leave alone. -/
theorem performAll_keeps {read : Registry → β}
    (hkeep : ∀ (r : Registry) (edit : Edit), read (edit.perform r) = read r) (registry : Registry)
    (edits : List Edit) : read (performAll registry edits) = read registry := by
  induction edits generalizing registry with
  | nil => rfl
  | cons edit edits ih =>
    rw [performAll, List.foldl_cons]
    exact (ih _).trans (hkeep registry edit)

@[simp] theorem index_performAll (registry : Registry) (edits : List Edit) :
    (performAll registry edits).index = registry.index :=
  performAll_keeps index_perform registry edits

@[simp] theorem properties_performAll (registry : Registry) (edits : List Edit) :
    (performAll registry edits).properties = registry.properties :=
  performAll_keeps properties_perform registry edits

@[simp] theorem isFrozen_performAll (registry : Registry) (edits : List Edit) :
    (performAll registry edits).isFrozen = registry.isFrozen :=
  performAll_keeps isFrozen_perform registry edits

@[simp] theorem size_performAll (registry : Registry) (edits : List Edit) :
    (performAll registry edits).classes.size = registry.classes.size :=
  @performAll_keeps _ (·.classes.size) size_perform registry edits

/-- References lead to the same classes after any edits, so all topics can be read before the first
edit is performed. -/
@[simp] theorem get?_performAll (registry : Registry) (edits : List Edit) :
    (performAll registry edits).get? = registry.get? := by
  funext identifier
  rw [Registry.get?, index_performAll, Registry.get?]

/-- Edits that go through are performed. -/
theorem eq_performAll_of_applyAll (hf : registry.isFrozen = false) {edits : List Edit}
    (h : applyAll registry edits = .ok registry') : registry' = performAll registry edits := by
  induction edits generalizing registry with
  | nil => exact (Except.ok.inj h).symm
  | cons edit edits ih =>
    obtain ⟨next, happly, hrest⟩ := bind_eq_ok_iff.mp h
    obtain rfl := ((apply_eq_ok_iff_of_unfrozen hf edit).mp happly).2
    exact ih (by rw [isFrozen_perform, hf]) hrest

/-- Steps that each ask for some edits succeed exactly if every step has what it needs and the edits
of all of them go through. `Inv` is what the steps may rely on, `Needs` is what a step asks of its
item apart from its edits, and `edits` are what it asks of the registry. All passes over the topics
are brought into this form. -/
theorem foldlM_eq_ok_iff (Inv : Registry → Prop) (Needs : α → Prop) (edits : α → List Edit)
    {step : Registry → α → Except Error Registry} {items : List α}
    (hunfrozen : ∀ r, Inv r → r.isFrozen = false)
    (hkeep : ∀ r edits, Inv r → Inv (performAll r edits))
    (hstep : ∀ a ∈ items, ∀ r r', Inv r →
      (step r a = .ok r' ↔ Needs a ∧ applyAll r (edits a) = .ok r'))
    (hinv : Inv registry) :
    items.foldlM step registry = .ok registry' ↔
      (∀ a ∈ items, Needs a) ∧ applyAll registry (items.flatMap edits) = .ok registry' := by
  induction items generalizing registry with
  | nil => simp [applyAll]
  | cons a items ih =>
    -- the steps after the first one start from a registry in which the invariant still holds
    have hrest := fun r => @ih r fun b hb => hstep b (List.mem_cons_of_mem _ hb)
    have hfirst := fun r' => hstep a (List.mem_cons_self ..) registry r' hinv
    rw [List.foldlM_cons, List.flatMap_cons, applyAll_append, List.forall_mem_cons]
    change Except.bind _ _ = _ ↔ _
    rw [bind_eq_ok_iff, bind_eq_ok_iff]
    -- either way the first step ends where its edits, once performed, keep the invariant
    constructor
    · rintro ⟨next, hnext, hlater⟩
      obtain ⟨hneeds, happly⟩ := (hfirst next).mp hnext
      obtain rfl := eq_performAll_of_applyAll (hunfrozen _ hinv) happly
      obtain ⟨hall, hlater⟩ := (hrest _ (hkeep _ _ hinv)).mp hlater
      exact ⟨⟨hneeds, hall⟩, _, happly, hlater⟩
    · rintro ⟨⟨hneeds, hall⟩, next, happly, hlater⟩
      obtain rfl := eq_performAll_of_applyAll (hunfrozen _ hinv) happly
      exact ⟨_, (hfirst _).mpr ⟨hneeds, happly⟩, (hrest _ (hkeep _ _ hinv)).mpr ⟨hall, hlater⟩⟩

/-- Edits of a class add up. -/
theorem edited_append (c : ClassId) (edits later : List Edit) (node : ClassNode) :
    node.edited c (edits ++ later) = (node.edited c edits).edited c later := by
  simp [ClassNode.edited, List.getLast?_append, Option.or_assoc]

/-- What a sequence of edits makes of a class. -/
theorem node?_performAll (registry : Registry) (edits : List Edit) (c : ClassId) :
    (performAll registry edits).node? c = (registry.node? c).map (ClassNode.edited c edits) := by
  induction edits generalizing registry with
  | nil => cases hn : registry.node? c <;> simp [performAll, ClassNode.edited, hn]
  | cons edit edits ih =>
    rw [performAll, List.foldl_cons, ← performAll, ih, node?_perform, Option.map_map]
    congr 1
    funext node
    exact (edited_append c [edit] edits node).symm

/-! ## Edges among the edits -/

/-- A parent is added by its edge and by nothing else. -/
theorem parent?_eq_some_iff {edit : Edit} {c p : ClassId} :
    edit.parent? c = some p ↔ edit = .link c p := by
  cases edit <;> simp [parent?]

/-- A child is added by its edge and by nothing else. -/
theorem child?_eq_some_iff {edit : Edit} {c p : ClassId} :
    edit.child? p = some c ↔ edit = .link c p := by
  cases edit with
  | link child parent => simp [child?, and_comm]
  | _ => simp [child?]

/-- A parent is added as often as a child. -/
theorem count_filterMap_parent? (edits : List Edit) (c p : ClassId) :
    (edits.filterMap (parent? c)).count p = (edits.filterMap (child? p)).count c := by
  induction edits with
  | nil => rfl
  | cons edit edits ih =>
    cases edit with
    | link child parent =>
      by_cases hc : child = c <;> by_cases hp : parent = p <;> simp [parent?, child?, hc, hp, ih]
    | _ => simpa [parent?, child?, List.filterMap_cons] using ih

section

variable {edits : List Edit} (hes : ∀ edit ∈ edits, edit.InRange registry.classes.size)
include hes

/-- The parents of a class are those it had and those it is linked to. -/
theorem parents_performAll (c : ClassId) :
    (performAll registry edits).parents c = registry.parents c ++ edits.filterMap (parent? c) := by
  rw [Registry.parents, node?_performAll, Registry.parents]
  cases hn : registry.node? c with
  | some node => rfl
  | none =>
    -- what is no class of the registry is not linked
    have hnone : edits.filterMap (parent? c) = [] := by
      rw [List.eq_nil_iff_forall_not_mem]
      intro p hp
      obtain ⟨edit, hedit, heq⟩ := List.mem_filterMap.mp hp
      obtain rfl := parent?_eq_some_iff.mp heq
      exact absurd (Array.getElem?_eq_none_iff.mp hn) (Nat.not_le.mpr (hes _ hedit).1)
    rw [hnone]
    rfl

/-- The children of a class are those it had and those that are linked to it. -/
theorem children_performAll (p : ClassId) :
    (performAll registry edits).children p =
      registry.children p ++ edits.filterMap (child? p) := by
  rw [Registry.children, node?_performAll, Registry.children]
  cases hn : registry.node? p with
  | some node => rfl
  | none =>
    -- what is no class of the registry has nothing linked to it
    have hnone : edits.filterMap (child? p) = [] := by
      rw [List.eq_nil_iff_forall_not_mem]
      intro c hc
      obtain ⟨edit, hedit, heq⟩ := List.mem_filterMap.mp hc
      obtain rfl := child?_eq_some_iff.mp heq
      exact absurd (Array.getElem?_eq_none_iff.mp hn) (Nat.not_le.mpr (hes _ hedit).2)
    rw [hnone]
    rfl

/-- Edits add their edges to the graph and nothing else. -/
theorem hasParent_performAll {c p : ClassId} :
    (performAll registry edits).HasParent c p ↔ registry.HasParent c p ∨ .link c p ∈ edits := by
  simp [Registry.HasParent, parents_performAll hes, parent?_eq_some_iff]

end

/-- Edges between classes of a registry leave all parents in it. -/
theorem parentsInRange_performAll (hr : registry.ParentsInRange) {edits : List Edit}
    (hes : ∀ edit ∈ edits, edit.InRange registry.classes.size) :
    (performAll registry edits).ParentsInRange := by
  intro c p h
  rw [size_performAll]
  rcases (hasParent_performAll hes).mp h with h | h
  · exact hr c p h
  · exact (hes _ h).2

/-- Edges that are added never remove a cycle. -/
theorem acyclic_of_performAll {edits : List Edit}
    (hes : ∀ edit ∈ edits, edit.InRange registry.classes.size)
    (ha : (performAll registry edits).Acyclic) : registry.Acyclic := by
  intro c hc
  -- a cycle among the edges that were there is a cycle among all of them
  have hmono : registry.HasParent ≤ (performAll registry edits).HasParent :=
    fun _ _ h => (hasParent_performAll hes).mpr (Or.inl h)
  exact ha c (Relation.TransGen.mono hmono c c hc)

/-- A path that may use one more edge either does without it or reaches its start and goes on from
its end. -/
theorem hasAncestor_perform_link {child parent : ClassId}
    (he : (link child parent).InRange registry.classes.size) {c a : ClassId}
    (h : ((link child parent).perform registry).HasAncestor c a) :
    registry.HasAncestor c a ∨
      Relation.ReflTransGen registry.HasParent c child ∧
        Relation.ReflTransGen registry.HasParent parent a := by
  -- every edge of the path is the new one, or it was there before
  have hedge : ∀ c p, ((link child parent).perform registry).HasParent c p →
      registry.HasParent c p ∨ c = child ∧ p = parent := by
    intro c p hcp
    have hes : ∀ edit ∈ [link child parent], edit.InRange registry.classes.size := by simpa using he
    simpa using (hasParent_performAll hes).mp hcp
  -- along the path, it is remembered whether the edge has been used
  induction h with
  | single hcp =>
    rcases hedge _ _ hcp with h | ⟨rfl, rfl⟩
    · exact Or.inl (.single h)
    · exact Or.inr ⟨.refl, .refl⟩
  | tail _ hbp ih =>
    rcases hedge _ _ hbp with h | ⟨rfl, rfl⟩
    · rcases ih with ih | ⟨hc, hp⟩
      · exact Or.inl (ih.tail h)
      · exact Or.inr ⟨hc, hp.tail h⟩
    · rcases ih with ih | ⟨hc, -⟩
      · exact Or.inr ⟨ih.to_reflTransGen, .refl⟩
      · exact Or.inr ⟨hc, .refl⟩

/-- An edge keeps a registry acyclic exactly if it is let through. -/
theorem acyclic_perform_iff (hr : registry.ParentsInRange) {edit : Edit}
    (he : edit.InRange registry.classes.size) :
    (edit.perform registry).Acyclic ↔ registry.Acyclic ∧ edit.Allowed registry := by
  have hes : ∀ e ∈ [edit], e.InRange registry.classes.size := by simpa using he
  constructor
  · intro ha
    refine ⟨acyclic_of_performAll hes ha, ?_⟩
    cases edit with
    | link child parent =>
      -- a path back from the parent would close a cycle with the edge
      rw [Allowed, ← Bool.not_eq_true, Registry.closesCycle_iff hr]
      intro hpath
      have hmono : registry.HasParent ≤ (performAll registry [link child parent]).HasParent :=
        fun _ _ h => (hasParent_performAll hes).mpr (Or.inl h)
      have hpath' := Relation.ReflTransGen.mono hmono _ _ hpath
      have hedge := (hasParent_performAll (c := child) (p := parent) hes).mpr (Or.inr (by simp))
      exact ha child (Relation.TransGen.head' hedge hpath')
    | _ => trivial
  · rintro ⟨ha, hallowed⟩ c hc
    cases edit with
    | link child parent =>
      rw [Allowed, ← Bool.not_eq_true, Registry.closesCycle_iff hr] at hallowed
      -- a cycle would have to use the edge, and lead from its end back to its start
      rcases hasAncestor_perform_link he hc with h | ⟨hchild, hparent⟩
      · exact ha c h
      · exact hallowed (hparent.trans hchild)
    | _ =>
      -- other edits leave the graph alone
      refine ha c (Relation.TransGen.mono (fun a b h => ?_) c c hc)
      simpa using (hasParent_performAll hes).mp h

/-- Edits go through exactly if they leave the registry acyclic. The order of the edits plays no
part: an edge that is refused where it stands would close a cycle at any later time as well, because
edits never take an edge away. -/
theorem applyAll_eq_ok_iff (hf : registry.isFrozen = false) (hr : registry.ParentsInRange)
    (ha : registry.Acyclic) {edits : List Edit}
    (hes : ∀ edit ∈ edits, edit.InRange registry.classes.size) :
    applyAll registry edits = .ok registry' ↔
      (performAll registry edits).Acyclic ∧ registry' = performAll registry edits := by
  induction edits generalizing registry with
  | nil => simp [applyAll, performAll, pure, Except.pure, ha, eq_comm]
  | cons edit edits ih =>
    have he : edit.InRange registry.classes.size := hes _ (List.mem_cons_self ..)
    have hes' : ∀ e ∈ edits, e.InRange (edit.perform registry).classes.size := by
      rw [size_perform]
      exact fun e h => hes e (List.mem_cons_of_mem _ h)
    have hr' : (edit.perform registry).ParentsInRange := by
      have hedit : ∀ e ∈ [edit], e.InRange registry.classes.size := by simpa using he
      exact parentsInRange_performAll hr hedit
    have hcons : performAll registry (edit :: edits) = performAll (edit.perform registry) edits :=
      rfl
    -- the first edit is let through exactly if it leaves the registry acyclic
    rw [applyAll_cons, hcons]
    by_cases hallowed : edit.Allowed registry
    · have happly := (apply_eq_ok_iff_of_unfrozen hf edit).mpr ⟨hallowed, rfl⟩
      rw [happly, Except.bind]
      exact ih (by rw [isFrozen_perform, hf]) hr' ((acyclic_perform_iff hr he).mpr ⟨ha, hallowed⟩)
        hes'
    · -- a refused edge would leave a cycle, however the edits go on
      constructor
      · intro h
        cases happly : edit.apply registry with
        | error e =>
          rw [happly] at h
          cases h
        | ok next => exact absurd ((apply_eq_ok_iff_of_unfrozen hf edit).mp happly).1 hallowed
      · rintro ⟨hac, -⟩
        exact absurd ((acyclic_perform_iff hr he).mp (acyclic_of_performAll hes' hac)).2 hallowed

end Edit

end OntoTypes
