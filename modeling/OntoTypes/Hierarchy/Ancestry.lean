import OntoTypes.Hierarchy.Registry

/-!
# Ancestors

The classes above a class, and two questions about them: whether one of them is a builtin data type,
and whether the class is a leaf of the hierarchy.

Ancestors are collected breadth first. The walk visits every class at most once, so that it ends
whatever the edges are. The question for a builtin ancestor is answered by a recursion of its own,
one level for each class on the way up, down to the depth that the number of classes bounds.

No other limit is set to this depth. A machine that answers the question by calling itself for every
parent may run out of levels on a chain of some hundred classes; that is a limit of the machine and
of whoever calls it, and it is left out here. It is unlike the limits that readers of documents set
on purpose and report with errors of their own, on brackets inside brackets (`Json.mostLevels`) and
on the steps of an expansion (`Context.mostSteps`), which are followed. The bound by the number of
classes only lets the recursion be written down: in a hierarchy without cycles it is never reached.

Main definitions:

* `Registry.ancestors` — every class reached by one or more parent edges;
* `Registry.aliasesBuiltin` — whether one of them is builtin;
* `Registry.isLeaf` — neither children nor a builtin ancestor.
-/

namespace OntoTypes.Registry

/-- The number of classes not among `seen`. -/
def unseen (registry : Registry) (seen : List ClassId) : Nat :=
  ((List.range registry.classes.size).filter (!seen.contains ·)).length

/-- Seeing one more class leaves fewer unseen. -/
theorem unseen_cons_lt (registry : Registry) {seen : List ClassId} {c : ClassId}
    (fresh : c ∉ seen) (bound : c < registry.classes.size) :
    registry.unseen (c :: seen) < registry.unseen seen := by
  -- the class that is seen now is one that is taken out of the others
  have split : (List.range registry.classes.size).filter (!(c :: seen).contains ·) =
      ((List.range registry.classes.size).filter (!seen.contains ·)).filter (· ≠ c) := by
    rw [List.filter_filter]
    apply List.filter_congr
    intro x _
    by_cases hx : x = c <;> simp [hx]
  rw [unseen, unseen, split]
  apply Nat.lt_of_le_of_ne (List.length_filter_le _ _)
  intro same
  have all := List.length_filter_eq_length_iff.mp same c (by simp [bound, fresh])
  simp at all

/-- The classes seen so far and all those reached from the ones in the queue. -/
def climb (registry : Registry) (seen : List ClassId) : List ClassId → List ClassId
  | [] => seen
  | c :: queue =>
    -- a class that is no class of this registry has no parents either
    if _h : c ∈ seen ∨ registry.classes.size ≤ c then climb registry seen queue
    else climb registry (c :: seen) (queue ++ registry.parents c)
termination_by queue => (registry.unseen seen, queue.length)
decreasing_by
  · exact Prod.Lex.right _ (by simp)
  · exact Prod.Lex.left _ _ (registry.unseen_cons_lt (by grind) (by grind))

/-- Every class reached from `c` by one or more parent edges. -/
def ancestors (registry : Registry) (c : ClassId) : List ClassId :=
  registry.climb [] (registry.parents c)

/-- Whether a builtin data type is reached by between one and `depth` parent edges. -/
def reachesBuiltin (registry : Registry) : Nat → ClassId → Bool
  | 0, _ => false
  | depth + 1, c =>
    (registry.parents c).any fun parent =>
      registry.isBuiltin parent || reachesBuiltin registry depth parent

/-- Whether some ancestor of a class is a builtin data type. As many levels are searched as there
are classes, which is enough wherever no class is above itself. -/
def aliasesBuiltin (registry : Registry) (c : ClassId) : Bool :=
  registry.reachesBuiltin registry.classes.size c

/-- A leaf has no children and stands for no builtin data type. -/
def isLeaf (registry : Registry) (c : ClassId) : Bool :=
  (((registry.node? c).map (·.children)).getD []).isEmpty && !registry.aliasesBuiltin c

end OntoTypes.Registry
