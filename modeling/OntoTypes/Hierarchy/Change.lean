import OntoTypes.Hierarchy.Ancestry

/-!
# Changes to a registry

The single changes that a registry admits. Each of them first makes sure that it may take place and
then takes place as a whole, so that a refused change leaves no trace. Once a registry is frozen no
class can be registered any more, and no registered class can be changed.

Main definitions:

* `Registry.declare`, `Registry.declareAgain` — a class under a new or a used identifier;
* `Registry.link` — a subclass edge, refused if it would close a cycle;
* `Registry.describe`, `Registry.supersede`, `Registry.attachProperty`, `Registry.attachMember` —
  what is recorded about one class;
* `Registry.freeze` — the last change.
-/

namespace OntoTypes.Registry

/-- The registry with one class changed, unless the class is frozen. -/
def change (registry : Registry) (c : ClassId) (f : ClassNode → ClassNode) :
    Except Error Registry :=
  if registry.isFrozenClass c then .error (.frozenClass (registry.subjectText c))
  else .ok (registry.modify c f)

/-- The registry with one more class. A class registered under the same identifier gives up its
place to the new one. -/
def declare (registry : Registry) (node : ClassNode) : Except Error Registry :=
  if registry.isFrozen then .error .frozenRegistry else .ok (registry.register node)

/-- The registry with a class that is there already registered under the text of its subject. -/
def declareAgain (registry : Registry) (c : ClassId) : Except Error Registry :=
  if registry.isFrozen then .error .frozenRegistry else .ok (registry.enter c)

/-- Whether an edge from `child` to `parent` would let a class be its own ancestor. -/
def closesCycle (registry : Registry) (child parent : ClassId) : Bool :=
  parent = child || (registry.ancestors parent).contains child

/-- The registry with one more subclass edge. -/
def link (registry : Registry) (child parent : ClassId) : Except Error Registry :=
  -- cycles come first: an edge that closes one is refused as such in a frozen registry too
  if registry.closesCycle child parent then
    .error (.inheritanceCycle (registry.subjectText child) (registry.subjectText parent))
  else if registry.isFrozenClass child then .error (.frozenClass (registry.subjectText child))
  else if registry.isFrozenClass parent then .error (.frozenClass (registry.subjectText parent))
  else .ok (registry.addEdge child parent)

/-- The registry with a class described by `text`. -/
def describe (registry : Registry) (c : ClassId) (text : String) : Except Error Registry :=
  registry.change c fun node => { node with description := some text }

/-- The registry with `target` as one more class by which a class is superseded. -/
def supersede (registry : Registry) (c target : ClassId) : Except Error Registry :=
  registry.change c fun node => { node with supersededBy := node.supersededBy ++ [target] }

/-- The registry with one more property of a class. -/
def attachProperty (registry : Registry) (property : PropertyId) (owner : ClassId) :
    Except Error Registry :=
  registry.change owner fun node => { node with properties := node.properties ++ [property] }

/-- The registry with one more member of the enumeration of a class. -/
def attachMember (registry : Registry) (member : MemberNode) (owner : ClassId) :
    Except Error Registry :=
  registry.change owner fun node => { node with members := node.members ++ [member] }

/-- The registry with its index and its registered classes read-only from now on. -/
def freeze (registry : Registry) : Registry := { registry with isFrozen := true }

/-- Nothing is frozen in a registry that is not. -/
@[simp] theorem isFrozenClass_of_unfrozen {registry : Registry} (h : registry.isFrozen = false)
    (c : ClassId) : registry.isFrozenClass c = false := by
  rw [isFrozenClass, h, Bool.false_and]

end OntoTypes.Registry
