import OntoTypes.Attempt
import OntoTypes.Hierarchy.Change

/-!
# Building a registry

A build is a sequence of changes to a registry with decisions in between. It may fail and it
collects messages; the changes made before a failure stay made.

Main definitions:

* `Workspace` — the registry and the messages so far;
* `Build`, with `Build.apply` for a change and `Build.note` for a message.

The lemmas say what each of the building blocks does to a workspace.
-/

namespace OntoTypes

/-- What a build works on. -/
structure Workspace where
  registry : Registry := {}
  notes    : List Diagnostic := []

/-- A sequence of changes that may fail. What has been done stays done. -/
abbrev Build := EStateM Error Workspace

namespace Build

/-- The registry as it is. -/
def registry : Build Registry := fun w => .ok w.registry w

/-- A change of the registry. -/
def apply (change : Registry → Except Error Registry) : Build Unit := fun w =>
  match change w.registry with
  | .ok registry => .ok () { w with registry := registry }
  | .error e => .error e w

/-- A message. -/
def note (level : Level) (text : String) : Build Unit := fun w =>
  .ok () { w with notes := w.notes ++ [⟨level, text⟩] }

/-- An attempt, as a build that leaves the registry as it is. -/
def ofAttempt (x : Attempt α) : Build α := fun w =>
  match x.outcome with
  | .ok a => .ok a { w with notes := w.notes ++ x.notes }
  | .error e => .error e { w with notes := w.notes ++ x.notes }

/-- A result that may be an error. -/
def ofExcept (x : Except Error α) : Build α := fun w =>
  match x with
  | .ok a => .ok a w
  | .error e => .error e w

/-- The class that `subject` refers to as `reference`, wanted for `role`. -/
def resolve (reference subject role : String) : Build ClassId := do
  ofExcept ((← registry).resolve reference subject role)

/-- The second part of a build starts where the first one has ended. -/
theorem bind_apply (x : Build α) (f : α → Build β) (w : Workspace) :
    (x >>= f) w =
      match x w with
      | .ok a w' => f a w'
      | .error e w' => .error e w' := by
  change EStateM.bind x f w = _
  rw [EStateM.bind]
  cases x w <;> rfl

/-- Looking at the registry changes nothing. -/
theorem registry_apply (w : Workspace) : registry w = .ok w.registry w := rfl

/-- Looking up a class either finds it or fails, and it changes nothing. -/
theorem resolve_apply (reference subject role : String) (w : Workspace) :
    resolve reference subject role w =
      match w.registry.get? reference with
      | some c => .ok c w
      | none => .error (.unresolvedReference subject reference role) w := by
  rw [resolve, bind_apply, registry_apply]
  simp only [ofExcept, Registry.resolve]
  cases w.registry.get? reference <;> rfl

end Build

end OntoTypes
