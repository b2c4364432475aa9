/-!
# Diagnostics

What a run has to say beside its result. Diagnostics are collected in the order in which they arise,
and they are kept when the run fails.

Main definitions:

* `Diagnostic` — one message;
* `Logged` — a value together with the messages that arose while it was computed.
-/

namespace OntoTypes

/-- How a message is meant: advice shown on request, a warning about the data, or plain progress. -/
inductive Level where
  | log
  | warn
  | print
deriving DecidableEq

/-- One message. -/
structure Diagnostic where
  level : Level
  text  : String
deriving DecidableEq

/-- A value and the messages that arose on the way to it. -/
structure Logged (α : Type) where
  value : α
  notes : List Diagnostic := []

namespace Logged

/-- A single message and nothing else. -/
def note (level : Level) (text : String) : Logged Unit := ⟨(), [⟨level, text⟩]⟩

/-- A single message if `condition` holds. -/
def noteIf (condition : Bool) (level : Level) (text : String) : Logged Unit :=
  if condition then note level text else ⟨(), []⟩

instance : Monad Logged where
  pure value := ⟨value, []⟩
  bind first next := ⟨(next first.value).value, first.notes ++ (next first.value).notes⟩

@[simp] theorem value_pure (a : α) : (pure a : Logged α).value = a := rfl

@[simp] theorem notes_pure (a : α) : (pure a : Logged α).notes = [] := rfl

@[simp] theorem value_bind (x : Logged α) (f : α → Logged β) :
    (x >>= f).value = (f x.value).value := rfl

@[simp] theorem notes_bind (x : Logged α) (f : α → Logged β) :
    (x >>= f).notes = x.notes ++ (f x.value).notes := rfl

@[simp] theorem value_map (f : α → β) (x : Logged α) : (f <$> x).value = f x.value := rfl

/-- Messages do not influence the value of a logged fold. -/
theorem value_foldlM (f : β → α → Logged β) (b : β) (items : List α) :
    (items.foldlM f b).value = items.foldl (fun b a => (f b a).value) b := by
  induction items generalizing b with
  | nil => rfl
  | cons a items ih => simp [List.foldlM_cons, ih]

end Logged

end OntoTypes
