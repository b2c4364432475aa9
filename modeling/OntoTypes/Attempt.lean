import OntoTypes.Diagnostic
import OntoTypes.Error

/-!
# Computations that may fail

An attempt ends in a value or an error, and in both cases with the messages that arose up to there.
-/

namespace OntoTypes

/-- A computation that collects messages and may fail. -/
abbrev Attempt := ExceptT Error Logged

namespace Attempt

/-- The outcome of an attempt without its messages. -/
def outcome (x : Attempt α) : Except Error α := x.run.value

/-- The messages of an attempt. -/
def notes (x : Attempt α) : List Diagnostic := x.run.notes

/-- An attempt without messages. -/
def ofExcept (x : Except Error α) : Attempt α := ExceptT.mk (pure x)

/-- A single message. -/
def note (level : Level) (text : String) : Attempt Unit := ExceptT.lift (Logged.note level text)

@[simp] theorem outcome_pure (a : α) : (pure a : Attempt α).outcome = .ok a := rfl

@[simp] theorem outcome_throw (e : Error) : (throw e : Attempt α).outcome = .error e := rfl

@[simp] theorem outcome_ofExcept (x : Except Error α) : (ofExcept x).outcome = x := rfl

/-- Only a successful first part lets the second one decide. -/
theorem outcome_bind (x : Attempt α) (f : α → Attempt β) :
    (x >>= f).outcome = x.outcome.bind fun a => (f a).outcome := by
  simp only [outcome, ExceptT.run_bind, Logged.value_bind]
  cases x.run.value <;> rfl

end Attempt

end OntoTypes
