import JsonValidators.Fault
import JsonValidators.Outcome
import JsonValidators.Output

/-!
Runs: computations that read and write a state and end with a value or a fault.
A run may also end with neither, when references to definitions are followed
deeper inside one another than it is allowed.
-/

namespace JsonValidators

/-- From a state to an outcome and the next state, or to nothing. -/
def Run (σ α : Type) : Type := σ → Option (Outcome Fault α × σ)

namespace Run

variable {σ α β : Type}

def ofOutcome (outcome : Outcome Fault α) : Run σ α := fun state => some (outcome, state)

def ofValue (value : α) : Run σ α := ofOutcome (.ok value)

def ofFault (fault : Fault) : Run σ α := ofOutcome (.error fault)

/-- End with a fault at the value that is looked at. -/
def ofReason (reason : Reason) : Run σ α := ofFault (Fault.here reason)

def exhausted : Run σ α := fun _ => none

/-- Go on with the outcome, whichever it is. -/
def settle (run : Run σ α) (next : Outcome Fault α → Run σ β) : Run σ β := fun state =>
  match run state with
  | some (outcome, state) => next outcome state
  | none => none

/-- Go on with the value; a fault ends the run. -/
def bind (run : Run σ α) (next : α → Run σ β) : Run σ β :=
  run.settle fun
    | .ok value => next value
    | .error fault => ofFault fault

def mapValue (change : α → β) (run : Run σ α) : Run σ β :=
  run.settle fun outcome => ofOutcome (Outcome.map change outcome)

def mapFault (change : Fault → Fault) (run : Run σ α) : Run σ α :=
  run.settle fun outcome => ofOutcome (Outcome.mapError change outcome)

end Run

/-- A check looks at a value that may be missing. -/
abbrev Check (σ : Type) := Option Json → Run σ Output

end JsonValidators
