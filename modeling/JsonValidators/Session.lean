import JsonValidators.Failure
import JsonValidators.Memory

/-!
Ways to run a validator. Each of them is the plain check in another form: a
failure becomes a message, a log call, a collection of one, or a panic. Memo
cells live on from one check to the next.
-/

namespace JsonValidators

/-- The definitions that validators refer to, and how deep references to them may
be followed inside one another. -/
structure Library where
  body : String → Validator
  stages : Nat

/-- An action on the memory, which ends without a result if references are
followed too deep. -/
abbrev Session := StateT Memory Option

namespace Live

/-- Put a validator to use with memo cells of its own. -/
def assemble (validator : Validator) : Session Live := fun memory =>
  some (memory.assemble validator)

/-- An expression for the same validator with the same memo cells. -/
def share (live : Live) : Validator := .shared live.base live.validator

variable (library : Library) (live : Live)

def check (input : Option Json) : Session (Outcome Failure Output) := fun memory =>
  (live.interpret (.remembering library.body library.stages) input memory).map
    fun (outcome, memory) => (outcome.mapError (Fault.toFailure input), memory)

def checkJson (data : Json) : Session (Outcome Failure Output) := live.check library (some data)

def task (data : Json) : Session (Task (Outcome Failure Output)) := do
  return Task.pure (← live.checkJson library data)

def complaint (data : Json) : Session (Option String) := do
  return (← live.checkJson library data).error?.map Failure.oneLine

/-- The output, or the text to panic with. -/
def insist (data : Json) : Session (Outcome String Output) := do
  return (← live.checkJson library data).mapError Failure.text

/-- Whether the check passes, with the calls that a logger gets. -/
def acceptsLogging (data : Json) : Session (Bool × List LogCall) := do
  match ← live.checkJson library data with
  | .ok _ => return (true, [])
  | .error failure => return (false, [LogCall.ofFailure failure])

/-- Whether the check passes, with what is written to the standard error stream. -/
def acceptsReporting (data : Json) : Session (Bool × String) := do
  let (valid, calls) ← live.acceptsLogging library data
  return (valid, String.join (calls.map LogCall.report))

/-- The output, or a collection of the one failure. -/
def collect (data : Json) : Session (Outcome Failures Output) := do
  return (← live.checkJson library data).mapError Failures.ofFailure

end Live

end JsonValidators
