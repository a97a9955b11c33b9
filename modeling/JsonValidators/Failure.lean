import JsonValidators.Fault
import JsonValidators.Json.Equality
import JsonValidators.Outcome
import JsonValidators.Output

/-!
Finished failures, as a caller sees them: with the input that was checked and
the location as text. Failures of independent checks are collected in order.
-/

namespace JsonValidators

/-- Why a check of an input failed. -/
structure Failure where
  input : Option Json
  location : String
  message : String
  path : Path

/-- A fault together with the input whose check ended in it. -/
def Fault.toFailure (input : Option Json) (fault : Fault) : Failure :=
  ⟨input, fault.path.fullText, fault.message, fault.path⟩

namespace Failure

def oneLine (failure : Failure) : String :=
  "Failed at " ++ failure.location ++ ": " ++ failure.message

def text (failure : Failure) : String :=
  "Input: " ++ Json.optionText failure.input ++ "\n" ++ failure.oneLine

/-- Equality field by field. Inputs are compared without regard to the order of keys. -/
def same (x y : Failure) : Bool :=
  Json.sameOption x.input y.input && x.location == y.location && x.message == y.message &&
    x.path == y.path

end Failure

/-- What a logger is told about a failure. -/
structure LogCall where
  location : String
  input : Option Json
  message : String

def LogCall.ofFailure (failure : Failure) : LogCall :=
  ⟨failure.location, failure.input, failure.message⟩

/-- The two lines that a failure takes up on the standard error stream. -/
def LogCall.report (call : LogCall) : String :=
  "validation failed at " ++ call.location ++ ": " ++ call.message ++ "\ninput: " ++
    Json.optionText call.input ++ "\n"

/-- One failure or more, in order. -/
structure Failures where
  head : Failure
  tail : List Failure

namespace Failures

def ofFailure (failure : Failure) : Failures := ⟨failure, []⟩

def toList (failures : Failures) : List Failure := failures.head :: failures.tail

def length (failures : Failures) : Nat := failures.toList.length

/-- The failures of the first collection and then those of the second. -/
def append (earlier later : Failures) : Failures :=
  ⟨earlier.head, earlier.tail ++ later.toList⟩

def text (failures : Failures) : String :=
  "Validation failed with " ++ toString failures.length ++ " error(s):\n" ++
    String.join ((failures.toList.zipIdx 1).map fun (failure, number) =>
      "  " ++ toString number ++ ". " ++ failure.oneLine ++ "\n")

/-- The outputs of independent checks, or the failures of all that failed. -/
def accumulate : List (Outcome Failures Output) → Outcome Failures (List Output)
  | [] => .ok []
  | outcome :: outcomes =>
    match outcome, accumulate outcomes with
    | .ok output, .ok outputs => .ok (output :: outputs)
    | .ok _, .error later => .error later
    | .error earlier, .ok _ => .error earlier
    | .error earlier, .error later => .error (append earlier later)

def joinLeft? : List Failures → Option Failures
  | [] => none
  | failures :: rest => some (rest.foldl append failures)

def joinRight? : List Failures → Option Failures
  | [] => none
  | failures :: rest =>
    match joinRight? rest with
    | some later => some (append failures later)
    | none => some failures

end Failures

/-- An error of which only the text is certain to be there. -/
inductive AnyError where
  | failure (failure : Failure)
  | failures (failures : Failures)
  /-- An error in the wrapping of another one. -/
  | wrapped (inner : AnyError)
  /-- An error of another program part. -/
  | foreign (text : String)

namespace AnyError

/-- The failure, if the error is one itself. Wrapping hides it. -/
def failure? : AnyError → Option Failure
  | failure found => some found
  | _ => none

def isFailure (error : AnyError) : Bool := error.failure?.isSome

/-- The error behind an error. Failures are not caused by other errors, and a
wrapping passes the question on. -/
def cause? : AnyError → Option AnyError
  | wrapped inner => cause? inner
  | _ => none

end AnyError

end JsonValidators
