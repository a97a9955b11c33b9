import JsonValidators.Check.Scalar

/-!
Checks of arrays. Items are looked at in order, and the first that fails ends
the check with its index in front of the fault.
-/

namespace JsonValidators.Check

variable {σ : Type}

def items (element : Check σ) : Nat → List Json → Run σ (List Output)
  | _, [] => Run.ofValue []
  | position, item :: rest =>
    ((element (some item)).mapFault (Fault.underIndex position)).bind fun output =>
      (items element (position + 1) rest).mapValue (output :: ·)

def list (element : Check σ) : Check σ := fun input =>
  match input with
  | some (.array values) => (items element 0 values).mapValue Output.list
  | _ => Run.ofReason (wrongKind .array input)

/-- Each item by the check at its place, from an index on, as far as both last. -/
def positions : Nat → List (Check σ) → List Json → Run σ (List Output)
  | position, element :: elements, item :: rest =>
    ((element (some item)).mapFault (Fault.underIndex position)).bind fun output =>
      (positions (position + 1) elements rest).mapValue (output :: ·)
  | _, _, _ => Run.ofValue []

def tuple (elements : List (Check σ)) : Check σ := fun input =>
  match input with
  | some (.array values) =>
    if values.length = elements.length then (positions 0 elements values).mapValue Output.list
    else Run.ofReason (.tupleLength elements.length values.length)
  | _ => Run.ofReason (.notTuple elements.length (Kind.of input))

/-- A group of checks, from an index on, each on the value at its index. -/
def shapeItems (values : List Json) : Nat → List (Check σ) → Run σ (List Output)
  | _, [] => Run.ofValue []
  | position, element :: elements =>
    ((element values[position]?).mapFault (Fault.underIndex position)).bind fun output =>
      (shapeItems values (position + 1) elements).mapValue (output :: ·)

/-- A tuple by a group of checks. Whether every index has a value is clear before the first is
looked up. -/
def shape (elements : List (Check σ)) : Check σ := fun input =>
  match input with
  | some (.array values) =>
    if values.length = elements.length then (shapeItems values 0 elements).mapValue Output.list
    else Run.ofReason (.tupleLength elements.length values.length)
  | _ => Run.ofReason (.notTuple elements.length (Kind.of input))

end JsonValidators.Check
