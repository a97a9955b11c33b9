import JsonValidators.Check.Scalar

/-!
Checks made of other checks on the same value: a value that may be missing,
alternatives, intersections and fallbacks.
-/

namespace JsonValidators.Check

variable {σ : Type}

/-- Absence is accepted; a value that is there has to pass. -/
def optional (inner : Check σ) : Check σ := fun input =>
  match input with
  | none => Run.ofValue .undefined
  | some _ => (inner input).mapValue Output.present

/-- The alternatives in order, with the entries of those that have failed. -/
def alternatives (input : Option Json) : List String → List (Check σ) → Run σ Output
  | entries, [] => Run.ofReason (.noneMatched entries)
  | entries, branch :: branches =>
    (branch input).settle fun
      | .ok output => Run.ofValue output
      | .error fault => alternatives input (entries ++ [fault.entry]) branches

/-- The first alternative that passes decides. -/
def firstOf (branches : List (Check σ)) : Check σ := fun input => alternatives input [] branches

/-- The parts in order, each merged into what the parts before it have produced. -/
def parts (input : Option Json) : Entries Json → List (Check σ) → Run σ (Entries Json)
  | merged, [] => Run.ofValue merged
  | merged, part :: rest =>
    (part input).bind fun output => parts input (Entries.merge merged output.entries) rest

/-- All parts have to pass, and their objects are merged. A later value of a key
stands in the place of the first. -/
def intersection (checks : List (Check σ)) : Check σ := fun input =>
  (parts input [] checks).mapValue (.json ∘ .object)

/-- A failure is replaced by a value. -/
def fallback (default : Output) (inner : Check σ) : Check σ := fun input =>
  (inner input).settle fun outcome => Run.ofValue (outcome.getD default)

def map (change : Output → Output) (inner : Check σ) : Check σ := fun input =>
  (inner input).mapValue change

/-- What is produced has to satisfy a condition. -/
def ensure (accepts : Output → Bool) (reason : Reason) (inner : Check σ) : Check σ := fun input =>
  (inner input).bind fun output =>
    if accepts output then Run.ofValue output else Run.ofReason reason

/-- Go on with a check of the same value that depends on what is produced. -/
def continueWith (inner : Check σ) (next : Output → Check σ) : Check σ := fun input =>
  (inner input).bind fun output => next output input

def firstCase (output : Output) (otherwise : Check σ) :
    List ((Output → Bool) × Check σ) → Check σ
  | [] => otherwise
  | (accepts, check) :: rest => if accepts output then check else firstCase output otherwise rest

end JsonValidators.Check
