/-!
The algebra of outcomes: a value or an error, where the first error met is
passed on untouched.
-/

namespace JsonValidators

/-- A value, or the error that stands in its place. -/
abbrev Outcome (ε α : Type) := Except ε α

namespace Outcome

variable {ε δ α β γ : Type}

def map (f : α → β) : Outcome ε α → Outcome ε β
  | .ok a => .ok (f a)
  | .error e => .error e

/-- Join two values. Of two errors the first stands. -/
def zipWith (f : α → β → γ) : Outcome ε α → Outcome ε β → Outcome ε γ
  | .ok a, .ok b => .ok (f a b)
  | .error e, _ => .error e
  | .ok _, .error e => .error e

def bind (f : α → Outcome ε β) : Outcome ε α → Outcome ε β
  | .ok a => f a
  | .error e => .error e

def mapError (f : ε → δ) : Outcome ε α → Outcome δ α
  | .ok a => .ok a
  | .error e => .error (f e)

def getD (default : α) : Outcome ε α → α
  | .ok a => a
  | .error _ => default

def value? : Outcome ε α → Option α
  | .ok a => some a
  | .error _ => none

def error? : Outcome ε α → Option ε
  | .ok _ => none
  | .error e => some e

def values (outcomes : List (Outcome ε α)) : List α := outcomes.filterMap value?

end Outcome

end JsonValidators
