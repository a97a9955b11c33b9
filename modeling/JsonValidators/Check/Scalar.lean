import JsonValidators.Output
import JsonValidators.Run

/-!
Checks that look at a value as a whole: its kind, a constant, or nothing at all.
-/

namespace JsonValidators.Check

variable {σ : Type}

/-- The value was expected to be of another kind. -/
def wrongKind (expected : Kind) (input : Option Json) : Reason := .kind expected (Kind.of input)

def string : Check σ
  | some (.string value) => Run.ofValue (.json (.string value))
  | input => Run.ofReason (wrongKind .string input)

/-- Any number, produced as the binary64 number nearest to it. -/
def number : Check σ
  | some (.number value) => Run.ofValue (.float (.finite value.toBinary64))
  | input => Run.ofReason (wrongKind .number input)

def boolean : Check σ
  | some (.bool value) => Run.ofValue (.json (.bool value))
  | input => Run.ofReason (wrongKind .boolean input)

def undefined : Check σ
  | none => Run.ofValue .undefined
  | input => Run.ofReason (wrongKind .undefined input)

def anything : Check σ := fun input => Run.ofValue (.ofOption input)

def array : Check σ
  | some (.array items) => Run.ofValue (.json (.array items))
  | input => Run.ofReason (wrongKind .array input)

def object : Check σ
  | some (.object entries) => Run.ofValue (.json (.object entries))
  | input => Run.ofReason (wrongKind .object input)

/-- A value that the relation holds for. The constant is produced, not the value.
The relation gets the value first and the constant second. -/
def constant (literal : Literal) (accepts : Json → Json → Bool) : Check σ := fun input =>
  match input with
  | some value =>
    if accepts value literal.toJson then Run.ofValue literal.toOutput
    else Run.ofReason (.differs literal.toJson input)
  | none => Run.ofReason (.differs literal.toJson input)

def always (output : Output) : Check σ := fun _ => Run.ofValue output

def never (message : String) : Check σ := fun _ => Run.ofReason (.custom message)

end JsonValidators.Check
