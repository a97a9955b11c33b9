import JsonValidators.Json

/-!
Kinds of values, with the words that messages describe them by. A missing value
has a kind of its own.
-/

namespace JsonValidators

/-- The kind of a value, or of the absence of one. -/
inductive Kind where
  | undefined | null | boolean | number | string | array | object
  deriving DecidableEq

namespace Kind

def of : Option Json → Kind
  | none => undefined
  | some .null => null
  | some (.bool _) => boolean
  | some (.number _) => number
  | some (.string _) => string
  | some (.array _) => array
  | some (.object _) => object

def description : Kind → String
  | undefined => "undefined"
  | null => "null"
  | boolean => "a boolean"
  | number => "a number"
  | string => "a string"
  | array => "an array"
  | object => "an object"

theorem exists_array {input : Option Json} (h : Kind.of input = .array) :
    ∃ items, input = some (.array items) := by
  rcases input with _ | _ | _ | _ | _ | items | _
  case some.array => exact ⟨items, rfl⟩
  all_goals cases h

theorem exists_object {input : Option Json} (h : Kind.of input = .object) :
    ∃ entries, input = some (.object entries) := by
  rcases input with _ | _ | _ | _ | _ | _ | entries
  case some.object => exact ⟨entries, rfl⟩
  all_goals cases h

end Kind

end JsonValidators
