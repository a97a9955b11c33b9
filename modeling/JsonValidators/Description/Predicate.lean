import JsonValidators.Description.Mapping
import JsonValidators.Json.Equality

/-!
Conditions on produced values that descriptions can express.
-/

namespace JsonValidators

/-- Comparisons of numbers. -/
inductive Comparison where
  | atLeast | above | atMost | below
  deriving DecidableEq

def Comparison.holds : Comparison → Binary64 → Binary64 → Bool
  | atLeast, x, y => y.le x
  | above, x, y => y.lt x
  | atMost, x, y => x.le y
  | below, x, y => x.lt y

/-- A condition on a value that may be missing. -/
inductive Predicate where
  | always
  | never
  /-- A value with a given description. -/
  | kind (description : String)
  | compare (comparison : Comparison) (bound : Number)
  | sizeAtLeast (bound : Number)
  | equivalent (value : Json)
  | hasKey (key : String)
  | negation (inner : Predicate)

namespace Predicate

/-- Whether the condition holds for a value that may be missing. A comparison is
false for anything that is not a number, or that has no size. -/
def holds : Predicate → Option Json → Bool
  | always, _ => true
  | never, _ => false
  | kind description, value => (Kind.of value).description == description
  | compare comparison bound, some (.number value) =>
    comparison.holds value.toBinary64 bound.toBinary64
  | compare _ _, _ => false
  | sizeAtLeast bound, value =>
    ((Json.size? value).bind fun size => Number.ofInt? size).any fun size =>
      bound.toBinary64.le size.toBinary64
  | equivalent expected, some value => Json.equivalent value expected
  | equivalent _, none => false
  | hasKey key, value => (value.bind fun value => value.get? key).isSome
  | negation inner, value => !holds inner value

/-- The predicate that a JSON value describes, read at most `fuel` deep. -/
def ofJson? : Nat → Json → Option Predicate
  | 0, _ => none
  | fuel + 1, value => do
    let number? : Option Number := (value.get? "n").bind Json.asNumber?
    let name ← (value.get? "p").bind Json.asString?
    if name = "always" then return always
    else if name = "never" then return never
    else if name = "kind" then return kind (← (value.get? "is").bind Json.asString?)
    else if name = "ge" then return compare .atLeast (← number?)
    else if name = "gt" then return compare .above (← number?)
    else if name = "le" then return compare .atMost (← number?)
    else if name = "lt" then return compare .below (← number?)
    else if name = "size_ge" then return sizeAtLeast (← number?)
    else if name = "eq" then return equivalent (← value.get? "v")
    else if name = "has" then return hasKey (← (value.get? "k").bind Json.asString?)
    else if name = "not" then return negation (← ofJson? fuel (← value.get? "of"))
    else none

end Predicate

end JsonValidators
