import JsonValidators.Json

/-!
Equality of JSON values that ignores the order of keys. The two relations in use
differ only in which numbers they identify, so both are instances of one.
-/

namespace JsonValidators.Json

mutual

/-- Equality up to the order of keys, over a relation between numbers. Arrays
agree item by item. Objects of the same size agree if every key of the first is
a key of the second with an agreeing value. -/
def equalBy (sameNumber : Number → Number → Bool) : Json → Json → Bool
  | null, null => true
  | bool x, bool y => x == y
  | number x, number y => sameNumber x y
  | string x, string y => x == y
  | array xs, array ys => equalItemsBy sameNumber xs ys
  | object xs, object ys => xs.length == ys.length && coveredBy sameNumber xs ys
  | _, _ => false

def equalItemsBy (sameNumber : Number → Number → Bool) : List Json → List Json → Bool
  | [], [] => true
  | x :: xs, y :: ys => equalBy sameNumber x y && equalItemsBy sameNumber xs ys
  | _, _ => false

/-- Every entry of the first list is found in the second with an agreeing value. -/
def coveredBy (sameNumber : Number → Number → Bool) :
    List (String × Json) → List (String × Json) → Bool
  | [], _ => true
  | (key, x) :: xs, ys =>
    (match Entries.get? ys key with
      | some y => equalBy sameNumber x y
      | none => false) && coveredBy sameNumber xs ys

end

/-- The equality that constants are checked with: numbers of different kinds
agree if they round to the same binary64 number. -/
def equivalent (x y : Json) : Bool := equalBy Number.agrees x y

/-- The equality of reports: an integer and a float are never the same. -/
def same (x y : Json) : Bool := equalBy Number.same x y

def sameOption : Option Json → Option Json → Bool
  | none, none => true
  | some x, some y => same x y
  | _, _ => false

end JsonValidators.Json
