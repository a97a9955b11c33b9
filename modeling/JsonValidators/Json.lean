import JsonValidators.Entries
import JsonValidators.Json.Number

/-!
JSON values, and the absence of one. A missing key or an index past the end
leads to no value at all, which is written `none` and described as undefined;
it is not the value null.
-/

namespace JsonValidators

/-- A JSON value. The keys of an object are in the order they were written in. -/
inductive Json where
  | null
  | bool (value : Bool)
  | number (value : Number)
  | string (value : String)
  | array (items : List Json)
  | object (entries : List (String × Json))

namespace Json

/-- An integer as a value; one that is out of range has none and becomes null. -/
def ofInt (value : Int) : Json := (Number.ofInt? value).elim null number

/-- A number that need not be finite. Only finite ones are JSON numbers. -/
def ofFloat64 : Float64 → Json
  | .finite value => number (.float value)
  | .infinite _ => null
  | .nan => null

/-- What a possibly missing value leaves in an array: null in place of nothing. -/
def orNull (value : Option Json) : Json := value.getD null

def asString? : Json → Option String
  | string value => some value
  | _ => none

def asNumber? : Json → Option Number
  | number value => some value
  | _ => none

def asArray? : Json → Option (List Json)
  | array items => some items
  | _ => none

def asObject? : Json → Option (Entries Json)
  | object entries => some entries
  | _ => none

def get? (value : Json) (key : String) : Option Json :=
  value.asObject?.bind fun entries => Entries.get? entries key

end Json

end JsonValidators
