import JsonValidators.Json

/-!
What checks produce, before it is turned into JSON. A produced list may hold
undefined items and a produced number need not be finite, so an output is more
than a JSON value; `Output.toJson?` says what it comes to.
-/

namespace JsonValidators

/-- A produced value. -/
inductive Output where
  /-- No value. -/
  | undefined
  /-- A JSON value as it is. -/
  | json (value : Json)
  /-- A number, not necessarily finite. -/
  | float (value : Float64)
  /-- A value of its own or none: what an optional check makes of a present value. -/
  | present (output : Output)
  /-- The items of an array or the parts of a tuple. -/
  | list (items : List Output)
  /-- The entries of a dictionary, under distinct keys. -/
  | dictionary (entries : List (String × Output))

namespace Output

def ofOption : Option Json → Output
  | none => undefined
  | some value => json value

mutual

/-- The JSON value of an output. An undefined item of a list becomes null, an
undefined entry of a dictionary is left out, and a number that is not finite
becomes null. -/
def toJson? : Output → Option Json
  | undefined => none
  | json value => some value
  | float value => some (Json.ofFloat64 value)
  | present output => toJson? output
  | list items => some (.array (itemsJson items))
  | dictionary entries => some (.object (entriesJson entries))

/-- The items of an array, with null in place of nothing. -/
def itemsJson : List Output → List Json
  | [] => []
  | item :: items => Json.orNull (toJson? item) :: itemsJson items

/-- The entries of an object, without those that come to nothing. -/
def entriesJson : List (String × Output) → List (String × Json)
  | [] => []
  | (key, output) :: entries =>
    match toJson? output with
    | some value => (key, value) :: entriesJson entries
    | none => entriesJson entries

end

/-- The entries of an object. An output that is no object has none. -/
def entries (output : Output) : Entries Json := (output.toJson?.bind Json.asObject?).getD []

def string? (output : Output) : Option String := output.toJson?.bind Json.asString?

end Output

/-- A constant. Inputs are compared with it as a JSON value, and a match produces it as it is. For
most constants the two come to the same, but one that stands for no value is compared as null. -/
structure Literal where
  /-- What the input is compared with. -/
  toJson : Json
  /-- What a match produces. -/
  toOutput : Output

namespace Literal

def json (value : Json) : Literal := ⟨value, .json value⟩

/-- A number, not necessarily finite. -/
def float (value : Float64) : Literal := ⟨Json.ofFloat64 value, .float value⟩

/-- A constant or none, which is compared as null and produced as nothing. -/
def ofOption : Option Literal → Literal
  | none => ⟨.null, .undefined⟩
  | some literal => ⟨literal.toJson, .present literal.toOutput⟩

end Literal

end JsonValidators
