import JsonValidators.Json.Text
import JsonValidators.Kind
import JsonValidators.Output

/-!
Changes of produced values that descriptions have names for.
-/

namespace JsonValidators

/-- The size of a value that has one: the bytes of a string in UTF-8, the items of
an array, the keys of an object. -/
def Json.size? : Option Json → Option Nat
  | some (.string value) => some value.utf8ByteSize
  | some (.array items) => some items.length
  | some (.object entries) => some entries.length
  | _ => none

/-- Changes of a value that may be missing. -/
inductive Mapping where
  | identity
  /-- The description as a string. -/
  | kind
  /-- The text as a string. -/
  | text
  /-- An array of the value. -/
  | wrap
  | undefined
  | null
  | size
  /-- Twice a number. -/
  | double
  /-- The keys of an object. -/
  | keys
  deriving DecidableEq

namespace Mapping

def ofName? (name : String) : Option Mapping :=
  if name = "identity" then some identity
  else if name = "describe" then some kind
  else if name = "render" then some text
  else if name = "wrap" then some wrap
  else if name = "undefined" then some undefined
  else if name = "null" then some null
  else if name = "size" then some size
  else if name = "double" then some double
  else if name = "keys" then some keys
  else none

/-- The changed value. Sizes, doubles and keys are missing where a value has none. -/
def apply : Mapping → Option Json → Option Json
  | identity, value => value
  | kind, value => some (.string (Kind.of value).description)
  | text, value => some (.string (Json.optionText value))
  | wrap, value => some (.array [Json.orNull value])
  | undefined, _ => none
  | null, _ => some .null
  | size, value => (Json.size? value).map fun size => Json.ofInt size
  | double, some (.number value) =>
    some (value.toBinary64.double.elim .null fun twice => .number (.float twice))
  | keys, some (.object entries) => some (.array ((Entries.keys entries).map Json.string))
  | _, _ => none

end Mapping

/-- Changes of a string. Only ASCII letters have a case. -/
inductive StringMapping where
  | upper
  | lower
  | append (suffix : String)
  deriving DecidableEq

def StringMapping.apply : StringMapping → String → String
  | upper, value => value.map Char.toUpper
  | lower, value => value.map Char.toLower
  | append suffix, value => value ++ suffix

end JsonValidators
