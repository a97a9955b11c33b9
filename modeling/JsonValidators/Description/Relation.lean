import JsonValidators.Json.Equality
import JsonValidators.Kind

/-!
Relations between a value and a constant that descriptions have names for.
-/

namespace JsonValidators

/-- A relation between a value and a constant. -/
inductive Relation where
  /-- Equal up to the order of keys and the kinds of numbers. -/
  | equivalent
  | always
  | never
  /-- Values with one description. -/
  | sameKind
  /-- Strings that differ at most in the case of ASCII letters. -/
  | sameIgnoringCase
  /-- A number above the constant. -/
  | greater
  /-- A string that the constant is the beginning of. -/
  | startsWith
  deriving DecidableEq

namespace Relation

def ofName? (name : String) : Option Relation :=
  if name = "json_eq" then some equivalent
  else if name = "always" then some always
  else if name = "never" then some never
  else if name = "same_kind" then some sameKind
  else if name = "ascii_ci" then some sameIgnoringCase
  else if name = "gt" then some greater
  else if name = "starts_with" then some startsWith
  else none

/-- Whether the relation holds for a value and a constant. -/
def holds : Relation → Json → Json → Bool
  | equivalent, got, expected => Json.equivalent got expected
  | always, _, _ => true
  | never, _, _ => false
  | sameKind, got, expected => Kind.of (some got) == Kind.of (some expected)
  | sameIgnoringCase, .string got, .string expected =>
    got.toList.map Char.toLower == expected.toList.map Char.toLower
  | greater, .number got, .number expected => expected.toBinary64.lt got.toBinary64
  | startsWith, .string got, .string expected => expected.toList.isPrefixOf got.toList
  | _, _, _ => false

end Relation

end JsonValidators
