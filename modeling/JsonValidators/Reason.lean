import JsonValidators.Json.Text
import JsonValidators.Kind

/-!
Why a check fails. Each constructor holds what went wrong; all wording is in
`Reason.message`.
-/

namespace JsonValidators

/-- What is wrong with a value. -/
inductive Reason where
  /-- A value of one kind was expected. -/
  | kind (expected got : Kind)
  /-- An array of a given length was expected in place of another kind of value. -/
  | notTuple (length : Nat) (got : Kind)
  /-- An array has the wrong length. -/
  | tupleLength (expected got : Nat)
  /-- A value differs from the constant that was expected. -/
  | differs (expected : Json) (got : Option Json)
  /-- A field rejects the absence of its key. -/
  | missingKey (name : String)
  /-- An object has a key that is not declared. -/
  | undeclaredKey (name : String)
  /-- No alternative matches; there is one entry for each. -/
  | noneMatched (entries : List String)
  /-- A path leads nowhere. -/
  | nowhere
  /-- A string does not match a pattern. -/
  | unmatched (pattern : String)
  /-- A message of the caller's. -/
  | custom (message : String)

/-- The words in front of the entries of alternatives that did not match. -/
def noneMatchedIntro : String :=
  "expected a value matching one of the decoders, got the errors "

/-- The message of a reason. The entries of alternatives are written as a JSON
array of strings. -/
def Reason.message : Reason → String
  | kind expected got => "expected " ++ expected.description ++ ", got " ++ got.description
  | notTuple length got =>
    "expected a tuple of length " ++ toString length ++ ", got " ++ got.description
  | tupleLength expected got =>
    "expected a tuple of length " ++ toString expected ++ ", got one of length " ++ toString got
  | differs expected got => "expected " ++ expected.text ++ ", got " ++ Json.optionText got
  | missingKey name => "the key '" ++ name ++ "' is required but was not present"
  | undeclaredKey name => "an undefined key '" ++ name ++ "' is present in the object"
  | noneMatched entries => noneMatchedIntro ++ (Json.array (entries.map Json.string)).text
  | nowhere => "path does not exist"
  | unmatched pattern => "expected a string matching the pattern '" ++ pattern ++ "'"
  | custom message => message

end JsonValidators
