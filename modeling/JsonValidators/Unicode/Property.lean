import JsonValidators.Unicode.Age
import JsonValidators.Unicode.Segmentation

/-!
Sets of characters by the name of a property, or by a property and its value.
Names are compared without regard to case, blanks, hyphens and underscores.
-/

namespace JsonValidators.Unicode

/-- A name in lower case without blanks, hyphens and underscores. -/
def plainName (name : List Char) : List Char :=
  (name.filter fun c => !(c == ' ' || c == '-' || c == '_') && c.toNat < 0x80).map Char.toLower

/-- A plain name from which a leading `is` is left out, except in `isc`. -/
def normalizeName : List Char → String
  | i :: s :: rest =>
    if i.toLower = 'i' ∧ s.toLower = 's' then
      if plainName rest = ['c'] then "isc" else String.ofList (plainName rest)
    else
      String.ofList (plainName (i :: s :: rest))
  | name => String.ofList (plainName name)

/-- The characters of a property that is given by one name: a property that is
either there or not, a general category, or a script. -/
def namedSet? (name : List Char) : Option CharSet :=
  let name := normalizeName name
  (binarySet? name).or ((categorySet? name).or (scriptSet? name))

def valuedSet? (property value : List Char) : Option CharSet :=
  let property := normalizeName property
  let value := normalizeName value
  if property = "generalcategory" ∨ property = "gc" then categorySet? value
  else if property = "script" ∨ property = "sc" then scriptSet? value
  else if property = "scriptextensions" ∨ property = "scx" then scriptExtensionSet? value
  else if property = "age" then ageSet? value
  else if property = "graphemeclusterbreak" ∨ property = "gcb" then roleSet? value clusterRoles
  else if property = "wordbreak" ∨ property = "wb" then roleSet? value wordRoles
  else if property = "sentencebreak" ∨ property = "sb" then roleSet? value sentenceRoles
  else none

end JsonValidators.Unicode
