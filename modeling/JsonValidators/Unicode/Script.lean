import JsonValidators.Unicode.ScriptExtensionTable
import JsonValidators.Unicode.ScriptTable
import JsonValidators.Unicode.Decoding

/-!
Scripts: the one script that a character is assigned to, and the scripts that it
is used in. The two differ for the characters of the table of extensions only.
-/

namespace JsonValidators.Unicode

def scriptRuns : List Run := runsOfTable scriptTable

/-- The code of a script, by one of its normalized names. -/
def scriptCode? (name : String) : Option String :=
  ((words scriptNames).map (splitAtChar '/')).findSome? fun entry =>
    if (entry.drop 1).contains name.toList then entry.head?.map String.ofList else none

/-- The characters that are assigned to a script, by one of its normalized names. -/
def scriptSet? (name : String) : Option CharSet :=
  (scriptCode? name).map fun code => setOfRuns scriptRuns (· == code)

/-- The characters that are used in some scripts besides their own, with the codes
of these scripts. -/
def scriptExtensions : List (CharSet × List String) :=
  (words scriptExtensionTable).map fun word =>
    let ranges := word.takeWhile (· != ':')
    let codes := (word.dropWhile (· != ':')).drop 1
    (CharSet.ofRanges ((splitAtChar ',' ranges).flatMap rangesOfWord),
      (splitAtChar ',' codes).map String.ofList)

/-- The characters that are used in a script, by one of its normalized names. -/
def scriptExtensionSet? (name : String) : Option CharSet :=
  (scriptCode? name).map fun code =>
    let extended := CharSet.unions (scriptExtensions.map Prod.fst)
    let added := (scriptExtensions.filter fun (_, codes) => codes.contains code).map Prod.fst
    ((setOfRuns scriptRuns (· == code)).diff extended).union (CharSet.unions added)

end JsonValidators.Unicode
