import JsonValidators.Unicode.AgeTable
import JsonValidators.Unicode.Decoding

/-!
The age of characters: the version of the standard that first assigned them.
-/

namespace JsonValidators.Unicode

def ageRuns : List Run := runsOfTable ageTable

/-- A version of the standard in numbers: the version, and the one within it. -/
def versionOf (text : List Char) : Nat × Nat :=
  match splitAtChar '.' text with
  | major :: minor :: _ => (decimal major, decimal minor)
  | _ => (0, 0)

/-- The versions that assigned characters, as they are written in the table. -/
def versions : List String := ((ageRuns.map Run.value).filter (· != "v0")).eraseDups

/-- The version that a normalized name denotes: `6.1`, or the letter `v` and all
digits without a point. -/
def version? (name : String) : Option String :=
  versions.find? fun version =>
    let text := version.toList.drop 1
    name.toList == text || name.toList == 'v' :: text.filter (· != '.')

def isUpTo (version limit : String) : Bool :=
  let (major, minor) := versionOf (version.toList.drop 1)
  let (lastMajor, lastMinor) := versionOf (limit.toList.drop 1)
  major < lastMajor || (major == lastMajor && minor ≤ lastMinor)

def ageSet? (name : String) : Option CharSet :=
  (version? name).map fun limit =>
    setOfRuns ageRuns fun version => version != "v0" && isUpTo version limit

end JsonValidators.Unicode
