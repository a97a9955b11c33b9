import JsonValidators.CharSet

/-!
Reading the tables of properties. A table is a list of lines, and a line is a
list of words with blanks between them. The words are ranges of code points, or
runs of code points that share a value.
-/

namespace JsonValidators.Unicode

def words (table : List String) : List (List Char) :=
  table.flatMap fun line => (line.splitOn " ").map String.toList

/-- The parts of a text between the places where a character stands. -/
def splitAtChar (mark : Char) (text : List Char) : List (List Char) :=
  ((String.ofList text).splitOn mark.toString).map String.toList

def decimal (digits : List Char) : Nat :=
  digits.foldl (fun n c => 10 * n + (c.toNat - '0'.toNat)) 0

/-- The number that hexadecimal digits in lower case denote. -/
def hexadecimal (digits : List Char) : Nat :=
  digits.foldl
    (fun n c => 16 * n + (if c.isDigit then c.toNat - '0'.toNat else c.toNat - 'a'.toNat + 10)) 0

/-- The ranges of a word: one code point, all from one to another, or every second
one of them if `/2` follows. -/
def rangesOfWord (word : List Char) : List CodeRange :=
  let low := hexadecimal (word.takeWhile (· != '-'))
  match word.dropWhile (· != '-') with
  | [] => [⟨low, low⟩]
  | _ :: ends =>
    let high := hexadecimal (ends.takeWhile (· != '/'))
    if ends.contains '/' then
      (List.range ((high - low) / 2 + 1)).map fun i => ⟨low + 2 * i, low + 2 * i⟩
    else
      [⟨low, high⟩]

def setOfTable (table : List String) : CharSet :=
  CharSet.ofRanges ((words table).flatMap rangesOfWord)

/-- A range of code points with the value that they share. -/
structure Run where
  range : CodeRange
  value : String

/-- The runs of a table, from a code point on. -/
def runsFrom : Nat → List (List Char) → List Run
  | _, [] => []
  | start, word :: rest =>
    let stop := start + decimal (word.takeWhile Char.isDigit)
    ⟨⟨start, stop - 1⟩, String.ofList (word.dropWhile Char.isDigit)⟩ :: runsFrom stop rest

def runsOfTable (table : List String) : List Run := runsFrom 0 (words table)

/-- The part of a range that begins and ends with characters. -/
def characters? (range : CodeRange) : Option CodeRange :=
  let isNone (code : Nat) := decide (surrogateStart ≤ code ∧ code < surrogateStop)
  let low := if isNone range.low then surrogateStop else range.low
  let high := if isNone range.high then surrogateStart - 1 else range.high
  if low ≤ high then some ⟨low, high⟩ else none

/-- The characters whose value is one of those that a test accepts. -/
def setOfRuns (runs : List Run) (accepts : String → Bool) : CharSet :=
  ⟨(CharSet.joined ((runs.filter fun run => accepts run.value).map Run.range)).filterMap
    characters?⟩

end JsonValidators.Unicode
