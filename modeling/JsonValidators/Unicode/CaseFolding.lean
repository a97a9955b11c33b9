import JsonValidators.Unicode.Decoding
import JsonValidators.Unicode.FoldingTable

/-!
Characters that differ only in case. Two characters are variants of one another
if simple case folding takes them to the same character.
-/

namespace JsonValidators.Unicode

def signedDecimal : List Char → Int
  | '-' :: digits => -(decimal digits : Int)
  | digits => decimal digits

/-- The code points of a run at equal distances, each with what it folds to. -/
def foldingsOfWord (word : List Char) : List (Nat × Nat) :=
  match splitAtChar '/' word with
  | [first, count, step, delta] =>
    (List.range (decimal count)).map fun i =>
      let code := hexadecimal first + i * decimal step
      (code, ((code : Int) + signedDecimal delta).toNat)
  | _ => []

/-- All code points that case folding changes, each with what it folds to. -/
def foldings : List (Nat × Nat) := (words foldingTable).flatMap foldingsOfWord

end JsonValidators.Unicode

namespace JsonValidators.CharSet

/-- The set together with all characters that differ from a member only in case. -/
def foldCase (set : CharSet) : CharSet :=
  let reached := ofCodes (Unicode.foldings.filterMap fun (code, folded) =>
    if set.hasCode code || set.hasCode folded then some folded else none)
  let members := ofCodes (Unicode.foldings.filterMap fun (code, folded) =>
    if reached.hasCode folded then some code else none)
  unions [set, reached, members]

end JsonValidators.CharSet
