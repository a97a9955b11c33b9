import JsonValidators.Pattern

/-!
Matching asks whether some part of a text is described by a pattern, so it follows
sets of places instead of searching.
-/

namespace JsonValidators.Pattern

/-- A set of places in a text: one truth value for each place, from the one before
the first character to the one behind the last. -/
abbrev Places := List Bool

def advance (set : CharSet) (text : List Char) (places : Places) : Places :=
  false :: List.zipWith (fun here c => here && set.has c) places text

/-- The places at which a condition holds. -/
def hold (condition : Assertion) : Option Char → List Char → Places → Places
  | before, c :: rest, here :: places =>
    (here && condition.holds before (some c)) :: hold condition (some c) rest places
  | before, [], here :: _ => [here && condition.holds before none]
  | _, _, [] => []

def either (first second : Places) : Places := List.zipWith (· || ·) first second

def iterate (step : Places → Places) : Nat → Places → Places
  | 0, places => places
  | count + 1, places => iterate step count (step places)

/-- A step taken at most a number of times, until no new place is reached. -/
def iterateUpTo (step : Places → Places) : Nat → Places → Places
  | 0, places => places
  | count + 1, places =>
    let reached := either places (step places)
    if reached = places then places else iterateUpTo step count reached

mutual

/-- The places behind a match that begins at one of the given places. A text of
`n` characters has no more than `n` steps that move on, so from `n + 1` on all
numbers of repetitions reach the same places. -/
def reach (text : List Char) : Pattern → Places → Places
  | empty, places => places
  | literal chars, places =>
    chars.foldl (fun places c => advance (CharSet.single c) text places) places
  | oneOf set, places => advance set text places
  | assertion condition, places => hold condition none text places
  | repetition least most _ inner, places =>
    let limit := text.length + 1
    let more := (most.map (· - least)).getD limit
    iterateUpTo (reach text inner) (min more limit)
      (iterate (reach text inner) (min least limit) places)
  | capture _ inner, places => reach text inner places
  | concat parts, places => reachAll text parts places
  | alternation branches, places => reachAny text branches places

/-- The places behind a match of one pattern after another. -/
def reachAll (text : List Char) : List Pattern → Places → Places
  | [], places => places
  | part :: parts, places => reachAll text parts (reach text part places)

/-- The places behind a match of one of several patterns. -/
def reachAny (text : List Char) : List Pattern → Places → Places
  | [], places => places.map fun _ => false
  | branch :: branches, places =>
    either (reach text branch places) (reachAny text branches places)

end

/-- Whether some part of a text is described by a pattern. -/
def isMatch (pattern : Pattern) (text : String) : Bool :=
  (reach text.toList pattern (List.replicate (text.toList.length + 1) true)).contains true

end JsonValidators.Pattern
