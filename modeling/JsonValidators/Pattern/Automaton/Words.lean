import JsonValidators.Pattern.Automaton.Draft

/-!
Automata of alternatives that are all literals. They share states for what they
begin with. A word that ends where others go on divides these others: words before
it and words behind it share no states from there on, so that the order of the
alternatives is kept.
-/

namespace JsonValidators.Pattern

/-- A literal as a sequence of bytes, in the order in which they are read. -/
abbrev Word := List Nat

/-- Divide words at those that are empty. -/
def divided : List Word → List (List Word)
  | [] => [[]]
  | [] :: rest => [] :: divided rest
  | word :: rest =>
    match divided rest with
    | chunk :: others => (word :: chunk) :: others
    | [] => [[word]]

/-- The words that are left at a place, divided where a word ends. Of empty words at
the front only one counts. -/
def chunks (words : List Word) : List (List Word) :=
  divided (if words.head? = some [] then [] :: words.dropWhile List.isEmpty else words)

/-- What is left of words behind each byte that some of them begin with. -/
def continuations (words : List Word) : List (List Word) :=
  (words.filterMap List.head?).eraseDups.map fun byte =>
    words.filterMap fun word => if word.head? = some byte then some word.tail else none

/-- The states for words of at most some length. Each part between ends of words is
a state with a transition for each byte, and a choice leads to these parts and to
the ends of words. -/
def wordStates : Nat → List Word → Build Unit
  | 0, _ => pure ()
  | length + 1, words => do
    let chunks := chunks words
    for chunk in chunks do
      let rests := continuations chunk
      for rest in rests do
        if ¬ rest.all List.isEmpty then wordStates length rest
      if 1 < rests.length then
        let _ ← Build.ranges rests.length
      else if rests.length = 1 then
        let _ ← Build.plain
    let _ ← Build.state
      (((chunks.filter fun chunk => ¬ chunk.isEmpty).length + (chunks.length - 1)) *
        Draft.branchSize)

def wordsAutomaton (words : List Word) : Build Unit := do
  let _ ← Build.plain
  wordStates ((words.map List.length).foldl max 0 + 1) words

end JsonValidators.Pattern
