import JsonValidators.Pattern
import JsonValidators.Pattern.Automaton.Chars
import JsonValidators.Pattern.Automaton.Words

/-!
Automata of patterns, as far as their size is concerned. Texts are read in both
directions: forwards to find the end of a match and its groups, and backwards to
find its start. A pattern is too large if one of the two automata is.
-/

namespace JsonValidators.Pattern

/-- The direction in which an automaton reads a text. -/
inductive Direction where
  | forward
  | backward
  deriving DecidableEq

/-- How a part of an automaton ends: in a state that leads on to one other state, or
in a choice, to which what follows is added as one more branch. -/
inductive Ending where
  | state
  | choice

namespace Ending

def lead : Ending → Build Unit
  | state => pure ()
  | choice => Build.branches 1

end Ending

/-- One part after another. No part at all is a state of its own. -/
def chain : List (Build Ending) → Build Ending
  | [] => do
    let _ ← Build.plain
    return .state
  | [part] => part
  | part :: rest => do
    let ending ← part
    ending.lead
    chain rest

/-- More of the same part behind an ending. -/
def again (part : Build Ending) : Nat → Ending → Build Ending
  | 0, ending => pure ending
  | count + 1, ending => do
    let next ← part
    ending.lead
    again part count next

def exactly (part : Build Ending) : Nat → Build Ending
  | 0 => chain []
  | count + 1 => do again part count (← part)

def optional (part : Build Ending) : Build Ending := do
  let _ ← Build.plain
  let ending ← part
  let _ ← Build.plain
  Build.branches 2
  ending.lead
  return .state

/-- A part any number of times, each of which takes up something. -/
def loop (part : Build Ending) : Build Ending := do
  let _ ← Build.plain
  let ending ← part
  Build.branches 1
  ending.lead
  return .choice

/-- A part any number of times, if it may take up nothing: one or more times, all of
it once or not at all. -/
def emptyLoop (part : Build Ending) : Build Ending := do
  let ending ← part
  let _ ← Build.plain
  ending.lead
  Build.branches 1
  let _ ← Build.plain
  let _ ← Build.plain
  Build.branches 3
  return .state

def atLeast (part : Build Ending) (takesUp : Bool) : Nat → Build Ending
  | 0 => if takesUp then loop part else emptyLoop part
  | count + 1 => do
    let ending ← exactly part (count + 1)
    let _ ← Build.plain
    ending.lead
    Build.branches 1
    return .choice

/-- More of the same part behind an ending, each of which may be the last. -/
def upTo (part : Build Ending) : Nat → Ending → Build Ending
  | 0, ending => pure ending
  | count + 1, ending => do
    let _ ← Build.plain
    let next ← part
    ending.lead
    Build.branches 2
    upTo part count next

def between (part : Build Ending) (least more : Nat) : Build Ending := do
  let ending ← exactly part least
  let _ ← Build.plain
  let ending ← upTo part more ending
  ending.lead
  return .state

def repetitionAutomaton (part : Build Ending) (takesUp : Bool) (least : Nat) :
    Option Nat → Build Ending
  | none => atLeast part takesUp least
  | some most =>
    if least = 0 ∧ most = 1 then optional part
    else if least = most then exactly part least
    else between part least (most - least)

/-- Lead to a part from a choice, and from the part to the common end. -/
def branch (part : Build Ending) : Build Unit := do
  let ending ← part
  Build.branches 1
  ending.lead

def oneOfParts : List (Build Ending) → Build Ending
  | [] => chain []
  | [part] => part
  | first :: second :: rest => do
    branch first
    branch second
    let _ ← Build.plain
    let _ ← Build.plain
    rest.forM branch
    return .state

def literalBytes (chars : List Char) : List Nat := chars.flatMap fun c => bytesOf c.toNat

/-- The bytes of a pattern that is a literal, in the order in which they are read. -/
def word? (direction : Direction) : Pattern → Option Word
  | literal chars =>
    let bytes := literalBytes chars
    some (if direction = .forward then bytes else bytes.reverse)
  | _ => none

mutual

def automaton (direction : Direction) : Pattern → Build Ending
  | empty | assertion _ => chain []
  | literal chars => chain ((literalBytes chars).map fun _ => chain [])
  | oneOf set => do
    if direction = .forward then charsForward set else charsBackward set
    return .state
  | repetition least most _ inner =>
    repetitionAutomaton (automaton direction inner) (inner.minLength.any (0 < ·)) least most
  | capture _ inner =>
    match direction with
    | .forward => do
      let _ ← Build.plain
      let ending ← automaton direction inner
      let _ ← Build.plain
      ending.lead
      return .state
    | .backward => automaton direction inner
  | concat parts =>
    let parts := automata direction parts
    chain (if direction = .forward then parts else parts.reverse)
  | alternation branches =>
    match branches.mapM (word? direction) with
    | some words => do
      wordsAutomaton words
      return .state
    | none => oneOfParts (automata direction branches)

def automata (direction : Direction) : List Pattern → List (Build Ending)
  | [] => []
  | pattern :: rest => automaton direction pattern :: automata direction rest

end

/-- Any bytes in front of a match. They are read unless matches are at an end of the
text only. -/
def leadIn (anchored : Bool) : Build Ending :=
  if anchored then chain []
  else
    loop do
      let _ ← Build.plain
      let _ ← Build.ranges 1
      return .state

/-- The automaton that finds matches of a pattern. Forwards, a match is a group. -/
def search (direction : Direction) (pattern : Pattern) : Build Unit := do
  let anchored := if direction = .forward then pattern.startsAtStart else pattern.endsAtEnd
  let start ← leadIn anchored
  let ending ← automaton direction (capture 0 pattern)
  let _ ← Build.plain
  ending.lead
  start.lead

/-- Whether both automata of a pattern are within the limit. -/
def fits (pattern : Pattern) : Bool :=
  (search .forward pattern).fits && (search .backward pattern).fits

end JsonValidators.Pattern
