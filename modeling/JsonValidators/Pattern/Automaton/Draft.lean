/-!
Automata while they are made, as far as their size is concerned. An automaton has
states, which are numbered in the order in which they are made. A state takes up a
fixed number of bytes, and some kinds of states take up more for the transitions
that they have. A draft that takes up more bytes than the limit is given up.
-/

namespace JsonValidators.Pattern

/-- What has been made of an automaton: the number of states, and the bytes that
they take up for transitions. -/
structure Draft where
  states : Nat
  transitions : Nat

namespace Draft

/-- The bytes of a state without its transitions. -/
def stateSize : Nat := 32

def rangeSize : Nat := 8

def branchSize : Nat := 4

def size (draft : Draft) : Nat := draft.states * stateSize + draft.transitions

/-- The bytes that an automaton may take up. -/
def sizeLimit : Nat := 10 * 1024 * 1024

def within? (draft : Draft) : Option Draft := if draft.size ≤ sizeLimit then some draft else none

end Draft

abbrev Build (α : Type) := StateT Draft Option α

namespace Build

/-- Make a state with transitions that take up some bytes. The result is its
number. -/
def state (transitions : Nat) : Build Nat := fun draft =>
  (Draft.within? ⟨draft.states + 1, draft.transitions + transitions⟩).map (draft.states, ·)

/-- Make a state that has at most one transition to another state. -/
def plain : Build Nat := state 0

def ranges (count : Nat) : Build Nat := state (count * Draft.rangeSize)

def branches (count : Nat) : Build Unit := fun draft =>
  (Draft.within? ⟨draft.states, draft.transitions + count * Draft.branchSize⟩).map ((), ·)

def fits {α : Type} (build : Build α) : Bool := (build.run ⟨0, 0⟩).isSome

end Build

end JsonValidators.Pattern
