import Std.Data.HashMap
import JsonValidators.Pattern.Automaton.Bytes
import JsonValidators.Pattern.Automaton.Draft

/-!
Automata of sets of characters. States that agree in their transitions are shared.
The states that may be shared are kept in slots, of which there is a limited
number. A state is kept in the slot that a hash of its transitions gives, and then
it takes the place of the one that was there before.
-/

namespace JsonValidators.Pattern

def hashOf (numbers : List Nat) : UInt64 :=
  numbers.foldl (fun hash n => (hash ^^^ n.toUInt64) * 1099511628211) 14695981039346656037

abbrev Slots := Std.HashMap Nat (List Nat × Nat)

/-- The state of a key: the one that is kept, or else a new one. -/
def Slots.shared (slots : Slots) (count : Nat) (key : List Nat) (make : Build Nat) :
    Build (Nat × Slots) := do
  let slot := (hashOf key).toNat % count
  match slots.get? slot with
  | some (kept, state) =>
    if kept = key then return (state, slots)
    else
      let state ← make
      return (state, slots.insert slot (key, state))
  | none =>
    let state ← make
    return (state, slots.insert slot (key, state))

/-- The number of slots where bytes are read from the first to the last. -/
def forwardSlots : Nat := 10000

/-- The number of slots where bytes are read from the last to the first. -/
def backwardSlots : Nat := 1000

/-- A state from which sequences of bytes of at most some length are read, and then
the end is reached. Sequences with the same first range share a transition. -/
def treeState (finish : Nat) : Nat → List (List ByteRange) → Slots → Build (Nat × Slots)
  | 0, _, slots => return (finish, slots)
  | length + 1, sequences, slots => do
    if sequences.all List.isEmpty then return (finish, slots)
    else
      let groups := sequences.splitBy fun one other => one.head? == other.head?
      let (key, slots) ← groups.foldlM (fun (key, slots) group => do
        let (next, slots) ← treeState finish length (group.map List.tail) slots
        match group.head?.bind List.head? with
        | some range => return (key ++ [range.low, range.high, next], slots)
        | none => return (key, slots)) ([], slots)
      slots.shared forwardSlots key (Build.ranges groups.length)

/-- States for a sequence of bytes that is read from the last to the first. The
result is the state to begin with. -/
def chainState : List ByteRange → Nat → Slots → Build (Nat × Slots)
  | [], next, slots => return (next, slots)
  | range :: rest, next, slots => do
    let (state, slots) ← slots.shared backwardSlots [next, range.low, range.high] Build.plain
    chainState rest state slots

def charsForward (set : CharSet) : Build Unit := do
  let finish ← Build.plain
  if set.isAscii then
    let _ ← Build.ranges set.ranges.length
  else
    let _ ← treeState finish 4 (byteSequences set) ∅

def charsBackward (set : CharSet) : Build Unit := do
  if set.isAscii then
    let _ ← Build.plain
    let _ ← Build.ranges set.ranges.length
  else
    let _ ← Build.plain
    let finish ← Build.plain
    let _ ← (byteSequences set).foldlM (fun slots sequence => do
      let (_, slots) ← chainState sequence finish slots
      Build.branches 1
      return slots) ∅

end JsonValidators.Pattern
