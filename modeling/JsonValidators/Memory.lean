import JsonValidators.Validator.Interpret

/-!
Memo cells. A cell belongs to one reference in a validator that is in use. It is
filled when the reference is followed for the first time, with the definition
that was built then, and keeps it. What has been built, and into which cell, is
written down in order.
-/

namespace JsonValidators

/-- A validator in use, with the base of its memo cells. -/
structure Live where
  validator : Validator
  base : Nat

/-- One building of a definition, with the memo cell it went into, if any. -/
structure Building where
  definition : String
  cell : Option Nat
  deriving DecidableEq

/-- What is kept between checks. -/
structure Memory where
  /-- Cells from here on are not in use. -/
  next : Nat
  /-- The filled cells with what has been built into them. -/
  filled : List (Nat × Live)
  /-- What has been built, the latest first. -/
  built : List Building

namespace Memory

def empty : Memory := ⟨0, [], []⟩

def content? (memory : Memory) (cell : Nat) : Option Live := memory.filled.lookup cell

def reserve (memory : Memory) (cells : Nat) : Memory :=
  { memory with next := memory.next + cells }

/-- Put a validator to use with memo cells of its own. -/
def assemble (memory : Memory) (validator : Validator) : Live × Memory :=
  (⟨validator, memory.next⟩, memory.reserve validator.cells)

/-- Build a definition, for a memo cell or for a single use. -/
def build (memory : Memory) (definition : String) (cell : Option Nat) (body : Validator) :
    Live × Memory :=
  let (live, memory) := memory.assemble body
  (live, { memory with built := ⟨definition, cell⟩ :: memory.built })

def fill (memory : Memory) (definition : String) (cell : Nat) (body : Validator) :
    Live × Memory :=
  let (live, memory) := memory.build definition (some cell) body
  (live, { memory with filled := (cell, live) :: memory.filled })

def builds (memory : Memory) (definition : String) : Nat :=
  memory.built.countP fun building => building.definition == definition

end Memory

/-- The check that a validator in use stands for. -/
def Live.interpret {σ : Type} (make : Construction σ) (live : Live) : Check σ :=
  live.validator.interpret make live.base

namespace Construction

/-- Construction with memo cells, for references that are followed at most
`stages` deep inside one another. -/
def remembering (body : String → Validator) : Nat → Construction Memory
  | 0 =>
    { build := fun _ _ => Run.exhausted
      remember := fun _ _ _ => Run.exhausted
      place := fun count next memory => next memory.next (memory.reserve count) }
  | stages + 1 =>
    { build := fun definition input memory =>
        let (live, memory) := memory.build definition none (body definition)
        live.interpret (remembering body stages) input memory
      remember := fun definition cell input memory =>
        match memory.content? cell with
        | some live => live.interpret (remembering body stages) input memory
        | none =>
          let (live, memory) := memory.fill definition cell (body definition)
          live.interpret (remembering body stages) input memory
      place := fun count next memory => next memory.next (memory.reserve count) }

end Construction

end JsonValidators
