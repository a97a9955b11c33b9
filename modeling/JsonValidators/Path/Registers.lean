import JsonValidators.Path

/-!
Building locations step by step. The paths that are there are held in registers, by number. An
operation makes a new path out of them, in the next register, or puts something in front of one of
them in place.
-/

namespace JsonValidators.Path

/-- The paths that are there, in the order in which they were made. -/
abbrev Registers := List Path

/-- A way of making a path out of those in registers. -/
inductive Operation where
  | root
  | collect (segments : List Segment)
  /-- The path in a register with one more step behind it. -/
  | push (source : Nat) (segment : Segment)
  | reverse (source : Nat)
  /-- A path with another one in front of it, in place. -/
  | prepend (target outer : Nat)
  /-- A path with one step in front of it, in place. -/
  | prependSegment (target : Nat) (segment : Segment)

namespace Operation

/-- The register that is changed in place. Other operations fill a new one. -/
def target? : Operation → Option Nat
  | prepend target _ | prependSegment target _ => some target
  | _ => none

/-- The path that an operation makes, if the registers it reads are there. -/
def made? (registers : Registers) : Operation → Option Path
  | root => some Path.root
  | collect segments => some (ofList segments)
  | push source segment => registers[source]?.map fun path => path.push segment
  | reverse source => registers[source]?.map Path.reverse
  | prepend target outer =>
    registers[outer]?.bind fun front => registers[target]?.map fun path => front ++ path
  | prependSegment target segment => registers[target]?.map (cons segment)

def run (operation : Operation) (registers : Registers) : Option Registers :=
  (operation.made? registers).map fun path =>
    match operation.target? with
    | some target => registers.set target path
    | none => registers ++ [path]

/-- Operations one after another. -/
def runAll : List Operation → Registers → Option Registers
  | [], registers => some registers
  | operation :: operations, registers => (operation.run registers).bind (runAll operations)

variable {registers : Registers} {operation : Operation} {place : Nat} {path : Path}

/-- A new path goes behind those that are there. -/
theorem run_of_made (hmade : operation.made? registers = some path)
    (htarget : operation.target? = none) : operation.run registers = some (registers ++ [path]) := by
  rw [run, hmade, htarget]
  rfl

/-- A path that is changed in place stands where it stood. -/
theorem run_of_changed (hmade : operation.made? registers = some path)
    (htarget : operation.target? = some place) :
    operation.run registers = some (registers.set place path) := by
  rw [run, hmade, htarget]
  rfl

theorem runAll_append (front back : List Operation) (registers : Registers) :
    runAll (front ++ back) registers = (runAll front registers).bind (runAll back) := by
  induction front generalizing registers with
  | nil => rfl
  | cons operation front ih =>
    rw [List.cons_append, runAll, runAll, Option.bind_assoc]
    exact congrArg _ (funext ih)

end Operation

end JsonValidators.Path
