import JsonValidators.Check.Scalar

/-!
Checks of a value found by following a path into the input.
-/

namespace JsonValidators.Check

variable {σ : Type}

/-- Follow the steps from a place that the path has reached. A step from nothing
leads nowhere, and a step into a value of the wrong kind is a fault; either is
reported behind that step. A step may lead to nothing if it is the last. -/
def walk : Path → List Segment → Option Json → Outcome Fault (Option Json)
  | _, [], current => .ok current
  | walked, segment :: rest, current =>
    let walked := walked.push segment
    match current, segment with
    | none, _ => .error ⟨walked, .nowhere⟩
    | some (.object entries), .field name => walk walked rest (Entries.get? entries name)
    | some other, .field _ => .error ⟨walked, wrongKind .object (some other)⟩
    | some (.array items), .index position => walk walked rest items[position]?
    | some other, .index _ => .error ⟨walked, wrongKind .array (some other)⟩

/-- Any failure on a missing value says that the path leads nowhere. -/
def locatedFault (path : Path) (found : Option Json) (fault : Fault) : Fault :=
  match found with
  | none => ⟨path, .nowhere⟩
  | some _ => fault.underPath path

/-- The value at the end of a path. The check runs on a missing value too, so
that it may accept absence. -/
def follow (path : Path) (inner : Check σ) : Check σ := fun input =>
  match walk Path.root path.segments input with
  | .ok found => (inner found).mapFault (locatedFault path found)
  | .error fault => Run.ofFault fault

end JsonValidators.Check
