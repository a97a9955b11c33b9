import JsonValidators.Path
import JsonValidators.Reason

/-!
A failure on its way out of nested checks. It starts at the root of the value
that the innermost check looked at; every check around it puts its own step in
front, so the finished location is read from the outside in.
-/

namespace JsonValidators

/-- What is wrong, and where as seen so far. -/
structure Fault where
  path : Path
  reason : Reason

namespace Fault

def here (reason : Reason) : Fault := ⟨Path.root, reason⟩

/-- The failure as seen from the object around it. -/
def underField (name : String) (fault : Fault) : Fault :=
  ⟨Path.cons (.field name) fault.path, fault.reason⟩

def underIndex (position : Nat) (fault : Fault) : Fault :=
  ⟨Path.cons (.index position) fault.path, fault.reason⟩

def underPath (outer : Path) (fault : Fault) : Fault := ⟨outer ++ fault.path, fault.reason⟩

def message (fault : Fault) : String := fault.reason.message

/-- One entry in the message of alternatives that did not match. -/
def entry (fault : Fault) : String := "at error" ++ fault.path.text ++ ": " ++ fault.message

/-- One step in front is a path of one step in front. -/
theorem underField_eq_underPath (name : String) (fault : Fault) :
    fault.underField name = fault.underPath (Path.ofList [.field name]) := rfl

theorem underIndex_eq_underPath (position : Nat) (fault : Fault) :
    fault.underIndex position = fault.underPath (Path.ofList [.index position]) := rfl

@[simp] theorem underPath_root (fault : Fault) : fault.underPath Path.root = fault := rfl

theorem underPath_underPath (outer inner : Path) (fault : Fault) :
    (fault.underPath inner).underPath outer = fault.underPath (outer ++ inner) := by
  simp only [underPath, Path.append_assoc]

end Fault

end JsonValidators
