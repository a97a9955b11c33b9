import JsonValidators.Check.Scalar

/-!
Checks of objects: by declared fields, or by one check for every value.
-/

namespace JsonValidators.Check

variable {σ : Type}

/-- What a field makes of the outcome of its check. A failure on a missing key is
reported at the object, any other inside the field. -/
def fieldFault (name : String) (property : Option Json) (fault : Fault) : Fault :=
  match property with
  | none => Fault.here (.missingKey name)
  | some _ => fault.underField name

/-- The declared fields in order, each on its property or on the absence of it.
An output that is undefined leaves its key out. -/
def fields (object : Entries Json) : List (String × Check σ) → Run σ (Entries Json)
  | [] => Run.ofValue []
  | (name, check) :: rest =>
    ((check (Entries.get? object name)).mapFault
        (fieldFault name (Entries.get? object name))).bind fun output =>
      (fields object rest).mapValue fun others =>
        match output.toJson? with
        | some value => (name, value) :: others
        | none => others

/-- An object by its declared fields. Other keys are ignored and left out. -/
def record (declared : Entries (Check σ)) : Check σ := fun input =>
  match input with
  | some (.object object) => (fields object declared).mapValue (.json ∘ .object)
  | _ => Run.ofReason (wrongKind .object input)

def undeclared? (declared : Entries (Check σ)) (object : Entries Json) : Option String :=
  (Entries.keys object).find? fun key => !Entries.contains declared key

/-- An object by its declared fields, without other keys. The fields come first. -/
def closedRecord (declared : Entries (Check σ)) : Check σ := fun input =>
  match input with
  | some (.object object) =>
    (fields object declared).bind fun validated =>
      match undeclared? declared object with
      | some key => Run.ofReason (.undeclaredKey key)
      | none => Run.ofValue (.json (.object validated))
  | _ => Run.ofReason (wrongKind .object input)

def values (check : Check σ) : Entries Json → Run σ (List (String × Output))
  | [] => Run.ofValue []
  | (key, value) :: rest =>
    ((check (some value)).mapFault (Fault.underField key)).bind fun output =>
      (values check rest).mapValue ((key, output) :: ·)

def dictionary (check : Check σ) : Check σ := fun input =>
  match input with
  | some (.object object) => (values check object).mapValue Output.dictionary
  | _ => Run.ofReason (wrongKind .object input)

end JsonValidators.Check
