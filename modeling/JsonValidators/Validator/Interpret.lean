import JsonValidators.Validator

/-!
The meaning of an expression, over any way of building definitions. What is kept
between checks is a state of its own type, so the same meaning serves with memo
cells and without.
-/

namespace JsonValidators

/-- How the parts of a validator that exist only while it runs are built. -/
structure Construction (σ : Type) where
  /-- Build a definition and check with it. -/
  build : String → Check σ
  /-- Check with the definition that a memo cell holds, after building it if the
  cell is empty. -/
  remember : String → Nat → Check σ
  /-- Hand out a base for some new memo cells. -/
  place : Nat → (Nat → Run σ Output) → Run σ Output

namespace Validator

variable {σ : Type}

mutual

/-- The check that an expression stands for, with its memo cells numbered from a
base on. -/
def interpret (make : Construction σ) : Validator → Nat → Check σ
  | string, _ => Check.string
  | number, _ => Check.number
  | boolean, _ => Check.boolean
  | undefined, _ => Check.undefined
  | anything, _ => Check.anything
  | array, _ => Check.array
  | object, _ => Check.object
  | constant literal accepts, _ => Check.constant literal accepts
  | always output, _ => Check.always output
  | never message, _ => Check.never message
  | record declarations, base =>
    Check.record (Entries.ofList (interpretFields make declarations base))
  | closedRecord declarations, base =>
    Check.closedRecord (Entries.ofList (interpretFields make declarations base))
  | dictionary value, base => Check.dictionary (interpret make value base)
  | list element, base => Check.list (interpret make element base)
  | tuple elements, base => Check.tuple (interpretList make elements base)
  | optional inner, base => Check.optional (interpret make inner base)
  | firstOf branches, base => Check.firstOf (interpretList make branches base)
  | intersection parts, base => Check.intersection (interpretList make parts base)
  | fallback default inner, base => Check.fallback default (interpret make inner base)
  | follow path inner, base => Check.follow path (interpret make inner base)
  | map change inner, base => Check.map change (interpret make inner base)
  | ensure accepts reason inner, base => Check.ensure accepts reason (interpret make inner base)
  | select inner cases otherwise, base =>
    let fromCases := base + cells inner
    let fromOtherwise := fromCases + caseCells cases
    Check.continueWith (interpret make inner base) fun output =>
      Check.firstCase output (interpret make otherwise fromOtherwise)
        (interpretCases make cases fromCases)
  | continueWith inner next, base =>
    Check.continueWith (interpret make inner base) fun output input =>
      make.place (cells (next output)) fun fresh => interpret make (next output) fresh input
  | rebuilt definition, _ => make.build definition
  | remembered definition, base => make.remember definition base
  | shared base inner, _ => interpret make inner base

/-- The checks of a list of expressions, one block of memo cells after another. -/
def interpretList (make : Construction σ) : List Validator → Nat → List (Check σ)
  | [], _ => []
  | validator :: rest, base =>
    interpret make validator base :: interpretList make rest (base + cells validator)

/-- The checks of declarations, in order. A name may still repeat. -/
def interpretFields (make : Construction σ) :
    List (String × Validator) → Nat → List (String × Check σ)
  | [], _ => []
  | (name, validator) :: rest, base =>
    (name, interpret make validator base) :: interpretFields make rest (base + cells validator)

def interpretCases (make : Construction σ) :
    List ((Output → Bool) × Validator) → Nat → List ((Output → Bool) × Check σ)
  | [], _ => []
  | (accepts, validator) :: rest, base =>
    (accepts, interpret make validator base) :: interpretCases make rest (base + cells validator)

end

end Validator

namespace Construction

/-- Construction without memory: a definition is built at every use. References
are followed at most `stages` deep inside one another; after that a run ends with
neither a value nor a fault. -/
def forgetful (body : String → Validator) : Nat → Construction Unit
  | 0 =>
    { build := fun _ _ => Run.exhausted
      remember := fun _ _ _ => Run.exhausted
      place := fun _ next => next 0 }
  | stages + 1 =>
    { build := fun definition => Validator.interpret (forgetful body stages) (body definition) 0
      remember := fun definition _ =>
        Validator.interpret (forgetful body stages) (body definition) 0
      place := fun _ next => next 0 }

end Construction

namespace Validator

/-- The outcome of a validator by itself, with nothing kept between checks. -/
def outcome? (body : String → Validator) (stages : Nat) (validator : Validator)
    (input : Option Json) : Option (Outcome Fault Output) :=
  (interpret (.forgetful body stages) validator 0 input ()).map Prod.fst

end Validator

end JsonValidators
