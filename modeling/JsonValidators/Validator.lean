import JsonValidators.Check.Choice
import JsonValidators.Check.Location
import JsonValidators.Check.Record
import JsonValidators.Check.Sequence
import JsonValidators.Json.Equality

/-!
Validators as expressions. An expression says what to check and never looks at
data; `Validator.interpret` turns it into a check. Definitions are referred to
by name, so that validators can be recursive, and a definition is built only
when a value reaches the reference. A reference may remember what it has built
in a memo cell. The cells of an expression are numbered in the order in which
they occur, from a base that is chosen when the expression is put to use.
-/

namespace JsonValidators

/-- What to check a value for, as an expression. -/
inductive Validator where
  | string
  | number
  | boolean
  | undefined
  | anything
  | array
  | object
  /-- A value that a relation, given the value and the constant, holds for. -/
  | constant (literal : Literal) (accepts : Json → Json → Bool)
  | always (output : Output)
  | never (message : String)
  /-- Declared fields in order. Of several declarations of a name, the first gives
  the place and the last the validator. -/
  | record (declarations : List (String × Validator))
  /-- The same, without other keys. -/
  | closedRecord (declarations : List (String × Validator))
  | dictionary (value : Validator)
  | list (element : Validator)
  | tuple (elements : List Validator)
  | optional (inner : Validator)
  | firstOf (branches : List Validator)
  | intersection (parts : List Validator)
  | fallback (default : Output) (inner : Validator)
  | follow (path : Path) (inner : Validator)
  | map (change : Output → Output) (inner : Validator)
  | ensure (accepts : Output → Bool) (reason : Reason) (inner : Validator)
  /-- Go on with the validator of the first case that accepts the output. -/
  | select (inner : Validator) (cases : List ((Output → Bool) × Validator)) (otherwise : Validator)
  /-- Go on with a validator that is made from the output. -/
  | continueWith (inner : Validator) (next : Output → Validator)
  /-- Build a definition at every use. -/
  | rebuilt (definition : String)
  /-- Build a definition at the first use and remember it. -/
  | remembered (definition : String)
  /-- A validator that is in use already, together with its memo cells. -/
  | shared (base : Nat) (inner : Validator)

abbrev Fields := List (String × Validator)

namespace Fields

/-- Declare a field. A second declaration of a name replaces the validator of the
first and keeps its place. -/
def declare (fields : Fields) (name : String) (validator : Validator) : Fields :=
  Entries.insert fields name validator

def names (fields : Fields) : List String := Entries.keys fields

def contains (fields : Fields) (name : String) : Bool := Entries.contains fields name

end Fields

namespace Validator

/-- A constant compared up to the order of keys and the kinds of numbers. -/
def literal (value : Literal) : Validator := constant value Json.equivalent

/-- Forget what an output was made of. -/
def asJson (inner : Validator) : Validator := map (fun output => .ofOption output.toJson?) inner

/-- The first of several values that the input is equivalent to. -/
def anyLiteral (values : List Literal) : Validator := firstOf (values.map literal)

def matching (pattern : String) (accepts : String → Bool) (inner : Validator) : Validator :=
  ensure (fun output => output.string?.any accepts) (.unmatched pattern) inner

mutual

/-- How many memo cells an expression has. Validators that are made from an output
get theirs when they are made, and shared ones have theirs already. -/
def cells : Validator → Nat
  | remembered _ => 1
  | record declarations => fieldCells declarations
  | closedRecord declarations => fieldCells declarations
  | dictionary value => cells value
  | list element => cells element
  | tuple elements => listCells elements
  | optional inner => cells inner
  | firstOf branches => listCells branches
  | intersection parts => listCells parts
  | fallback _ inner => cells inner
  | follow _ inner => cells inner
  | map _ inner => cells inner
  | ensure _ _ inner => cells inner
  | select inner cases otherwise => cells inner + (caseCells cases + cells otherwise)
  | continueWith inner _ => cells inner
  | _ => 0

def listCells : List Validator → Nat
  | [] => 0
  | validator :: rest => cells validator + listCells rest

def fieldCells : List (String × Validator) → Nat
  | [] => 0
  | (_, validator) :: rest => cells validator + fieldCells rest

def caseCells : List ((Output → Bool) × Validator) → Nat
  | [] => 0
  | (_, validator) :: rest => cells validator + caseCells rest

end

end Validator

end JsonValidators
