import JsonValidators.Description.Predicate
import JsonValidators.Description.Relation
import JsonValidators.Pattern.Admission
import JsonValidators.Pattern.Matching
import JsonValidators.Session

/-!
Validators described by JSON values. A description is an object whose `t` names
a kind of validator; its other fields are the parts. The kind of output that a
description is known to produce decides where it can be used: patterns need
strings, and intersections need objects.
-/

namespace JsonValidators

/-- What a validator is known to produce. -/
inductive OutputKind where
  | string | number | boolean | object | any
  deriving DecidableEq

/-- Why a description describes nothing. -/
inductive DescriptionError where
  /-- The text of a pattern is none. -/
  | pattern (text : String)
  /-- A part is missing or not of its form. -/
  | malformed (part : String)

/-- A validator with the kind of its outputs. -/
structure Described where
  kind : OutputKind
  validator : Validator

namespace Description

/-- A value that is needed for a part. -/
def need {α : Type} (part : String) (value : Option α) : Except DescriptionError α :=
  match value with
  | some value => .ok value
  | none => .error (.malformed part)

def field (description : Json) (name : String) : Except DescriptionError Json :=
  need name (description.get? name)

def stringField (description : Json) (name : String) : Except DescriptionError String :=
  need name ((description.get? name).bind Json.asString?)

def listField (description : Json) (name : String) : Except DescriptionError (List Json) :=
  need name ((description.get? name).bind Json.asArray?)

/-- A number that need not be finite, for which there are texts. -/
def float64? : Json → Option Float64
  | .number value => some (.finite value.toBinary64)
  | .string "NaN" => some .nan
  | .string "inf" => some (.infinite false)
  | .string "-inf" => some (.infinite true)
  | _ => none

/-- One step of a path: a string is a field and an integer an index. -/
def segment? : Json → Option Segment
  | .string name => some (.field name)
  | .number (.integer position _) => if 0 ≤ position then some (.index position.toNat) else none
  | _ => none

/-- The literal that a value is as a value of a named type, with the kind it has. -/
def literal? (type : String) (value : Json) : Option (OutputKind × Literal) :=
  match value with
  | .string _ =>
    if type = "str" then some (.any, .json value)
    else if type = "string" then some (.string, .json value)
    else if type = "f64" then (float64? value).map fun number => (.number, .float number)
    else if type = "value" then some (.any, .json value)
    else none
  | .bool _ =>
    if type = "bool" then some (.boolean, .json value)
    else if type = "value" then some (.any, .json value)
    else none
  | .number _ =>
    if type = "f64" then (float64? value).map fun number => (.number, .float number)
    else if type = "i64" ∨ type = "u64" ∨ type = "value" then some (.any, .json value)
    else none
  | _ => if type = "value" then some (.any, .json value) else none

/-- The name of a type, with one that is meant where none is given. -/
def typeName (description : Json) (otherwise : String) : String :=
  ((description.get? "as").bind Json.asString?).getD otherwise

/-- The kind that a deferred or failing validator is used as. -/
def usedAs (description : Json) : OutputKind :=
  match (description.get? "as").bind Json.asString? with
  | some "object" => .object
  | some "string" => .string
  | some "number" => .number
  | some "boolean" => .boolean
  | _ => .any

def commonKind : List Described → OutputKind
  | [] => .any
  | branch :: branches =>
    if branches.all fun other => other.kind == branch.kind then branch.kind else .any

/-- A default for a validator. It keeps the kind of the validator if it is a value
of that kind. -/
def defaulted (default : Option Json) (inner : Described) : Described :=
  match inner.kind, default with
  | .string, some (.string value) =>
    ⟨.string, .fallback (.json (.string value)) inner.validator⟩
  | .number, some (.number value) =>
    ⟨.number, .fallback (.float (.finite value.toBinary64)) inner.validator⟩
  | .boolean, some (.bool value) => ⟨.boolean, .fallback (.json (.bool value)) inner.validator⟩
  | .object, some (.object entries) =>
    ⟨.object, .fallback (.json (.object entries)) inner.validator⟩
  | _, _ => ⟨.any, .fallback (.ofOption default) inner.validator⟩

/-- Validators that are made from a produced value. -/
inductive Continuation where
  /-- The value itself. -/
  | always
  /-- The value as a constant. -/
  | constant
  /-- A failure that names the value. -/
  | never
  /-- What the input has under the value. -/
  | key
  deriving DecidableEq

/-- The continuation that a name stands for. -/
def Continuation.ofName? (name : String) : Option Continuation :=
  if name = "succeed" then some always
  else if name = "constant" then some constant
  else if name = "fail" then some never
  else if name = "key" then some key
  else none

/-- The validator for a produced value. -/
def Continuation.apply : Continuation → Option Json → Validator
  | always, value => .always (.ofOption value)
  | constant, value => .literal (.json (Json.orNull value))
  | never, value => .never ("rejected " ++ Json.optionText value)
  | key, value =>
    match value.bind segment? with
    | some segment => .follow (Path.ofList [segment]) .anything
    | none => .never "not a key"

def onJson (predicate : Predicate) (output : Output) : Bool := predicate.holds output.toJson?

/-- The validator that a description stands for, read at most `fuel` deep. `known`
has the validators in use, which descriptions may refer to by name. -/
def read (known : Entries (OutputKind × Live)) : Nat → Json → Except DescriptionError Described
  | 0, _ => .error (.malformed "depth")
  | fuel + 1, description => do
    let type ← stringField description "t"
    let inner : Except DescriptionError Described := do
      read known fuel (← field description "of")
    let branches : Except DescriptionError (List Described) := do
      (← listField description "of").mapM (read known fuel)
    let fields : Except DescriptionError Fields := do
      (← listField description "fields").foldlM (fun fields entry =>
        match entry with
        | .array [.string name, value] => do
          return Fields.declare fields name (← read known fuel value).validator
        | _ => .error (.malformed "fields")) []
    let predicate (name : String) (value : Json) : Except DescriptionError Predicate := do
      need name (Predicate.ofJson? fuel (← field value name))
    match type with
    | "string" => return ⟨.string, .string⟩
    | "number" => return ⟨.number, .number⟩
    | "boolean" => return ⟨.boolean, .boolean⟩
    | "object" => return ⟨.object, .object⟩
    | "undefined" => return ⟨.any, .undefined⟩
    | "any" => return ⟨.any, .anything⟩
    | "unknown" => return ⟨.any, .anything⟩
    | "array" => return ⟨.any, .array⟩
    | "constant" =>
      let (kind, value) ←
        need "value" (literal? (typeName description "value") (← field description "value"))
      return ⟨kind, .literal value⟩
    | "constant_by" =>
      let relation ← need "eq" (Relation.ofName? (← stringField description "eq"))
      return ⟨.any, .constant (.json (← field description "value")) relation.holds⟩
    | "one_of_literals" =>
      let type := typeName description "str"
      let literals ← (← listField description "values").mapM fun value =>
        need "values" (literal? type value)
      let kind :=
        if type = "string" then .string
        else if type = "f64" then .number
        else if type = "bool" then .boolean
        else .any
      return ⟨kind, .anyLiteral (literals.map Prod.snd)⟩
    | "object_of" => return ⟨.object, .record (← fields)⟩
    | "object_strict" => return ⟨.object, .closedRecord (← fields)⟩
    | "array_of" => return ⟨.any, .list (← inner).validator⟩
    | "dict" => return ⟨.any, .dictionary (← inner).validator⟩
    | "optional" => return ⟨.any, .optional (← inner).validator⟩
    | "tuple" => return ⟨.any, .tuple ((← branches).map Described.validator)⟩
    | "tuple_of" => return ⟨.any, .tuple ((← branches).map Described.validator)⟩
    | "one_of" =>
      let branches ← branches
      return ⟨commonKind branches, .firstOf (branches.map Described.validator)⟩
    | "union" =>
      let branches ← branches
      return ⟨commonKind branches, .firstOf (branches.map Described.validator)⟩
    | "intersection" =>
      let parts ← branches
      if parts.all fun part => part.kind == .object then
        return ⟨.object, .intersection (parts.map Described.validator)⟩
      else .error (.malformed "of")
    | "with_default" => return defaulted (description.get? "default") (← inner)
    | "value_at" =>
      let segments ← (← listField description "path").mapM fun segment =>
        need "path" (segment? segment)
      let inner ← inner
      return ⟨inner.kind, .follow (Path.ofList segments) inner.validator⟩
    | "succeed" =>
      let value := description.get? "value"
      let kind := if Kind.of value = .object then OutputKind.object else .any
      return ⟨kind, .always (.ofOption value)⟩
    | "fail" => return ⟨usedAs description, .never (← stringField description "message")⟩
    | "lazy" => return ⟨usedAs description, .rebuilt (← stringField description "def")⟩
    | "lazy_once" => return ⟨usedAs description, .remembered (← stringField description "def")⟩
    | "ref" =>
      let (kind, live) ← need "name" (Entries.get? known (← stringField description "name"))
      return ⟨kind, live.share⟩
    | "erase" => return ⟨.any, .asJson (← inner).validator⟩
    | "map" =>
      let mapping ← need "f" (Mapping.ofName? (← stringField description "f"))
      return ⟨.any, .map (fun output => .ofOption (mapping.apply output.toJson?))
        (← inner).validator⟩
    | "map_string" =>
      let mapping ←
        match ← stringField description "f" with
        | "upper" => pure StringMapping.upper
        | "lower" => pure StringMapping.lower
        | "append" => pure (StringMapping.append (← stringField description "s"))
        | _ => .error (.malformed "f")
      let inner ← inner
      if inner.kind = .string then
        return ⟨.string, .map (fun output =>
          (output.string?.map mapping.apply).elim output (.json ∘ .string)) inner.validator⟩
      else .error (.malformed "of")
    | "and_then" =>
      let cases ← (← listField description "rules").mapM fun rule => do
        return (onJson (← predicate "if" rule),
          (← read known fuel (← field rule "then")).validator)
      let otherwise ← read known fuel (← field description "else")
      return ⟨.any, .select (← inner).validator cases otherwise.validator⟩
    | "and_then_fn" =>
      let next ← need "f" (Continuation.ofName? (← stringField description "f"))
      return ⟨.any, .continueWith (← inner).validator fun output => next.apply output.toJson?⟩
    | "where" =>
      let inner ← inner
      let message ← stringField description "message"
      return ⟨inner.kind, .ensure (onJson (← predicate "pred" description)) (.custom message)
        inner.validator⟩
    | "matches" =>
      let inner ← inner
      let text ← stringField description "pattern"
      match inner.kind, Pattern.read? text with
      | .string, some pattern => return ⟨.string, .matching text pattern.isMatch inner.validator⟩
      | .string, none => .error (.pattern text)
      | _, _ => .error (.malformed "of")
    | _ => .error (.malformed "t")

def readAll (known : Entries (OutputKind × Live)) (fuel : Nat) (descriptions : Entries Json) :
    Except DescriptionError (Entries Described) :=
  descriptions.mapM fun (name, description) => do return (name, ← read known fuel description)

/-- The definitions that a list of named validators makes. A name without a
definition stands for a failure. -/
def definitions (described : Entries Described) (definition : String) : Validator :=
  match Entries.get? described definition with
  | some found => found.validator
  | none => .never ("no definition of " ++ definition)

end Description

end JsonValidators
