import JsonValidators.Proofs.Endings
import JsonValidators.Validator.Interpret

/-!
Full reports. A report lists everything that is wrong with a value, in the order in
which the value is traversed, and goes on after each finding. It is read off the
expression and the value, and locates its findings by itself; of checks it needs only what parts
that have nothing to report produce, because conditions and continuations look at that.
-/

namespace JsonValidators

/-- One entry of a report: what is wrong behind which steps, or a reference that was not
followed any deeper. -/
inductive Finding where
  | wrong (steps : List Segment) (reason : Reason)
  | unfinished

namespace Finding

/-- What is wrong with the value that is looked at. -/
def here (reason : Reason) : List Finding := [wrong [] reason]

/-- The finding as seen from the value that the steps start at. -/
def behind (front : List Segment) : Finding → Finding
  | wrong steps reason => wrong (front ++ steps) reason
  | unfinished => unfinished

/-- One finding in place of all, if there are any. -/
def masked (steps : List Segment) (reason : Reason) : List Finding → List Finding
  | [] => []
  | wrong _ _ :: _ => [wrong steps reason]
  | unfinished :: _ => [unfinished]

end Finding

/-- All findings for a value that may be missing. -/
abbrev Report := Option Json → List Finding

namespace Report

/-- The finding of a check that looks at the value as a whole: what it complains of itself. -/
def leaf (check : Check Unit) : Report := fun input =>
  match check input () with
  | some (.ok _, _) => []
  | some (.error fault, _) => Finding.here fault.reason
  | none => [.unfinished]

/-- The findings for all items, each behind its index. -/
def list (element : Report) : Report := fun input =>
  match input with
  | some (.array values) => values.zipIdx.flatMap fun (value, position) =>
      (element (some value)).map (Finding.behind [.index position])
  | _ => Finding.here (.kind .array (Kind.of input))

/-- The findings at all places, each behind its index. -/
def tuple (elements : List Report) : Report := fun input =>
  match input with
  | some (.array values) =>
    if values.length = elements.length then
      (elements.zip values).zipIdx.flatMap fun ((element, value), position) =>
        (element (some value)).map (Finding.behind [.index position])
    else Finding.here (.tupleLength elements.length values.length)
  | _ => Finding.here (.notTuple elements.length (Kind.of input))

/-- The findings for all values, each behind its key. -/
def dictionary (value : Report) : Report := fun input =>
  match input with
  | some (.object object) => object.flatMap fun (key, property) =>
      (value (some property)).map (Finding.behind [.field key])
  | _ => Finding.here (.kind .object (Kind.of input))

/-- The findings for one declared field. Whatever is wrong with a missing property is
that the key is required. -/
def field (object : Entries Json) (name : String) (report : Report) : List Finding :=
  match Entries.get? object name with
  | none => Finding.masked [] (.missingKey name) (report none)
  | some property => (report (some property)).map (Finding.behind [.field name])

/-- The findings for all declared fields in order. -/
def record (declared : Entries Report) : Report := fun input =>
  match input with
  | some (.object object) => declared.flatMap fun (name, report) => field object name report
  | _ => Finding.here (.kind .object (Kind.of input))

/-- The keys of an object that are not declared, in order. -/
def undeclared (declared : Entries Report) (object : Entries Json) : List String :=
  (Entries.keys object).filter fun key => !Entries.contains declared key

/-- The findings for all declared fields, and then one for each other key. -/
def closedRecord (declared : Entries Report) : Report := fun input =>
  match input with
  | some (.object object) =>
    (declared.flatMap fun (name, report) => field object name report) ++
      (undeclared declared object).flatMap fun key => Finding.here (.undeclaredKey key)
  | _ => Finding.here (.kind .object (Kind.of input))

/-- Nothing is wrong with the absence of a value. -/
def optional (inner : Report) : Report := fun input =>
  match input with
  | none => []
  | some _ => inner input

/-- One finding if there is something wrong by every alternative. It has an entry for
the first finding of each. -/
def alternatives (input : Option Json) : List String → List Report → List Finding
  | entries, [] => Finding.here (.noneMatched entries)
  | entries, branch :: branches =>
    match branch input with
    | [] => []
    | .wrong steps reason :: _ => alternatives input
        (entries ++ ["at error" ++ (Path.ofList steps).text ++ ": " ++ reason.message]) branches
    | .unfinished :: _ => [.unfinished]

def firstOf (branches : List Report) : Report := fun input => alternatives input [] branches

/-- The findings of all parts for the same value. -/
def intersection (parts : List Report) : Report := fun input => parts.flatMap fun part => part input

/-- Nothing is wrong if there is something to fall back to. -/
def fallback (inner : Report) : Report := fun input =>
  match inner input with
  | .unfinished :: _ => [.unfinished]
  | _ => []

/-- What the steps lead to, or what keeps one of them from being taken, behind that step. -/
def reach : List Segment → Option Json → Outcome Finding (Option Json)
  | [], found => .ok found
  | segment :: _, none => .error (.wrong [segment] .nowhere)
  | segment :: rest, some value =>
    if Kind.of (some value) = segment.container then
      Outcome.mapError (Finding.behind [segment]) (reach rest (Path.step value segment))
    else .error (.wrong [segment] (.kind segment.container (Kind.of (some value))))

/-- What keeps a path from being followed, or else the findings at its end. Whatever
is wrong with nothing at the end is that the path leads nowhere. -/
def follow (path : Path) (inner : Report) : Report := fun input =>
  match reach path.segments input with
  | .error finding => [finding]
  | .ok none => Finding.masked path.segments .nowhere (inner none)
  | .ok (some found) => (inner (some found)).map (Finding.behind path.segments)

/-- The findings of the inner report, or those that depend on what is produced if
there are none. -/
def andThen (inner : Report) (produced : Option Json → Option (Outcome Fault Output))
    (next : Output → Report) : Report := fun input =>
  match inner input with
  | [] =>
    match produced input with
    | some (.ok output) => next output input
    | _ => [.unfinished]
  | findings => findings

/-- The findings of a condition on what is produced. -/
def condition (accepts : Output → Bool) (reason : Reason) (output : Output) : Report := fun _ =>
  if accepts output then [] else Finding.here reason

/-- The report of the first case that accepts an output. -/
def firstCase (output : Output) (otherwise : Report) : List ((Output → Bool) × Report) → Report
  | [] => otherwise
  | (accepts, report) :: rest => if accepts output then report else firstCase output otherwise rest

end Report

namespace Validator

mutual

/-- The report that an expression stands for, given the reports of definitions and
what expressions produce. -/
def report (define : String → Report)
    (produced : Validator → Option Json → Option (Outcome Fault Output)) : Validator → Report
  | string => Report.leaf Check.string
  | number => Report.leaf Check.number
  | boolean => Report.leaf Check.boolean
  | undefined => Report.leaf Check.undefined
  | anything => Report.leaf Check.anything
  | array => Report.leaf Check.array
  | object => Report.leaf Check.object
  | constant literal accepts => Report.leaf (Check.constant literal accepts)
  | always output => Report.leaf (Check.always output)
  | never message => Report.leaf (Check.never message)
  | record declarations =>
    Report.record (Entries.ofList (reportFields define produced declarations))
  | closedRecord declarations =>
    Report.closedRecord (Entries.ofList (reportFields define produced declarations))
  | dictionary value => Report.dictionary (report define produced value)
  | list element => Report.list (report define produced element)
  | tuple elements => Report.tuple (reportList define produced elements)
  | optional inner => Report.optional (report define produced inner)
  | firstOf branches => Report.firstOf (reportList define produced branches)
  | intersection parts => Report.intersection (reportList define produced parts)
  | fallback _ inner => Report.fallback (report define produced inner)
  | follow path inner => Report.follow path (report define produced inner)
  | map _ inner => report define produced inner
  | ensure accepts reason inner =>
    Report.andThen (report define produced inner) (produced inner) (Report.condition accepts reason)
  | select inner cases otherwise =>
    Report.andThen (report define produced inner) (produced inner) fun output =>
      Report.firstCase output (report define produced otherwise)
        (reportCases define produced cases)
  | continueWith inner next =>
    Report.andThen (report define produced inner) (produced inner) fun output =>
      report define produced (next output)
  | rebuilt definition => define definition
  | remembered definition => define definition
  | shared _ inner => report define produced inner

def reportList (define : String → Report)
    (produced : Validator → Option Json → Option (Outcome Fault Output)) :
    List Validator → List Report
  | [] => []
  | validator :: rest => report define produced validator :: reportList define produced rest

def reportFields (define : String → Report)
    (produced : Validator → Option Json → Option (Outcome Fault Output)) :
    List (String × Validator) → List (String × Report)
  | [] => []
  | (name, validator) :: rest =>
    (name, report define produced validator) :: reportFields define produced rest

def reportCases (define : String → Report)
    (produced : Validator → Option Json → Option (Outcome Fault Output)) :
    List ((Output → Bool) × Validator) → List ((Output → Bool) × Report)
  | [] => []
  | (accepts, validator) :: rest =>
    (accepts, report define produced validator) :: reportCases define produced rest

end

/-- All that is wrong with a value, where references are followed at most `stages`
deep inside one another. -/
def findings (body : String → Validator) : Nat → Validator → Report
  | 0, validator =>
    report (fun _ _ => [.unfinished]) (fun inner => inner.outcome? body 0) validator
  | stages + 1, validator =>
    report (fun definition => findings body stages (body definition))
      (fun inner => inner.outcome? body (stages + 1)) validator

end Validator

end JsonValidators
