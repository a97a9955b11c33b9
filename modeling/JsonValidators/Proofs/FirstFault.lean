import JsonValidators.Proofs.Declared
import JsonValidators.Proofs.Findings
import JsonValidators.Proofs.Scenario

/-!
A check stops at the first finding of the full report. Findings tell how a run ends
if the first of them does, and telling is kept by everything that checks are made of,
so the report of an expression tells how its check ends. A finding and a fault are located each
in its own way, and here the two ways are shown to be the same.
-/

namespace JsonValidators

/-- What findings come to: nothing is wrong, the fault that the first one tells of, or no end. -/
def verdict : List Finding → Option (Option Fault)
  | [] => some none
  | .wrong steps reason :: _ => some (some ⟨⟨steps⟩, reason⟩)
  | .unfinished :: _ => none

/-- Findings whose verdict is the way in which a run ends. -/
def Tells {α : Type} (findings : List Finding) (run : Run Unit α) : Prop :=
  (run ()).map (fun ending => ending.1.error?) = verdict findings

section Tells

variable {α β : Type} {findings more : List Finding} {run : Run Unit α}

theorem tells_ofValue (value : α) : Tells [] (Run.ofValue value) := rfl

theorem tells_ofReason (reason : Reason) :
    Tells (Finding.here reason) (Run.ofReason (σ := Unit) (α := α) reason) := rfl

/-- A run that is told of ends with no finding, in the fault of the first one, or not at all. -/
theorem Tells.cases (h : Tells findings run) :
    (∃ value, run () = some (.ok value, ()) ∧ findings = []) ∨
      (∃ steps reason rest, run () = some (.error ⟨⟨steps⟩, reason⟩, ()) ∧
        findings = .wrong steps reason :: rest) ∨
          (∃ rest, run () = none ∧ findings = .unfinished :: rest) := by
  unfold Tells at h
  cases hrun : run () with
  | none =>
    rw [hrun] at h
    match findings, h with
    | .unfinished :: rest, _ => exact .inr (.inr ⟨rest, rfl, rfl⟩)
  | some ending =>
    obtain ⟨fault | value, ⟨⟩⟩ := ending
    · rw [hrun] at h
      match findings, h with
      | .wrong steps reason :: rest, hsame =>
        obtain rfl : fault = ⟨⟨steps⟩, reason⟩ := Option.some.inj (Option.some.inj hsame)
        exact .inr (.inl ⟨steps, reason, rest, rfl, rfl⟩)
    · rw [hrun] at h
      match findings, h with
      | [], _ => exact .inl ⟨value, rfl, rfl⟩

/-- Findings of a run that goes on with its value, if those of what comes next do not
depend on the value. -/
theorem Tells.bind {next : α → Run Unit β} (h : Tells findings run)
    (hnext : ∀ value, Tells more (next value)) : Tells (findings ++ more) (run.bind next) := by
  rcases h.cases with ⟨value, hrun, rfl⟩ | ⟨steps, reason, rest, hrun, rfl⟩ |
      ⟨rest, hrun, rfl⟩
  · have hvalue := hnext value
    unfold Tells at hvalue ⊢
    simpa [Run.bind, Run.settle, hrun] using hvalue
  · simp [Tells, Run.bind, Run.settle, hrun, Run.ofFault, Run.ofOutcome, verdict, Outcome.error?]
  · simp [Tells, Run.bind, Run.settle, hrun, verdict]

theorem Tells.mapValue (change : α → β) (h : Tells findings run) :
    Tells findings (run.mapValue change) := by
  rcases h.cases with ⟨value, hrun, rfl⟩ | ⟨steps, reason, rest, hrun, rfl⟩ |
      ⟨rest, hrun, rfl⟩ <;>
    simp [Tells, Run.mapValue, Run.settle, hrun, Run.ofOutcome, verdict, Outcome.map,
      Outcome.error?]

/-- Steps in front of all findings are told of if they are put in front of the fault. -/
theorem Tells.behind {change : Fault → Fault} {front : List Segment}
    (hchange : ∀ fault, change fault = ⟨⟨front ++ fault.path.segments⟩, fault.reason⟩)
    (h : Tells findings run) :
    Tells (findings.map (Finding.behind front)) (run.mapFault change) := by
  rcases h.cases with ⟨value, hrun, rfl⟩ | ⟨steps, reason, rest, hrun, rfl⟩ |
      ⟨rest, hrun, rfl⟩ <;>
    simp [Tells, Run.mapFault, Run.settle, hrun, Run.ofOutcome, verdict, Outcome.mapError,
      Outcome.error?, Finding.behind, hchange]

/-- One finding stands for whatever a run may end in. -/
theorem Tells.masked {change : Fault → Fault} {steps : List Segment} {reason : Reason}
    (hchange : ∀ fault, change fault = ⟨⟨steps⟩, reason⟩) (h : Tells findings run) :
    Tells (Finding.masked steps reason findings) (run.mapFault change) := by
  rcases h.cases with ⟨value, hrun, rfl⟩ | ⟨steps, reason, rest, hrun, rfl⟩ |
      ⟨rest, hrun, rfl⟩ <;>
    simp [Tells, Run.mapFault, Run.settle, hrun, Run.ofOutcome, verdict, Outcome.mapError,
      Outcome.error?, Finding.masked, hchange]

end Tells

/-- A report whose first finding is what a check ends in, for every value. -/
def Agrees (report : Report) (check : Check Unit) : Prop :=
  ∀ input, Tells (report input) (check input)

namespace Agrees

variable {ι : Type} {report : Report} {check : Check Unit}

/-- A check that complains of nothing but the value itself. -/
theorem leaf (h : ∀ input fault, (check input).Fails fault → ∃ reason, Fault.here reason = fault) :
    Agrees (Report.leaf check) check := by
  intro input
  unfold Report.leaf Tells
  cases hrun : check input () with
  | none => rfl
  | some ending =>
    obtain ⟨fault | value, ⟨⟩⟩ := ending
    · obtain ⟨reason, rfl⟩ := h input fault hrun
      rfl
    · rfl

theorem of_passes {kind : Kind} (h : Check.Passes kind check) : Agrees (Report.leaf check) check :=
  leaf fun _ _ hfails => ⟨_, (h.fails_iff.mp hfails).2⟩

theorem list (h : Agrees report check) : Agrees (Report.list report) (Check.list check) := by
  have hitems : ∀ (values : List Json) (position : Nat),
      Tells ((values.zipIdx position).flatMap fun place =>
        (report (some place.1)).map (Finding.behind [.index place.2]))
        (Check.items check position values) := by
    intro values
    induction values with
    | nil => exact fun _ => rfl
    | cons value values ih =>
      intro position
      rw [List.zipIdx_cons, List.flatMap_cons]
      exact ((h (some value)).behind fun _ => rfl).bind fun _ => (ih (position + 1)).mapValue _
  intro input
  rcases input with _ | _ | _ | _ | _ | values | _
  case some.array => exact (hitems values 0).mapValue _
  all_goals exact tells_ofReason _

theorem dictionary (h : Agrees report check) :
    Agrees (Report.dictionary report) (Check.dictionary check) := by
  have hvalues : ∀ object : Entries Json,
      Tells (object.flatMap fun entry =>
        (report (some entry.2)).map (Finding.behind [.field entry.1]))
        (Check.values check object) := by
    intro object
    induction object with
    | nil => rfl
    | cons entry rest ih =>
      rw [List.flatMap_cons]
      exact ((h (some entry.2)).behind fun _ => rfl).bind fun _ => ih.mapValue _
  intro input
  rcases input with _ | _ | _ | _ | _ | _ | object
  case some.object => exact (hvalues object).mapValue _
  all_goals exact tells_ofReason _

theorem optional (h : Agrees report check) :
    Agrees (Report.optional report) (Check.optional check) := by
  intro input
  cases input with
  | none => exact tells_ofValue _
  | some value => exact (h (some value)).mapValue _

theorem fallback (default : Output) (h : Agrees report check) :
    Agrees (Report.fallback report) (Check.fallback default check) := by
  intro input
  unfold Report.fallback Check.fallback Tells
  rcases (h input).cases with ⟨value, hrun, hfind⟩ | ⟨steps, reason, rest, hrun, hfind⟩ |
      ⟨rest, hrun, hfind⟩ <;>
    simp [Run.settle, hrun, hfind, Run.ofValue, Run.ofOutcome, verdict, Outcome.error?]

/-- A walk from a place comes to what the steps lead to, or strays where they do. -/
theorem walk_cases (walked : Path) (steps : List Segment) (current : Option Json) :
    (∃ found, Report.reach steps current = .ok found ∧
      Check.walk walked steps current = .ok found) ∨
    ∃ front reason, Report.reach steps current = .error (.wrong front reason) ∧
      Check.walk walked steps current = .error ⟨walked ++ ⟨front⟩, reason⟩ := by
  induction steps generalizing walked current with
  | nil => exact .inl ⟨current, rfl, rfl⟩
  | cons segment rest ih =>
    cases current with
    | none => exact .inr ⟨[segment], .nowhere, rfl, rfl⟩
    | some value =>
      rw [Report.reach, Check.walk_cons]
      split
      · rcases ih (walked.push segment) (Path.step value segment) with
          ⟨found, hreach, hwalk⟩ | ⟨front, reason, hreach, hwalk⟩
        · exact .inl ⟨found, by rw [hreach]; rfl, hwalk⟩
        · have hpath : walked.push segment ++ ⟨front⟩ = walked ++ ⟨segment :: front⟩ :=
            Path.append_assoc walked (Path.ofList [segment]) ⟨front⟩
          exact .inr ⟨segment :: front, reason, by rw [hreach]; rfl, by rw [hwalk, hpath]⟩
      · exact .inr ⟨[segment], _, rfl, rfl⟩

theorem follow (path : Path) (h : Agrees report check) :
    Agrees (Report.follow path report) (Check.follow path check) := by
  intro input
  unfold Report.follow Check.follow
  rcases walk_cases Path.root path.segments input with
    ⟨found, hreach, hwalk⟩ | ⟨front, reason, hreach, hwalk⟩
  · rw [hreach, hwalk]
    cases found with
    | none => exact (h none).masked fun _ => rfl
    | some value => exact (h (some value)).behind fun _ => rfl
  · rw [hreach, hwalk]
    rfl

theorem map (change : Output → Output) (h : Agrees report check) :
    Agrees report (Check.map change check) := fun input => (h input).mapValue change

/-- What comes after a check that passes is told by what the check produces. -/
theorem andThen {produced : Option Json → Option (Outcome Fault Output)}
    {nextReport : Output → Report} {next : Output → Option Json → Run Unit Output}
    (h : Agrees report check)
    (hproduced : ∀ input, produced input = (check input ()).map Prod.fst)
    (hnext : ∀ output input, Tells (nextReport output input) (next output input)) :
    Agrees (Report.andThen report produced nextReport)
      fun input => (check input).bind fun output => next output input := by
  intro input
  unfold Report.andThen Tells
  rcases (h input).cases with ⟨value, hrun, hfind⟩ | ⟨steps, reason, rest, hrun, hfind⟩ |
    ⟨rest, hrun, hfind⟩
  · have hvalue := hnext value input
    unfold Tells at hvalue
    simp [Run.bind, Run.settle, hrun, hfind, hproduced, hvalue]
  · simp [Run.bind, Run.settle, hrun, hfind, Run.ofFault, Run.ofOutcome, verdict, Outcome.error?]
  · simp [Run.bind, Run.settle, hrun, hfind, verdict]

theorem condition (accepts : Output → Bool) (reason : Reason) (output : Output)
    (input : Option Json) : Tells (Report.condition accepts reason output input)
      (if accepts output then Run.ofValue output else Run.ofReason reason) := by
  unfold Report.condition
  split
  · exact tells_ofValue _
  · exact tells_ofReason _

section Lists

variable {members : List ι} {reports : ι → Report} {checks : ι → Check Unit}

theorem tuple (h : ∀ member ∈ members, Agrees (reports member) (checks member)) :
    Agrees (Report.tuple (members.map reports)) (Check.tuple (members.map checks)) := by
  have hpositions : ∀ (values : List Json) (position : Nat),
      Tells ((((members.map reports).zip values).zipIdx position).flatMap fun place =>
          (place.1.1 (some place.1.2)).map (Finding.behind [.index place.2]))
        (Check.positions position (members.map checks) values) := by
    induction members with
    | nil => exact fun _ _ => rfl
    | cons member members ih =>
      obtain ⟨hmember, hmembers⟩ := List.forall_mem_cons.mp h
      intro values position
      cases values with
      | nil => rfl
      | cons value values =>
        rw [List.map_cons, List.zip_cons_cons, List.zipIdx_cons, List.flatMap_cons]
        exact ((hmember (some value)).behind fun _ => rfl).bind fun _ =>
          (ih hmembers values (position + 1)).mapValue _
  intro input
  simp only [Report.tuple, Check.tuple, List.length_map]
  rcases input with _ | _ | _ | _ | _ | values | _
  case some.array =>
    dsimp only
    split
    · exact (hpositions values 0).mapValue _
    · exact tells_ofReason _
  all_goals exact tells_ofReason _

theorem firstOf (h : ∀ member ∈ members, Agrees (reports member) (checks member)) :
    Agrees (Report.firstOf (members.map reports)) (Check.firstOf (members.map checks)) := by
  intro input
  suffices halternatives : ∀ entries, Tells
      (Report.alternatives input entries (members.map reports))
      (Check.alternatives input entries (members.map checks)) from halternatives []
  induction members with
  | nil => exact fun _ => rfl
  | cons member members ih =>
    obtain ⟨hmember, hmembers⟩ := List.forall_mem_cons.mp h
    intro entries
    rw [List.map_cons, List.map_cons, Report.alternatives, Check.alternatives]
    rcases (hmember input).cases with ⟨value, hrun, hfind⟩ | ⟨steps, reason, rest, hrun, hfind⟩ |
      ⟨rest, hrun, hfind⟩
    · simp [Tells, Run.settle, hrun, hfind, Run.ofValue, Run.ofOutcome, verdict, Outcome.error?]
    · have hentry : (Fault.mk ⟨steps⟩ reason).entry =
          "at error" ++ (Path.ofList steps).text ++ ": " ++ reason.message := rfl
      have hrest := ih hmembers (entries ++ [(Fault.mk ⟨steps⟩ reason).entry])
      unfold Tells at hrest ⊢
      simpa [Run.settle, hrun, hfind, hentry] using hrest
    · simp [Tells, Run.settle, hrun, hfind, verdict]

theorem intersection (h : ∀ member ∈ members, Agrees (reports member) (checks member)) :
    Agrees (Report.intersection (members.map reports))
      (Check.intersection (members.map checks)) := by
  intro input
  have hparts : ∀ merged, Tells ((members.map reports).flatMap fun part => part input)
      (Check.parts input merged (members.map checks)) := by
    induction members with
    | nil => exact fun _ => rfl
    | cons member members ih =>
      obtain ⟨hmember, hmembers⟩ := List.forall_mem_cons.mp h
      intro merged
      rw [List.map_cons, List.map_cons, List.flatMap_cons]
      exact (hmember input).bind fun _ => ih hmembers _
  exact (hparts []).mapValue _

end Lists

section Rows

variable {declared : Entries ι} (reports : ι → Report) (checks : ι → Check Unit)

theorem field (object : Entries Json) (name : String) (h : Agrees report check) :
    Tells (Report.field object name report)
      ((check (Entries.get? object name)).mapFault
        (Check.fieldFault name (Entries.get? object name))) := by
  unfold Report.field
  cases Entries.get? object name with
  | none => exact (h none).masked fun _ => rfl
  | some property => exact (h (some property)).behind fun _ => rfl

theorem fields (h : ∀ entry ∈ declared, Agrees (reports entry.2) (checks entry.2))
    (object : Entries Json) :
    Tells ((declared.map fun entry => (entry.1, reports entry.2)).flatMap
        fun entry => Report.field object entry.1 entry.2)
      (Check.fields object (declared.map fun entry => (entry.1, checks entry.2))) := by
  induction declared with
  | nil => rfl
  | cons entry declared ih =>
    obtain ⟨hentry, hdeclared⟩ := List.forall_mem_cons.mp h
    rw [List.map_cons, List.map_cons, List.flatMap_cons]
    exact (field object entry.1 hentry).bind fun _ => (ih hdeclared).mapValue _

theorem record (h : ∀ entry ∈ declared, Agrees (reports entry.2) (checks entry.2)) :
    Agrees (Report.record (declared.map fun entry => (entry.1, reports entry.2)))
      (Check.record (declared.map fun entry => (entry.1, checks entry.2))) := by
  intro input
  rcases input with _ | _ | _ | _ | _ | _ | object
  case some.object => exact (fields reports checks h object).mapValue _
  all_goals exact tells_ofReason _

theorem closedRecord (h : ∀ entry ∈ declared, Agrees (reports entry.2) (checks entry.2)) :
    Agrees (Report.closedRecord (declared.map fun entry => (entry.1, reports entry.2)))
      (Check.closedRecord (declared.map fun entry => (entry.1, checks entry.2))) := by
  have hcontains : ∀ key,
      Entries.contains (declared.map fun entry => (entry.1, reports entry.2)) key =
        Entries.contains (declared.map fun entry => (entry.1, checks entry.2)) key := by
    intro key
    rw [Bool.eq_iff_iff, Entries.contains, Entries.contains, Entries.isSome_get?_iff,
      Entries.isSome_get?_iff, Entries.keys, Entries.keys, List.map_map, List.map_map]
    rfl
  intro input
  rcases input with _ | _ | _ | _ | _ | _ | object
  case some.object =>
    refine (fields reports checks h object).bind fun validated => ?_
    -- The check finds the first of the keys that the report lists.
    simp only [Report.undeclared, Check.undeclared?, hcontains, ← List.head?_filter]
    cases (Entries.keys object).filter fun key =>
        !Entries.contains (declared.map fun entry => (entry.1, checks entry.2)) key with
    | nil => rfl
    | cons key keys => rfl
  all_goals exact tells_ofReason _

theorem firstCase {otherwise : Report} {otherwise' : Check Unit} (output : Output)
    (hotherwise : Agrees otherwise otherwise') {cases : List ((Output → Bool) × ι)}
    (h : ∀ entry ∈ cases, Agrees (reports entry.2) (checks entry.2)) :
    Agrees (Report.firstCase output otherwise (cases.map fun entry => (entry.1, reports entry.2)))
      (Check.firstCase output otherwise' (cases.map fun entry => (entry.1, checks entry.2))) := by
  induction cases with
  | nil => exact hotherwise
  | cons entry cases ih =>
    obtain ⟨hentry, hcases⟩ := List.forall_mem_cons.mp h
    rw [List.map_cons, List.map_cons, Report.firstCase, Check.firstCase]
    split
    · exact hentry
    · exact ih hcases

end Rows

end Agrees

namespace Validator

section Report

variable {define : String → Report}
  {produced : Validator → Option Json → Option (Outcome Fault Output)}

theorem reportList_eq (validators : List Validator) :
    reportList define produced validators = validators.map (report define produced) := by
  induction validators with
  | nil => rfl
  | cons validator rest ih => rw [reportList, ih, List.map_cons]

theorem reportFields_eq (declarations : List (String × Validator)) :
    reportFields define produced declarations =
      declarations.map fun entry => (entry.1, report define produced entry.2) := by
  induction declarations with
  | nil => rfl
  | cons entry rest ih => rw [reportFields, ih, List.map_cons]

theorem reportCases_eq (cases : List ((Output → Bool) × Validator)) :
    reportCases define produced cases =
      cases.map fun entry => (entry.1, report define produced entry.2) := by
  induction cases with
  | nil => rfl
  | cons entry rest ih => rw [reportCases, ih, List.map_cons]

/-- If the reports of definitions tell how their checks end, the report of every
expression does. -/
theorem report_agrees {make : Construction Unit} (hplaceless : make.Placeless)
    (hbuild : ∀ definition, Agrees (define definition) (make.build definition))
    (hremember : ∀ definition cell, make.remember definition cell = make.build definition)
    (hproduced : ∀ validator input, produced validator input =
      (validator.interpret make 0 input ()).map Prod.fst) (validator : Validator) :
    Agrees (validator.report define produced) (validator.interpret make 0) := by
  induction validator with
  | record declarations ih =>
    rw [report, reportFields_eq, hplaceless.interpret_record, Entries.ofList_map]
    exact Agrees.record _ (fun validator => validator.interpret make 0)
      fun entry hentry => ih entry (Entries.mem_ofList hentry)
  | closedRecord declarations ih =>
    rw [report, reportFields_eq, hplaceless.interpret_closedRecord, Entries.ofList_map]
    exact Agrees.closedRecord _ (fun validator => validator.interpret make 0)
      fun entry hentry => ih entry (Entries.mem_ofList hentry)
  | dictionary value ih => exact ih.dictionary
  | list element ih => exact ih.list
  | tuple elements ih =>
    rw [report, reportList_eq, hplaceless.interpret_tuple]
    exact Agrees.tuple ih
  | optional inner ih => exact ih.optional
  | firstOf branches ih =>
    rw [report, reportList_eq, hplaceless.interpret_firstOf]
    exact Agrees.firstOf ih
  | intersection parts ih =>
    rw [report, reportList_eq, hplaceless.interpret_intersection]
    exact Agrees.intersection ih
  | fallback default inner ih => exact ih.fallback default
  | follow path inner ih => exact ih.follow path
  | map change inner ih => exact ih.map change
  | ensure accepts reason inner ih =>
    exact ih.andThen (hproduced inner) (Agrees.condition accepts reason)
  | select inner cases otherwise ihinner ihcases ihotherwise =>
    rw [report, reportCases_eq, hplaceless.interpret_select]
    exact ihinner.andThen (hproduced inner) fun output =>
      Agrees.firstCase (report define produced) (fun validator => interpret make validator 0) output
        ihotherwise ihcases
  | continueWith inner next ihinner ihnext =>
    rw [report, hplaceless.interpret_continueWith]
    exact ihinner.andThen (hproduced inner) ihnext
  | rebuilt definition => exact hbuild definition
  | remembered definition =>
    rw [report, interpret, hremember]
    exact hbuild definition
  | shared base inner ih =>
    rw [report, hplaceless.interpret_shared]
    exact ih
  | string => exact Agrees.of_passes Check.string_passes
  | number => exact Agrees.leaf fun _ _ hfails => ⟨_, (Check.fails_number.mp hfails).2⟩
  | boolean => exact Agrees.of_passes Check.boolean_passes
  | undefined => exact Agrees.of_passes Check.undefined_passes
  | anything => exact Agrees.leaf fun _ _ hfails => absurd hfails (Run.not_fails_ofValue _ _)
  | array => exact Agrees.of_passes Check.array_passes
  | object => exact Agrees.of_passes Check.object_passes
  | constant literal accepts =>
    exact Agrees.leaf fun _ _ hfails => ⟨_, (Check.fails_constant.mp hfails).2⟩
  | always output => exact Agrees.leaf fun _ _ hfails => absurd hfails (Run.not_fails_ofValue _ _)
  | never message => exact Agrees.leaf fun _ _ hfails => ⟨_, (Run.fails_ofReason _ _).mp hfails⟩

end Report

variable (body : String → Validator)

theorem findings_agrees (stages : Nat) (validator : Validator) :
    Agrees (validator.findings body stages) (validator.interpret (.forgetful body stages) 0) := by
  induction stages generalizing validator with
  | zero =>
    refine report_agrees (Construction.forgetful_placeless body 0) ?_ (fun _ _ => rfl)
      (fun _ _ => rfl) validator
    exact fun _ _ => rfl
  | succ n ih =>
    exact report_agrees (Construction.forgetful_placeless body (n + 1))
      (fun definition => ih (body definition)) (fun _ _ => rfl) (fun _ _ => rfl) validator

end Validator

namespace Scenario

/-- The three ways in which a check ends, each with what the report begins with. -/
theorem Consistent.check_cases {scenario : Scenario} {memory : Memory}
    (h : scenario.Consistent memory) (stages number : Nat) (input : Option Json) :
    let findings := (scenario.live number).validator.findings scenario.body stages input
    let result := scenario.check stages number input memory
    (∃ output memory', result = some (.ok output, memory') ∧ findings = []) ∨
      (∃ steps reason rest memory',
        result = some (.error (.located input (Path.ofList steps) reason.message), memory') ∧
          findings = .wrong steps reason :: rest) ∨
        ∃ rest, result = none ∧ findings = .unfinished :: rest := by
  intro findings result
  have houtcome : result.map Prod.fst = _ := h.check_outcome stages number input
  have htells : Tells findings _ :=
    Validator.findings_agrees scenario.body stages (scenario.live number).validator input
  unfold Validator.outcome? at houtcome
  rcases htells.cases with ⟨value, hrun, hfind⟩ | ⟨steps, reason, rest, hrun, hfind⟩ |
    ⟨rest, hrun, hfind⟩
  · rw [hrun] at houtcome
    obtain ⟨⟨outcome, memory'⟩, hresult, rfl⟩ := Option.map_eq_some_iff.mp houtcome
    exact .inl ⟨value, memory', hresult, hfind⟩
  · rw [hrun] at houtcome
    obtain ⟨⟨outcome, memory'⟩, hresult, rfl⟩ := Option.map_eq_some_iff.mp houtcome
    exact .inr (.inl ⟨steps, reason, rest, memory', hresult, hfind⟩)
  · rw [hrun] at houtcome
    exact .inr (.inr ⟨rest, Option.map_eq_none_iff.mp houtcome, hfind⟩)

/-- Whatever has been checked before, a check passes if there are no findings, fails
with the first finding, at the path that its steps make up, if that tells what is wrong, and does
not end otherwise. -/
theorem check_reports_first_finding {scenario : Scenario} {memory : Memory}
    (h : scenario.Reached memory) (stages number : Nat) (input : Option Json) :
    let findings := (scenario.live number).validator.findings scenario.body stages input
    let result := scenario.check stages number input memory
    ((∃ output memory', result = some (.ok output, memory')) ↔ findings = []) ∧
      (∀ failure, (∃ memory', result = some (.error failure, memory')) ↔
        ∃ steps reason rest, findings = .wrong steps reason :: rest ∧
          failure = .located input (Path.ofList steps) reason.message) ∧
      (result = none ↔ ∃ rest, findings = .unfinished :: rest) := by
  intro findings result
  rcases h.consistent.check_cases stages number input with
    ⟨output, memory', hresult, hfind⟩ | ⟨steps, reason, rest, memory', hresult, hfind⟩ |
      ⟨rest, hresult, hfind⟩
  · have hresult : result = some (.ok output, memory') := hresult
    have hfind : findings = [] := hfind
    simp [hresult, hfind]
  · have hresult : result =
        some (.error (.located input (Path.ofList steps) reason.message), memory') := hresult
    have hfind : findings = .wrong steps reason :: rest := hfind
    refine ⟨by simp [hresult, hfind], fun failure => ?_, by simp [hresult, hfind]⟩
    rw [hresult, hfind]
    constructor
    · rintro ⟨_, hfailure⟩
      cases hfailure
      exact ⟨steps, reason, rest, rfl, rfl⟩
    · rintro ⟨_, _, _, hsame, rfl⟩
      cases hsame
      exact ⟨memory', rfl⟩
  · have hresult : result = none := hresult
    have hfind : findings = .unfinished :: rest := hfind
    simp [hresult, hfind]

/-- Objects with a list of objects with names. -/
def orders : Scenario :=
  ⟨fun _ => .never "not defined", [.record [("items", .list (.record [("name", .string)]))]]⟩

/-- Of two names that are no strings the first is reported, behind a key, an index and a key. -/
theorem check_orders_reports_first :
    ∃ failure memory', orders.check 0 0 (some (.object [("items", .array
        [.object [("name", .string "a")], .object [("name", .null)],
          .object [("name", .bool true)]])])) orders.memory = some (.error failure, memory') ∧
      failure.path.segments = [.field "items", .index 1, .field "name"] ∧
      failure.location = "input.items[1].name" ∧
      failure.message = "expected a string, got null" := by
  have hreached : orders.Reached orders.memory := .start
  obtain ⟨_, hfails, _⟩ := check_reports_first_finding hreached 0 0
    (some (.object [("items", .array [.object [("name", .string "a")], .object [("name", .null)],
      .object [("name", .bool true)]])]))
  obtain ⟨memory', hcheck⟩ := (hfails _).mpr ⟨[.field "items", .index 1, .field "name"],
    .kind .string .null, [.wrong [.field "items", .index 2, .field "name"]
      (.kind .string .boolean)], rfl, rfl⟩
  exact ⟨_, memory', hcheck, rfl, by decide, by decide⟩

end Scenario

end JsonValidators
