import JsonValidators.Proofs.Scenario
import JsonValidators.Session

/-!
Entry points. Each of them runs the validator and tells its caller how the check ended, in a form of
its own. What runs leave in memo cells never shows, so entry points that are used one after another,
in any order and whatever has been checked before, tell of the same output or of the same failure.
-/

namespace JsonValidators

/-- The ways to run a validator on a JSON value. -/
inductive EntryPoint where
  | check
  | checkJson
  | task
  | complaint
  | insist
  | acceptsLogging
  | acceptsReporting
  | collect

/-- What comes out of an entry point, with the calls that its logger gets and what is written to the
standard error stream. -/
inductive Answer where
  | outcome (outcome : Outcome Failure Output)
  | task (task : Task (Outcome Failure Output))
  | complaint (message? : Option String)
  /-- The output, or the text to panic with. -/
  | insistence (outcome : Outcome String Output)
  | logging (valid : Bool) (calls : List LogCall)
  | reporting (valid : Bool) (written : String)
  | collection (outcome : Outcome Failures Output)

namespace Answer

/-- What entry points say of an output. There is no message and no panic, a logger is not called, and
nothing is written. -/
def ofOutput (output : Output) : EntryPoint → Answer
  | .check | .checkJson => outcome (.ok output)
  | .task => task ⟨.ok output⟩
  | .complaint => complaint none
  | .insist => insistence (.ok output)
  | .acceptsLogging => logging true []
  | .acceptsReporting => reporting true ""
  | .collect => collection (.ok output)

/-- What entry points say of a failure: where and why in one line, all of it as the text to panic
with, one call of a logger, two lines on the standard error stream, a collection of one. -/
def ofFailure (failure : Failure) : EntryPoint → Answer
  | .check | .checkJson => outcome (.error failure)
  | .task => task ⟨.error failure⟩
  | .complaint => complaint (some failure.oneLine)
  | .insist => insistence (.error failure.text)
  | .acceptsLogging => logging false [⟨failure.location, failure.input, failure.message⟩]
  | .acceptsReporting =>
    reporting false ("validation failed at " ++ failure.location ++ ": " ++ failure.message ++
      "\ninput: " ++ Json.optionText failure.input ++ "\n")
  | .collect => collection (.error ⟨failure, []⟩)

/-- What entry points say of the outcome of a check. -/
def ofOutcome : Outcome Failure Output → EntryPoint → Answer
  | .ok output => ofOutput output
  | .error failure => ofFailure failure

end Answer

namespace Live

variable (library : Library) (live : Live) (data : Json)

/-- Run a validator through an entry point. -/
def enter : EntryPoint → Session Answer
  | .check => return .outcome (← live.check library (some data))
  | .checkJson => return .outcome (← live.checkJson library data)
  | .task => return .task (← live.task library data)
  | .complaint => return .complaint (← live.complaint library data)
  | .insist => return .insistence (← live.insist library data)
  | .acceptsLogging => do
    let (valid, calls) ← live.acceptsLogging library data
    return .logging valid calls
  | .acceptsReporting => do
    let (valid, written) ← live.acceptsReporting library data
    return .reporting valid written
  | .collect => return .collection (← live.collect library data)

/-- Every entry point checks once, and answers by the outcome alone. -/
theorem enter_eq (entry : EntryPoint) (memory : Memory) :
    live.enter library data entry memory =
      (live.check library (some data) memory).map fun ending =>
        (Answer.ofOutcome ending.1 entry, ending.2) := by
  -- The check does not end, fails or passes, and each entry point goes on from there.
  rcases hcheck : live.check library (some data) memory with - | ⟨failure | output, later⟩ <;>
    cases entry <;>
      simp only [enter, checkJson, Live.task, Live.complaint, Live.insist, acceptsLogging,
        acceptsReporting, collect, bind, StateT.bind, hcheck] <;> rfl

end Live

namespace Scenario

variable (scenario : Scenario) (stages number : Nat) (data : Json)

/-- Run the validator with a number through an entry point. -/
def enter (entry : EntryPoint) : Session Answer :=
  (scenario.live number).enter ⟨scenario.body, stages⟩ data entry

/-- Entry points one after another, each on the memory that the one before has left. -/
def enterEach : List EntryPoint → Session (List Answer)
  | [] => pure []
  | entry :: entries => do
    let answer ← scenario.enter stages number data entry
    let answers ← enterEach entries
    return answer :: answers

variable {scenario stages number data} {memory : Memory}

theorem enter_eq_check (entry : EntryPoint) : scenario.enter stages number data entry memory =
    (scenario.check stages number (some data) memory).map fun ending =>
      (Answer.ofOutcome ending.1 entry, ending.2) :=
  Live.enter_eq ⟨scenario.body, stages⟩ (scenario.live number) data entry memory

theorem enterEach_cons (entry : EntryPoint) (entries : List EntryPoint) :
    scenario.enterEach stages number data (entry :: entries) memory =
      (scenario.enter stages number data entry memory).bind fun ending =>
        (scenario.enterEach stages number data entries ending.2).bind fun rest =>
          some (ending.1 :: rest.1, rest.2) := rfl

/-- Entry points lead to memories that checks lead to. -/
theorem Reached.enter (h : scenario.Reached memory) {entry : EntryPoint} {answer : Answer}
    {later : Memory} (henter : scenario.enter stages number data entry memory = some (answer, later)) :
    scenario.Reached later := by
  rw [enter_eq_check] at henter
  obtain ⟨⟨outcome, last⟩, hcheck, hending⟩ := Option.map_eq_some_iff.mp henter
  obtain rfl : last = later := congrArg Prod.snd hending
  exact .check h hcheck

/-- Whatever has been checked before, an entry point answers by what the validator says by itself. -/
theorem Reached.map_enter (h : scenario.Reached memory) (entry : EntryPoint) :
    (scenario.enter stages number data entry memory).map Prod.fst =
      ((scenario.live number).validator.outcome? scenario.body stages (some data)).map
        fun outcome => Answer.ofOutcome (outcome.mapError (Fault.toFailure (some data))) entry := by
  have hanswer : (scenario.enter stages number data entry memory).map Prod.fst =
      (scenario.answer? stages number (some data) memory).map (Answer.ofOutcome · entry) := by
    rw [enter_eq_check, answer?, Option.map_map, Option.map_map]
    rfl
  rw [hanswer, h.answer?_eq, Option.map_map]
  rfl

/-- If the validator by itself does not end, no entry point does. -/
theorem Reached.enter_eq_none (h : scenario.Reached memory) (entry : EntryPoint)
    (hnone : (scenario.live number).validator.outcome? scenario.body stages (some data) = none) :
    scenario.enter stages number data entry memory = none := by
  have hanswer : (scenario.enter stages number data entry memory).map Prod.fst = _ :=
    h.map_enter entry
  rw [hnone] at hanswer
  exact Option.map_eq_none_iff.mp hanswer

/-- If it ends, an entry point ends with the answer that goes with the outcome. -/
theorem Reached.exists_enter (h : scenario.Reached memory) (entry : EntryPoint)
    {outcome : Outcome Fault Output}
    (houtcome : (scenario.live number).validator.outcome? scenario.body stages (some data) =
      some outcome) :
    ∃ later, scenario.Reached later ∧ scenario.enter stages number data entry memory =
      some (Answer.ofOutcome (outcome.mapError (Fault.toFailure (some data))) entry, later) := by
  have hanswer : (scenario.enter stages number data entry memory).map Prod.fst = _ :=
    h.map_enter entry
  rw [houtcome] at hanswer
  obtain ⟨⟨answer, later⟩, henter, rfl⟩ := Option.map_eq_some_iff.mp hanswer
  exact ⟨later, h.enter henter, henter⟩

/-- Then all do, one after another. -/
theorem Reached.exists_enterEach (h : scenario.Reached memory) (entries : List EntryPoint)
    {outcome : Outcome Fault Output}
    (houtcome : (scenario.live number).validator.outcome? scenario.body stages (some data) =
      some outcome) :
    ∃ later, scenario.Reached later ∧ scenario.enterEach stages number data entries memory =
      some (entries.map (Answer.ofOutcome (outcome.mapError (Fault.toFailure (some data)))),
        later) := by
  induction entries generalizing memory with
  | nil => exact ⟨memory, h, rfl⟩
  | cons entry entries ih =>
    obtain ⟨next, hnext, henter⟩ := h.exists_enter entry houtcome
    obtain ⟨later, hlater, hrest⟩ := ih hnext
    refine ⟨later, hlater, ?_⟩
    rw [enterEach_cons, henter, Option.bind_some, hrest]
    rfl

/-- For a validator and a JSON value, all entry points tell of one output or of one failure of that
value. On every memory that checks lead to, and in any order one after another, they all end and
answer so, and lead to such a memory again; or references are followed too deep for any of them to
end. -/
theorem entryPoints_agree (scenario : Scenario) (number : Nat) (data : Json) :
    ∃ answer : EntryPoint → Answer,
      ((∃ output, answer = Answer.ofOutput output) ∨
        ∃ path message, answer = Answer.ofFailure (.located (some data) path message)) ∧
      ∀ stages,
        (∀ memory, scenario.Reached memory →
          ∀ entry, scenario.enter stages number data entry memory = none) ∨
        ∀ memory, scenario.Reached memory → ∀ entries, ∃ later, scenario.Reached later ∧
          scenario.enterEach stages number data entries memory = some (entries.map answer, later) := by
  cases hresult : (scenario.live number).validator.result? scenario.body (some data) with
  | none =>
    refine ⟨Answer.ofOutput .undefined, .inl ⟨.undefined, rfl⟩, fun stages => .inl ?_⟩
    intro memory hmemory entry
    refine hmemory.enter_eq_none entry (Option.eq_none_iff_forall_ne_some.mpr ?_)
    intro outcome houtcome
    rw [Validator.result?_of_outcome? scenario.body houtcome] at hresult
    cases hresult
  | some outcome =>
    refine ⟨Answer.ofOutcome (outcome.mapError (Fault.toFailure (some data))), ?_,
      fun stages => ?_⟩
    · cases outcome with
      | ok output => exact .inl ⟨output, rfl⟩
      | error fault => exact .inr ⟨fault.path, fault.message, rfl⟩
    · cases houtcome : (scenario.live number).validator.outcome? scenario.body stages
          (some data) with
      | none => exact .inl fun memory hmemory entry => hmemory.enter_eq_none entry houtcome
      | some outcome' =>
        have hsame := Validator.result?_of_outcome? scenario.body houtcome
        obtain rfl : outcome' = outcome := Option.some.inj (hsame.symm.trans hresult)
        exact .inr fun memory hmemory entries => hmemory.exists_enterEach entries houtcome

/-- Comments with replies, which are comments again, by a definition that remembers itself. -/
def comments : Scenario :=
  ⟨fun _ => .record [("text", .string), ("replies", .optional (.list (.remembered "comment")))],
    [.remembered "comment"]⟩

/-- A comment with one reply. -/
def thread (reply : Json) : Json :=
  .object [("text", .string "top"), ("replies", .array [.object [("text", reply)]])]

/-- What the reply is told to be wrong with. -/
def threadFailure : Failure :=
  .located (some (thread .null)) (.ofList [.field "replies", .index 0, .field "text"])
    "expected a string, got null"

/-- A check that passes fills two memo cells. Entry points that find them filled still tell of the
failure that a check on empty cells ends in. -/
theorem comments_entryPoints :
    ∃ output middle later,
      comments.check 2 0 (some (thread (.string "reply"))) comments.memory =
        some (.ok output, middle) ∧
      middle.built = [⟨"comment", some 1⟩, ⟨"comment", some 0⟩] ∧
      comments.enterEach 2 0 (thread .null) [.acceptsReporting, .insist, .check, .acceptsLogging]
          middle =
        some ([.reporting false ("validation failed at input.replies[0].text: " ++
            "expected a string, got null\n" ++
            "input: \x7b\"text\":\"top\",\"replies\":[\x7b\"text\":null\x7d]\x7d\n"),
          .insistence (.error
            ("Input: \x7b\"text\":\"top\",\"replies\":[\x7b\"text\":null\x7d]\x7d\n" ++
            "Failed at input.replies[0].text: expected a string, got null")),
          .outcome (.error threadFailure),
          .logging false [⟨"input.replies[0].text", some (thread .null),
            "expected a string, got null"⟩]], later) := by
  obtain ⟨answer, hanswer, hends⟩ := entryPoints_agree comments 0 (thread .null)
  have hcheck : ∃ output middle,
      comments.check 2 0 (some (thread (.string "reply"))) comments.memory =
        some (.ok output, middle) ∧ middle.built = [⟨"comment", some 1⟩, ⟨"comment", some 0⟩] :=
    ⟨_, _, rfl, rfl⟩
  obtain ⟨output, middle, hcheck, hbuilt⟩ := hcheck
  have hfirst : ∃ last, comments.enterEach 2 0 (thread .null) [.check] comments.memory =
      some ([.outcome (.error threadFailure)], last) := ⟨_, rfl⟩
  obtain ⟨last, hfirst⟩ := hfirst
  rcases hends 2 with hnone | hends
  · exact absurd (hnone comments.memory .start .check) nofun
  · obtain ⟨_, _, hcheck'⟩ := hends comments.memory .start [.check]
    obtain ⟨later, _, hmiddle⟩ := hends middle (.check .start hcheck)
      [.acceptsReporting, .insist, .check, .acceptsLogging]
    have hsaid : answer .check = .outcome (.error threadFailure) :=
      (List.cons.inj (Prod.mk.inj (Option.some.inj (hcheck'.symm.trans hfirst))).1).1
    have hfailure : answer = Answer.ofFailure threadFailure := by
      rcases hanswer with ⟨passed, rfl⟩ | ⟨path, message, rfl⟩
      · cases hsaid
      · rw [Except.error.inj (Answer.outcome.inj hsaid)]
    rw [hfailure] at hmiddle
    exact ⟨output, middle, later, hcheck, hbuilt, hmiddle⟩

end Scenario

end JsonValidators
