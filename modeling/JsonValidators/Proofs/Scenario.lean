import JsonValidators.Proofs.MemoCells
import JsonValidators.Proofs.Replacement
import JsonValidators.Proofs.Runs

/-!
Scenarios: named definitions, validators in use that may share memo cells through
clones, and sessions of checks on them. Every memory that checks lead to is
consistent: its cells are owned, and so are those of the validators in use.
-/

namespace JsonValidators

/-- The validator in use with a number. A number that is not in use stands for a
validator that accepts nothing. -/
def Live.numbered (lives : List Live) (number : Nat) : Live :=
  lives.getD number ⟨.never "no such validator", 0⟩

/-- Put clones into a plan. In a plan, `shared number _` stands for a clone of the
validator in use with that number. -/
def Validator.link (lives : List Live) : Validator → Validator :=
  replace remembered fun number _ => (Live.numbered lives number).share

/-- The failure of a check of an input at a path. -/
def Failure.located (input : Option Json) (path : Path) (message : String) : Failure :=
  ⟨input, path.fullText, message, path⟩

/-- Plans for named definitions and for validators that are put to use in order. A
validator may hold clones of those before it, and a definition clones of all. -/
structure Scenario where
  definitions : String → Validator
  validators : List Validator

namespace Scenario

/-- Put plans to use one after another. -/
def assemble : List Live → Memory → List Validator → List Live × Memory
  | lives, memory, [] => (lives, memory)
  | lives, memory, plan :: plans =>
    let (live, memory) := memory.assemble (plan.link lives)
    assemble (lives ++ [live]) memory plans

variable (scenario : Scenario)

/-- The validators in use. -/
def lives : List Live := (assemble [] .empty scenario.validators).1

/-- The memory that sessions start with. -/
def memory : Memory := (assemble [] .empty scenario.validators).2

/-- The validator in use with a number. -/
def live (number : Nat) : Live := .numbered scenario.lives number

/-- What a definition builds. -/
def body (definition : String) : Validator :=
  (scenario.definitions definition).link scenario.lives

/-- Check a value with the validator with a number. -/
def check (stages number : Nat) (input : Option Json) : Session (Outcome Failure Output) :=
  (scenario.live number).check ⟨scenario.body, stages⟩ input

/-- Checks one after another, each on the memory that the one before has left. -/
def session (stages : Nat) : List (Nat × Option Json) → Session (List (Outcome Failure Output))
  | [] => pure []
  | (number, input) :: checks => do
    let outcome ← scenario.check stages number input
    let outcomes ← session stages checks
    return outcome :: outcomes

/-- What a check says, whatever it leaves in the memory. -/
def answer? (stages number : Nat) (input : Option Json) (memory : Memory) :
    Option (Outcome Failure Output) :=
  (scenario.check stages number input memory).map Prod.fst

/-- The outcomes of a session from the start, if all its checks end. -/
def outcomes? (stages : Nat) (checks : List (Nat × Option Json)) :
    Option (List (Outcome Failure Output)) :=
  (scenario.session stages checks scenario.memory).map Prod.fst

/-- The memories that checks lead to. -/
inductive Reached : Memory → Prop
  | start : Reached scenario.memory
  | check {stages number : Nat} {input : Option Json} {outcome : Outcome Failure Output}
      {memory memory' : Memory} :
      Reached memory → scenario.check stages number input memory = some (outcome, memory') →
        Reached memory'

/-- Owners of all cells in use that agree with the memory and with the validators
in use. -/
def Consistent (memory : Memory) : Prop :=
  ∃ owners, Coherent scenario.body owners memory ∧ ∀ number, (scenario.live number).Settled owners

end Scenario

section Linking

open Validator

theorem Live.Settled.share_linked {owners : List String} {live : Live} (h : live.Settled owners) :
    live.share.Linked (Owned owners) := by
  refine throughout_iff.mpr ⟨h.seats live.base, fun part hpart => ?_⟩
  cases hpart with
  | inUse => exact h.linked

/-- Clones of settled validators keep a plan linked. -/
theorem Validator.link_linked {owners : List String} {lives : List Live}
    (h : ∀ number, (Live.numbered lives number).Settled owners) (plan : Validator) :
    (plan.link lives).Linked (Owned owners) := by
  refine throughout_replace ?_ ?_ (fun number _ _ => (h number).share_linked) plan
  · intro validator _ hshared
    cases validator with
    | shared base inner => exact absurd rfl (hshared base inner)
    | _ => trivial
  · intro definition
    refine throughout_iff.mpr ⟨trivial, fun part hpart => ?_⟩
    cases hpart

theorem Live.numbered_settled {owners : List String} {lives : List Live}
    (h : ∀ live ∈ lives, live.Settled owners) (number : Nat) :
    (numbered lives number).Settled owners := by
  unfold numbered
  rw [List.getD_eq_getElem?_getD]
  cases hlive : lives[number]? with
  | some live => exact h live (List.mem_of_getElem? hlive)
  | none =>
    -- A validator that accepts nothing has neither cells nor parts.
    refine ⟨fun _ place definition hplace => ?_, ?_⟩
    · simp [cellNames] at hplace
    · refine throughout_iff.mpr ⟨trivial, fun part hpart => ?_⟩
      cases hpart

end Linking

namespace Scenario

/-- What putting plans to use keeps: owners for all cells in use, and none filled. -/
structure Prepared (owners : List String) (lives : List Live) (memory : Memory) : Prop where
  length_eq : owners.length = memory.next
  filled_eq : memory.filled = []
  settled : ∀ live ∈ lives, live.Settled owners

variable {owners : List String} {lives : List Live} {memory : Memory}

theorem Prepared.put (h : Prepared owners lives memory) (plan : Validator) :
    Prepared (owners ++ (plan.link lives).cellNames)
      (lives ++ [(memory.assemble (plan.link lives)).1])
      (memory.assemble (plan.link lives)).2 := by
  have hgrown : owners <+: owners ++ (plan.link lives).cellNames := List.prefix_append _ _
  have hsettled : ∀ live ∈ lives, live.Settled (owners ++ (plan.link lives).cellNames) :=
    fun live hlive => (h.settled live hlive).extend hgrown
  refine ⟨?_, h.filled_eq, fun live hlive => ?_⟩
  · simp [Memory.assemble, Memory.reserve, h.length_eq]
  · rcases List.mem_append.mp hlive with hold | hnew
    · exact hsettled live hold
    · obtain rfl := List.mem_singleton.mp hnew
      refine ⟨fun base' => ?_, Validator.link_linked (Live.numbered_settled hsettled) plan⟩
      simp only [Memory.assemble, ← h.length_eq]
      exact seats_new owners _ base'

theorem Prepared.assemble (h : Prepared owners lives memory) (plans : List Validator) :
    ∃ owners', Prepared owners' (assemble lives memory plans).1
      (assemble lives memory plans).2 := by
  induction plans generalizing owners lives memory with
  | nil => exact ⟨owners, h⟩
  | cons plan plans ih => exact ih (h.put plan)

variable {scenario : Scenario}

theorem consistent_start : scenario.Consistent scenario.memory := by
  have hempty : Prepared [] [] Memory.empty := ⟨rfl, rfl, by simp⟩
  obtain ⟨owners, hprepared⟩ := hempty.assemble scenario.validators
  have hsettled : ∀ number, (scenario.live number).Settled owners :=
    Live.numbered_settled hprepared.settled
  refine ⟨owners, ⟨hprepared.length_eq, ?_, ?_⟩, hsettled⟩
  · intro cell live hcontent
    rw [Memory.content?, memory, hprepared.filled_eq] at hcontent
    simp at hcontent
  · exact fun definition => Validator.link_linked hsettled (scenario.definitions definition)

theorem Consistent.check {memory memory' : Memory} (h : scenario.Consistent memory)
    {stages number : Nat} {input : Option Json} {outcome : Outcome Failure Output}
    (hcheck : scenario.check stages number input memory = some (outcome, memory')) :
    scenario.Consistent memory' := by
  obtain ⟨owners, hcoherent, hsettled⟩ := h
  obtain ⟨owners', hgrown, hcoherent'⟩ := (hsettled number).check_memory hcoherent hcheck
  exact ⟨owners', hcoherent', fun other => (hsettled other).extend hgrown⟩

theorem Reached.consistent {memory : Memory} (h : scenario.Reached memory) :
    scenario.Consistent memory := by
  induction h with
  | start => exact consistent_start
  | check _ hcheck ih => exact ih.check hcheck

/-- With any consistent memory, a check says what the validator says by itself. -/
theorem Consistent.check_outcome {memory : Memory} (h : scenario.Consistent memory)
    (stages number : Nat) (input : Option Json) :
    (scenario.check stages number input memory).map Prod.fst =
      ((scenario.live number).validator.outcome? scenario.body stages input).map
        (Outcome.mapError (Fault.toFailure input)) := by
  obtain ⟨owners, hcoherent, hsettled⟩ := h
  exact (hsettled number).check_outcome hcoherent stages input

/-- Whatever has been checked before, a check says what the validator says by itself. -/
theorem Reached.answer?_eq {memory : Memory} (h : scenario.Reached memory) (stages number : Nat)
    (input : Option Json) : scenario.answer? stages number input memory =
      ((scenario.live number).validator.outcome? scenario.body stages input).map
        (Outcome.mapError (Fault.toFailure input)) := h.consistent.check_outcome stages number input

/-- Whatever has been checked before, validators that run alike say the same. -/
theorem Reached.answer?_congr {memory later : Memory} (h : scenario.Reached memory)
    (hlater : scenario.Reached later) {stages first second : Nat} {input : Option Json}
    (hrun : (scenario.live first).validator.interpret (.forgetful scenario.body stages) 0 input =
      (scenario.live second).validator.interpret (.forgetful scenario.body stages) 0 input) :
    scenario.answer? stages first input memory = scenario.answer? stages second input later := by
  rw [h.answer?_eq, hlater.answer?_eq, Validator.outcome?, Validator.outcome?, hrun]

/-- What a check says once its output is changed, the validator by itself says. -/
theorem Reached.map_answer? {α : Type} {memory : Memory} (h : scenario.Reached memory)
    (stages number : Nat) (input : Option Json) (change : Output → α) :
    (scenario.answer? stages number input memory).map (Outcome.map change) =
      (((scenario.live number).validator.interpret (.forgetful scenario.body stages) 0
        input).mapValue change ()).map fun ending =>
          ending.1.mapError (Fault.toFailure input) := by
  rw [h.answer?_eq, Validator.outcome?]
  unfold Run.mapValue Run.settle
  rcases Validator.interpret _ _ _ _ _ with - | ⟨fault | output, ⟨⟩⟩ <;> rfl

/-- Whatever has been checked before, a validator that changes what another one produces says the
same with the changed output. -/
theorem Reached.answer?_eq_map {memory later : Memory} (h : scenario.Reached memory)
    (hlater : scenario.Reached later) {stages first second : Nat} {input : Option Json}
    {change : Output → Output}
    (hrun : (scenario.live second).validator.interpret (.forgetful scenario.body stages) 0 input =
      ((scenario.live first).validator.interpret (.forgetful scenario.body stages) 0
        input).mapValue change) :
    scenario.answer? stages second input later =
      (scenario.answer? stages first input memory).map (Outcome.map change) := by
  rw [h.map_answer?, ← hrun, hlater.answer?_eq, Validator.outcome?, Option.map_map]
  rfl

theorem Reached.answer?_ok_iff {memory : Memory} (h : scenario.Reached memory)
    {stages number : Nat} {input : Option Json} {output : Output} :
    scenario.answer? stages number input memory = some (.ok output) ↔
      (scenario.live number).validator.outcome? scenario.body stages input = some (.ok output) := by
  rw [h.answer?_eq, Option.map_eq_some_iff]
  constructor
  · rintro ⟨fault | value, houtcome, hanswer⟩
    · cases hanswer
    · cases hanswer
      exact houtcome
  · exact fun houtcome => ⟨_, houtcome, rfl⟩

theorem Reached.answer?_error_iff {memory : Memory} (h : scenario.Reached memory)
    {stages number : Nat} {input : Option Json} {failure : Failure} :
    scenario.answer? stages number input memory = some (.error failure) ↔ ∃ fault,
      (scenario.live number).validator.outcome? scenario.body stages input = some (.error fault) ∧
        fault.toFailure input = failure := by
  rw [h.answer?_eq, Option.map_eq_some_iff]
  constructor
  · rintro ⟨fault | value, houtcome, hanswer⟩
    · cases hanswer
      exact ⟨fault, houtcome, rfl⟩
    · cases hanswer
  · rintro ⟨fault, houtcome, rfl⟩
    exact ⟨_, houtcome, rfl⟩

/-- A check fails if the validator by itself does. -/
theorem Reached.exists_failure_iff {memory : Memory} (h : scenario.Reached memory)
    {stages number : Nat} {input : Option Json} :
    (∃ failure, scenario.answer? stages number input memory = some (.error failure)) ↔
      ∃ fault, (scenario.live number).validator.interpret (.forgetful scenario.body stages) 0 input
        () = some (.error fault, ()) := by
  constructor
  · rintro ⟨failure, hfailure⟩
    obtain ⟨fault, hfault, _⟩ := h.answer?_error_iff.mp hfailure
    exact ⟨fault, Validator.run_of_outcome? hfault⟩
  · rintro ⟨fault, hfault⟩
    exact ⟨_, h.answer?_error_iff.mpr ⟨fault, Validator.outcome?_eq_some_iff.mpr hfault, rfl⟩⟩

/-- How a check ends, the validator by itself ends. -/
theorem Consistent.run_of_check {memory memory' : Memory} (h : scenario.Consistent memory)
    {stages number : Nat} {input : Option Json} {outcome : Outcome Failure Output}
    (hcheck : scenario.check stages number input memory = some (outcome, memory')) :
    ∃ result, (scenario.live number).validator.interpret (.forgetful scenario.body stages) 0 input
        () = some (result, ()) ∧ Outcome.mapError (Fault.toFailure input) result = outcome := by
  have houtcome := h.check_outcome stages number input
  rw [hcheck] at houtcome
  obtain ⟨result, hresult, hmapped⟩ := Option.map_eq_some_iff.mp houtcome.symm
  exact ⟨result, Validator.run_of_outcome? hresult, hmapped⟩

/-- A check that passes produces what the validator by itself produces. -/
theorem Consistent.yields_of_check {memory memory' : Memory} (h : scenario.Consistent memory)
    {stages number : Nat} {input : Option Json} {output : Output}
    (hcheck : scenario.check stages number input memory = some (.ok output, memory')) :
    ((scenario.live number).validator.interpret (.forgetful scenario.body stages) 0 input).Yields
      output := by
  obtain ⟨fault | value, hrun, hmapped⟩ := h.run_of_check hcheck
  · exact absurd hmapped (by simp [Outcome.mapError])
  · obtain rfl : value = output := by simpa [Outcome.mapError] using hmapped
    exact hrun

/-- What the validator by itself produces, a check produces. -/
theorem Consistent.check_of_yields {memory : Memory} (h : scenario.Consistent memory)
    {stages number : Nat} {input : Option Json} {output : Output}
    (hyields : ((scenario.live number).validator.interpret (.forgetful scenario.body stages) 0
      input).Yields output) :
    ∃ memory', scenario.check stages number input memory = some (.ok output, memory') := by
  have houtcome := h.check_outcome stages number input
  rw [Validator.outcome?, hyields] at houtcome
  obtain ⟨⟨_, memory'⟩, hcheck, rfl⟩ := Option.map_eq_some_iff.mp houtcome
  exact ⟨memory', hcheck⟩

/-- A check that fails ends in the fault that the validator by itself ends in. -/
theorem Consistent.fails_of_check {memory memory' : Memory} (h : scenario.Consistent memory)
    {stages number : Nat} {input : Option Json} {failure : Failure}
    (hcheck : scenario.check stages number input memory = some (.error failure, memory')) :
    ∃ fault, ((scenario.live number).validator.interpret (.forgetful scenario.body stages) 0
      input).Fails fault ∧ fault.toFailure input = failure := by
  obtain ⟨fault | value, hrun, hmapped⟩ := h.run_of_check hcheck
  · exact ⟨fault, hrun, by simpa [Outcome.mapError] using hmapped⟩
  · exact absurd hmapped (by simp [Outcome.mapError])

theorem check_mono {n m number : Nat} (h : n ≤ m) {input : Option Json} {memory : Memory}
    {ending : Outcome Failure Output × Memory}
    (hn : scenario.check n number input memory = some ending) :
    scenario.check m number input memory = some ending := by
  obtain ⟨result, hrun, hending⟩ := Option.map_eq_some_iff.mp hn
  exact Option.map_eq_some_iff.mpr ⟨result, Live.interpret_mono h hrun, hending⟩

/-- If a check ends, it ends in one way, however deep references may be followed. -/
theorem check_ending_unique {n m number : Nat} {input : Option Json} {memory : Memory}
    {ending ending' : Outcome Failure Output × Memory}
    (hn : scenario.check n number input memory = some ending)
    (hm : scenario.check m number input memory = some ending') : ending = ending' := by
  have hmax := check_mono (Nat.le_max_left n m) hn
  have hmax' := check_mono (Nat.le_max_right n m) hm
  exact Option.some.inj (hmax.symm.trans hmax')

/-- What the validator by itself comes to, checks that may go deep enough come to. -/
theorem Consistent.check_of_result {memory : Memory} (h : scenario.Consistent memory)
    {number : Nat} {input : Option Json} {outcome : Outcome Fault Output}
    (hresult : (scenario.live number).validator.result? scenario.body input = some outcome) :
    ∃ last stages, ∀ more, stages ≤ more → scenario.check more number input memory =
      some (outcome.mapError (Fault.toFailure input), last) := by
  obtain ⟨stages, hstages⟩ := (Validator.result?_eq_some_iff scenario.body).mp hresult
  have houtcome := h.check_outcome stages number input
  rw [hstages] at houtcome
  obtain ⟨⟨_, last⟩, hcheck, rfl⟩ := Option.map_eq_some_iff.mp houtcome
  exact ⟨last, stages, fun more hmore => check_mono hmore hcheck⟩

/-- A check that passes produces what the validator by itself comes to. -/
theorem Consistent.result_of_check {memory memory' : Memory} (h : scenario.Consistent memory)
    {stages number : Nat} {input : Option Json} {output : Output}
    (hcheck : scenario.check stages number input memory = some (.ok output, memory')) :
    (scenario.live number).validator.result? scenario.body input = some (.ok output) :=
  (Validator.result?_eq_some_iff scenario.body).mpr
    ⟨stages, congrArg (Option.map Prod.fst) (h.yields_of_check hcheck)⟩

end Scenario

end JsonValidators
