import JsonValidators.Proofs.Scenario
import JsonValidators.Session
import Mathlib.Data.List.Induction

/-!
Failures of independent checks. However collections of failures are combined, the failures stay in
their order and none of them is lost or doubled, so independent checks come to all their outputs or
to all their failures.
-/

namespace JsonValidators

namespace Outcome

variable {ε δ α : Type}

theorem filterMap_error?_map_ok (values : List α) :
    (values.map (.ok : α → Outcome ε α)).filterMap error? = [] := by
  induction values with
  | nil => rfl
  | cons value values ih => exact ih

theorem map_mapError_eq_map_ok_iff {change : ε → δ} {outcomes : List (Outcome ε α)}
    {values : List α} :
    outcomes.map (mapError change) = values.map .ok ↔ outcomes = values.map .ok := by
  induction outcomes generalizing values with
  | nil => cases values <;> simp
  | cons outcome outcomes ih =>
    cases values with
    | nil => simp
    | cons value values => cases outcome <;> simp [mapError, ih]

theorem filterMap_error?_map_mapError (change : ε → δ) (outcomes : List (Outcome ε α)) :
    (outcomes.map (mapError change)).filterMap error? =
      (outcomes.filterMap error?).map change := by
  induction outcomes with
  | nil => rfl
  | cons outcome outcomes ih =>
    cases outcome with
    | ok value => exact ih
    | error e => exact congrArg (change e :: ·) ih

end Outcome

namespace Failures

theorem toList_injective : Function.Injective toList := by
  rintro ⟨head, tail⟩ ⟨_, _⟩ h
  obtain ⟨rfl, rfl⟩ := List.cons.inj h
  rfl

theorem toList_append (earlier later : Failures) :
    (append earlier later).toList = earlier.toList ++ later.toList := rfl

theorem append_assoc (first second third : Failures) :
    append (append first second) third = append first (append second third) :=
  toList_injective (List.append_assoc first.toList second.toList third.toList)

instance : Std.Associative append := ⟨append_assoc⟩

/-- From the left and from the right, collections are joined to the same one. -/
theorem joinLeft?_eq_joinRight? (collections : List Failures) :
    joinLeft? collections = joinRight? collections := by
  induction collections with
  | nil => rfl
  | cons first rest ih =>
    rw [joinRight?, ← ih]
    cases rest with
    | nil => rfl
    | cons second rest => exact congrArg some List.foldl_assoc

/-- Put the outcome of one more check behind what is gathered. -/
def extend (combine : Failures → Failures → Failures) :
    Outcome Failures (List Output) → Outcome Failures Output → Outcome Failures (List Output)
  | .ok outputs, .ok output => .ok (outputs ++ [output])
  | .ok _, .error failures => .error failures
  | .error failures, .ok _ => .error failures
  | .error earlier, .error later => .error (combine earlier later)

/-- What is accumulated from the right can be gathered from the left. -/
theorem accumulate_concat (outcomes : List (Outcome Failures Output))
    (outcome : Outcome Failures Output) :
    accumulate (outcomes ++ [outcome]) = extend append (accumulate outcomes) outcome := by
  induction outcomes with
  | nil => cases outcome <;> rfl
  | cons first outcomes ih =>
    cases first <;> cases hrest : accumulate outcomes <;> cases outcome <;>
      simp [accumulate, extend, ih, hrest, append_assoc]

/-- The lines of a text carry the places of the failures, counted from one. -/
theorem text_eq (failures : Failures) :
    failures.text =
      "Validation failed with " ++ toString failures.toList.length ++ " error(s):\n" ++
        String.join (failures.toList.mapIdx fun place failure =>
          "  " ++ toString (place + 1) ++ ". " ++ failure.oneLine ++ "\n") := by
  unfold text
  rw [length, List.zipIdx_succ, List.map_map, List.mapIdx_eq_zipIdx_map]
  exact congrArg (_ ++ String.join ·) (List.map_congr_left fun _ _ => rfl)

end Failures

/-- What is relied on where failures are put together: of two collections, the second is put behind
the first, and the outcomes of independent checks are gathered from left to right. -/
structure Gathering where
  combine : Failures → Failures → Failures
  all : List (Outcome Failures Output) → Outcome Failures (List Output)
  toList_combine : ∀ earlier later,
    (combine earlier later).toList = earlier.toList ++ later.toList
  all_nil : all [] = .ok []
  all_concat : ∀ outcomes outcome,
    all (outcomes ++ [outcome]) = Failures.extend combine (all outcomes) outcome

/-- Failures can be put together in this way. -/
def Failures.gathering : Gathering := ⟨append, accumulate, toList_append, rfl, accumulate_concat⟩

namespace Gathering

variable (gathering : Gathering) {outcomes : List (Outcome Failures Output)}

/-- What is gathered are outputs, if there are no failures, and all failures in order otherwise. -/
theorem all_cases (outcomes : List (Outcome Failures Output)) :
    (∃ outputs : List Output, outcomes = outputs.map .ok ∧ gathering.all outcomes = .ok outputs) ∨
      ∃ failures, gathering.all outcomes = .error failures ∧
        failures.toList = (outcomes.filterMap Outcome.error?).flatMap Failures.toList := by
  induction outcomes using List.reverseRecOn with
  | nil => exact .inl ⟨[], rfl, gathering.all_nil⟩
  | append_singleton outcomes outcome ih =>
    rw [gathering.all_concat, List.filterMap_append, List.flatMap_append]
    rcases ih with ⟨outputs, rfl, hall⟩ | ⟨failures, hall, hlist⟩ <;> rw [hall]
    · cases outcome with
      | ok output =>
        refine .inl ⟨outputs ++ [output], ?_, rfl⟩
        rw [List.map_append, List.map_singleton]
      | error failures =>
        refine .inr ⟨failures, rfl, ?_⟩
        rw [Outcome.filterMap_error?_map_ok]
        exact (List.append_nil _).symm
    · cases outcome with
      | ok output => exact .inr ⟨failures, rfl, hlist.trans (List.append_nil _).symm⟩
      | error later =>
        refine .inr ⟨gathering.combine failures later, rfl, ?_⟩
        rw [gathering.toList_combine, hlist]
        exact congrArg _ (List.append_nil _).symm

/-- Checks come to outputs exactly if all of them pass. -/
theorem all_eq_ok_iff {outputs : List Output} :
    gathering.all outcomes = .ok outputs ↔ outcomes = outputs.map .ok := by
  rcases gathering.all_cases outcomes with ⟨others, rfl, hall⟩ | ⟨failures, hall, hlist⟩ <;>
    rw [hall]
  · rw [Except.ok.injEq, (List.map_injective_iff.mpr fun _ _ => Except.ok.inj).eq_iff]
  · refine iff_of_false nofun ?_
    rintro rfl
    rw [Outcome.filterMap_error?_map_ok] at hlist
    cases hlist

/-- Otherwise they come to the failures of all that fail. -/
theorem all_eq_error_iff {failures : Failures} : gathering.all outcomes = .error failures ↔
    failures.toList = (outcomes.filterMap Outcome.error?).flatMap Failures.toList := by
  rcases gathering.all_cases outcomes with ⟨outputs, rfl, hall⟩ | ⟨others, hall, hlist⟩ <;>
    rw [hall]
  · rw [Outcome.filterMap_error?_map_ok]
    exact iff_of_false nofun nofun
  · rw [Except.error.injEq, ← hlist, Failures.toList_injective.eq_iff]
    exact eq_comm

end Gathering

/-- A way of putting brackets around failures in a row. -/
inductive Bracketing where
  | single (failure : Failure)
  | join (earlier later : Bracketing)

namespace Bracketing

/-- The failures in the row. -/
def failures : Bracketing → List Failure
  | single failure => [failure]
  | join earlier later => earlier.failures ++ later.failures

/-- What the failures are combined to, one by one, as the brackets say. -/
def combined (combine : Failures → Failures → Failures) : Bracketing → Failures
  | single failure => .ofFailure failure
  | join earlier later => combine (earlier.combined combine) (later.combined combine)

theorem exists_of_ne_nil {row : List Failure} (h : row ≠ []) :
    ∃ bracketing : Bracketing, bracketing.failures = row := by
  induction row with
  | nil => exact absurd rfl h
  | cons failure row ih =>
    cases row with
    | nil => exact ⟨.single failure, rfl⟩
    | cons next row =>
      obtain ⟨bracketing, hrow⟩ := ih (List.cons_ne_nil _ _)
      exact ⟨.join (.single failure) bracketing, congrArg (failure :: ·) hrow⟩

theorem toList_combined {combine : Failures → Failures → Failures}
    (hcombine : ∀ earlier later, (combine earlier later).toList = earlier.toList ++ later.toList)
    (bracketing : Bracketing) : (bracketing.combined combine).toList = bracketing.failures := by
  induction bracketing with
  | single failure => rfl
  | join earlier later ihearlier ihlater =>
    rw [combined, hcombine, ihearlier, ihlater, failures]

end Bracketing

namespace Scenario

/-- Checks of JSON values one after another, each on the memory that the one before has left, with
collections for failures. -/
def collectEach (scenario : Scenario) (stages : Nat) :
    List (Nat × Json) → Session (List (Outcome Failures Output))
  | [] => pure []
  | (number, data) :: checks => do
    let outcome ← (scenario.live number).collect ⟨scenario.body, stages⟩ data
    let outcomes ← collectEach scenario stages checks
    return outcome :: outcomes

variable {scenario : Scenario} {stages : Nat} {checks : List (Nat × Json)} {memory : Memory}

theorem collectEach_cons (number : Nat) (data : Json) :
    scenario.collectEach stages ((number, data) :: checks) memory =
      (scenario.check stages number (some data) memory).bind fun ending =>
        (scenario.collectEach stages checks ending.2).map fun rest =>
          (ending.1.mapError Failures.ofFailure :: rest.1, rest.2) := by
  change (((scenario.check stages number (some data) memory).bind fun ending =>
    some (ending.1.mapError Failures.ofFailure, ending.2)).bind fun ending =>
      (scenario.collectEach stages checks ending.2).bind fun rest =>
        some (ending.1 :: rest.1, rest.2)) = _
  rw [Option.bind_assoc]
  simp only [Option.bind_some, Option.map_eq_bind, Function.comp_def]

/-- Whatever has been checked before, a check that ends says the same. -/
theorem Reached.answer?_eq_some_iff {start : Memory} (h : scenario.Reached memory)
    (hstart : scenario.Reached start) {number : Nat} {input : Option Json}
    {answer : Outcome Failure Output} :
    scenario.answer? stages number input start = some answer ↔
      ∃ next, scenario.check stages number input memory = some (answer, next) := by
  rw [hstart.answer?_congr h rfl, answer?, Option.map_eq_some_iff]
  constructor
  · rintro ⟨⟨_, next⟩, hcheck, rfl⟩
    exact ⟨next, hcheck⟩
  · rintro ⟨next, hcheck⟩
    exact ⟨_, hcheck, rfl⟩

/-- Whatever has been checked before, independent checks end if each of them does, and every one
says what it says by itself. -/
theorem Reached.exists_collectEach_iff {start : Memory} (h : scenario.Reached memory)
    (hstart : scenario.Reached start) {outcomes : List (Outcome Failures Output)} :
    (∃ last, scenario.collectEach stages checks memory = some (outcomes, last)) ↔
      ∃ answers, List.Forall₂ (fun check answer =>
        scenario.answer? stages check.1 (some check.2) start = some answer) checks answers ∧
          answers.map (Outcome.mapError Failures.ofFailure) = outcomes := by
  induction checks generalizing memory outcomes with
  | nil =>
    simp only [List.forall₂_nil_left_iff, exists_eq_left, List.map_nil]
    constructor
    · rintro ⟨last, hlast⟩
      cases hlast
      rfl
    · rintro rfl
      exact ⟨memory, rfl⟩
  | cons check checks ih =>
    obtain ⟨number, data⟩ := check
    rw [collectEach_cons]
    simp only [List.forall₂_cons_left_iff]
    constructor
    · rintro ⟨last, hlast⟩
      obtain ⟨⟨answer, next⟩, hcheck, hrest⟩ := Option.bind_eq_some_iff.mp hlast
      obtain ⟨⟨others, _⟩, hothers, hending⟩ := Option.map_eq_some_iff.mp hrest
      obtain ⟨answers, hanswers, rfl⟩ := (ih (h.check hcheck)).mp ⟨_, hothers⟩
      cases hending
      exact ⟨answer :: answers, ⟨answer, answers,
        (h.answer?_eq_some_iff hstart).mpr ⟨next, hcheck⟩, hanswers, rfl⟩, rfl⟩
    · rintro ⟨_, ⟨answer, answers, hanswer, hanswers, rfl⟩, rfl⟩
      obtain ⟨next, hcheck⟩ := (h.answer?_eq_some_iff hstart).mp hanswer
      obtain ⟨last, hlast⟩ := (ih (h.check hcheck)).mpr ⟨answers, hanswers, rfl⟩
      refine ⟨last, ?_⟩
      rw [hcheck, Option.bind_some, hlast, Option.map_some, List.map_cons]

/-- Failures that are put together are neither lost nor doubled nor moved. In whatever brackets a
row of failures is combined, the collection holds the row. Whatever has been checked before,
independent checks end if each of them ends. Gathered, they come to their outputs in order exactly
if all pass, and otherwise to the failures of those that fail, in order, with a text that counts
them and numbers them from one. -/
theorem failures_in_order (gathering : Gathering) {scenario : Scenario} {memory : Memory}
    (h : scenario.Reached memory) :
    (∀ row : List Failure, row ≠ [] →
      (∃ bracketing : Bracketing, bracketing.failures = row) ∧
      ∀ bracketing : Bracketing, bracketing.failures = row →
        (bracketing.combined gathering.combine).toList = row ∧
        (bracketing.combined gathering.combine).length = row.length ∧
        some (bracketing.combined gathering.combine).head = row.head?) ∧
    ∀ stages checks,
      ((∃ ending, scenario.collectEach stages checks memory = some ending) ↔
        ∀ check ∈ checks, ∃ answer,
          scenario.answer? stages check.1 (some check.2) memory = some answer) ∧
      ∀ answers, List.Forall₂ (fun check answer =>
          scenario.answer? stages check.1 (some check.2) memory = some answer) checks answers →
        ∃ outcomes last, scenario.collectEach stages checks memory = some (outcomes, last) ∧
          (∀ outputs, gathering.all outcomes = .ok outputs ↔ answers = outputs.map .ok) ∧
          (∀ failures, gathering.all outcomes = .error failures ↔
            failures.toList = answers.filterMap Outcome.error?) ∧
          ∀ failures, gathering.all outcomes = .error failures →
            failures.text = "Validation failed with " ++
              toString (answers.filterMap Outcome.error?).length ++ " error(s):\n" ++
                String.join ((answers.filterMap Outcome.error?).mapIdx fun place failure =>
                  "  " ++ toString (place + 1) ++ ". " ++ failure.oneLine ++ "\n") := by
  refine ⟨fun row hrow => ⟨Bracketing.exists_of_ne_nil hrow, fun bracketing hrows => ?_⟩,
    fun stages checks => ⟨?_, fun answers hanswers => ?_⟩⟩
  · have hlist := (Bracketing.toList_combined gathering.toList_combine bracketing).trans hrows
    exact ⟨hlist, congrArg List.length hlist, congrArg List.head? hlist⟩
  · rw [← exists_forall₂_iff]
    constructor
    · rintro ⟨⟨outcomes, last⟩, hcollect⟩
      obtain ⟨answers, hanswers, _⟩ := (h.exists_collectEach_iff h).mp ⟨last, hcollect⟩
      exact ⟨answers, hanswers⟩
    · rintro ⟨answers, hanswers⟩
      obtain ⟨last, hcollect⟩ := (h.exists_collectEach_iff h).mpr ⟨answers, hanswers, rfl⟩
      exact ⟨_, hcollect⟩
  · obtain ⟨last, hcollect⟩ := (h.exists_collectEach_iff h).mpr ⟨answers, hanswers, rfl⟩
    have hfailures : ∀ failures,
        gathering.all (answers.map (Outcome.mapError Failures.ofFailure)) = .error failures ↔
          failures.toList = answers.filterMap Outcome.error? := by
      intro failures
      rw [gathering.all_eq_error_iff, Outcome.filterMap_error?_map_mapError, List.flatMap_map]
      exact Eq.congr_right (List.flatMap_singleton' _)
    refine ⟨_, last, hcollect, fun outputs => ?_, hfailures, fun failures hfailed => ?_⟩
    · rw [gathering.all_eq_ok_iff, Outcome.map_mapError_eq_map_ok_iff]
    · rw [Failures.text_eq, (hfailures failures).mp hfailed]

/-- Texts and numbers. -/
def separate : Scenario := ⟨fun _ => .never "not defined", [.string, .number]⟩

/-- Two failures, each with an input of its own. -/
def separateFailures : Failures :=
  ⟨.located (some .null) .root "expected a string, got null",
    [.located (some (.bool false)) .root "expected a number, got a boolean"]⟩

/-- Of three checks the two that fail are numbered, and checks that pass come to their outputs.
Three failures are collected in order with the last two combined first. -/
theorem separate_in_order :
    (∃ outcomes last, separate.collectEach 0 [(0, .null), (0, .string "x"), (1, .bool false)]
        separate.memory = some (outcomes, last) ∧
      Failures.accumulate outcomes = .error separateFailures ∧
      separateFailures.text = "Validation failed with 2 error(s):\n" ++
        "  1. Failed at input: expected a string, got null\n" ++
        "  2. Failed at input: expected a number, got a boolean\n") ∧
    (∃ outcomes last, separate.collectEach 0 [(0, .string "y"), (0, .string "x")]
        separate.memory = some (outcomes, last) ∧
      Failures.accumulate outcomes = .ok [.json (.string "y"), .json (.string "x")]) ∧
    ∀ first second third, (Failures.append (.ofFailure first)
      (.append (.ofFailure second) (.ofFailure third))).toList = [first, second, third] := by
  have hstart : separate.Reached separate.memory := .start
  obtain ⟨hcombined, hgathered⟩ := failures_in_order Failures.gathering hstart
  obtain ⟨outcomes, last, hcollect, _, herror, htext⟩ :=
    (hgathered 0 [(0, .null), (0, .string "x"), (1, .bool false)]).2 _
      (.cons rfl (.cons rfl (.cons rfl .nil)))
  obtain ⟨outcomes', last', hcollect', hok, _⟩ :=
    (hgathered 0 [(0, .string "y"), (0, .string "x")]).2 _ (.cons rfl (.cons rfl .nil))
  have hfailed := (herror separateFailures).mpr rfl
  refine ⟨⟨outcomes, last, hcollect, hfailed, (htext separateFailures hfailed).trans rfl⟩,
    ⟨outcomes', last', hcollect', (hok _).mpr rfl⟩, fun first second third => ?_⟩
  obtain ⟨_, hlist⟩ := hcombined [first, second, third] (List.cons_ne_nil _ _)
  exact (hlist (.join (.single first) (.join (.single second) (.single third))) rfl).1

end Scenario

end JsonValidators
