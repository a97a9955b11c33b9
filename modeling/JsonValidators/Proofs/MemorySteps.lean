import JsonValidators.Proofs.Scenario
import Mathlib.Logic.Relation

/-!
What runs do to a memory. A run goes on by steps: it hands out cells, builds a definition
for a single use, or fills an empty cell with a definition. A step keeps what the filled
cells hold and what is written down, and a cell is built for at most once.
-/

namespace JsonValidators

namespace Memory

variable {body : String → Validator} {memory later : Memory}

/-- How often something has been built into a cell. -/
def fillings (memory : Memory) (cell : Nat) : Nat :=
  memory.built.countP fun building => building.cell == some cell

/-- One step of a run. -/
inductive Step (body : String → Validator) (memory : Memory) : Memory → Prop
  | reserve (count : Nat) : Step body memory (memory.reserve count)
  | build (definition : String) :
      Step body memory (memory.build definition none (body definition)).2
  | fill {cell : Nat} (definition : String) : memory.content? cell = none →
      Step body memory (memory.fill definition cell (body definition)).2

/-- What a run leads to, step after step. -/
abbrev Leads (body : String → Validator) : Memory → Memory → Prop :=
  Relation.ReflTransGen (Step body)

/-- All that the filled cells of one memory hold, those of another one hold as well. -/
def HeldIn (memory later : Memory) : Prop :=
  ∀ cell live, memory.content? cell = some live → later.content? cell = some live

theorem HeldIn.refl (memory : Memory) : memory.HeldIn memory := fun _ _ h => h

theorem HeldIn.trans {last : Memory} (h : memory.HeldIn later) (h' : later.HeldIn last) :
    memory.HeldIn last := fun cell live hcontent => h' cell live (h cell live hcontent)

/-- A filled cell has been built for once, an empty cell has not. -/
def Orderly (memory : Memory) : Prop :=
  ∀ cell, memory.fillings cell = if (memory.content? cell).isSome then 1 else 0

theorem content?_fill (definition : String) (cell other : Nat) (validator : Validator) :
    (memory.fill definition cell validator).2.content? other =
      if other = cell then some ⟨validator, memory.next⟩ else memory.content? other := by
  by_cases h : other = cell
  · simp [content?, fill, build, assemble, reserve, h]
  · have hne : (other == cell) = false := by simpa using h
    simp [content?, fill, build, assemble, reserve, List.lookup_cons, hne, h]

theorem fillings_build (definition : String) (cell : Nat) (validator : Validator) :
    (memory.build definition none validator).2.fillings cell = memory.fillings cell := by
  simp [fillings, build, assemble, reserve]

theorem fillings_fill (definition : String) (cell other : Nat) (validator : Validator) :
    (memory.fill definition cell validator).2.fillings other =
      if other = cell then memory.fillings other + 1 else memory.fillings other := by
  simp only [fillings, fill, build, assemble, reserve, List.countP_cons, beq_iff_eq,
    Option.some.injEq, @eq_comm _ cell other]
  split <;> rfl

theorem heldIn_fill {cell : Nat} (definition : String) (hempty : memory.content? cell = none) :
    memory.HeldIn (memory.fill definition cell (body definition)).2 := by
  intro other live hcontent
  have hne : other ≠ cell := by
    rintro rfl
    rw [hempty] at hcontent
    cases hcontent
  rw [content?_fill, if_neg hne, hcontent]

theorem Step.heldIn (h : Step body memory later) : memory.HeldIn later := by
  cases h with
  | reserve count => exact fun _ _ hcontent => hcontent
  | build definition => exact fun _ _ hcontent => hcontent
  | fill definition hempty => exact heldIn_fill definition hempty

theorem Step.orderly (h : Step body memory later) (hmemory : memory.Orderly) : later.Orderly := by
  intro cell
  cases h with
  | reserve count => exact hmemory cell
  | build definition =>
    rw [fillings_build]
    exact hmemory cell
  | @fill filled definition hempty =>
    rw [fillings_fill, content?_fill]
    split
    · next heq =>
      rw [hmemory cell, heq, hempty]
      rfl
    · exact hmemory cell

/-- What has been written down stays. -/
theorem Step.built_suffix (h : Step body memory later) : memory.built <:+ later.built := by
  cases h with
  | reserve count => exact List.suffix_rfl
  | build definition => exact List.suffix_cons _ _
  | fill definition _ => exact List.suffix_cons _ _

theorem Leads.heldIn (h : Leads body memory later) : memory.HeldIn later := by
  induction h with
  | refl => exact HeldIn.refl memory
  | tail _ hstep ih => exact ih.trans hstep.heldIn

theorem Leads.orderly (h : Leads body memory later) (hmemory : memory.Orderly) :
    later.Orderly := by
  induction h with
  | refl => exact hmemory
  | tail _ hstep ih => exact hstep.orderly ih

theorem Leads.built_suffix (h : Leads body memory later) : memory.built <:+ later.built := by
  induction h with
  | refl => exact List.suffix_rfl
  | tail _ hstep ih => exact ih.trans hstep.built_suffix

end Memory

section Runs

open Memory

variable {body : String → Validator}

/-- Runs that only take steps, as a lockstep that does not look at its other side. -/
def Lockstep.stepwise (body : String → Validator) : Lockstep Memory Memory Unit where
  World := Unit
  Later _ _ := True
  Holds _ _ run _ := ∀ memory ending, run memory = some ending → Leads body memory ending.2
  ofOutcome _ _ _ h := by
    cases h
    exact .refl
  settle {_ _ _ run _ next _} h hnext memory ending hending := by
    unfold Run.settle at hending
    cases hrun : run memory with
    | none =>
      rw [hrun] at hending
      cases hending
    | some middle =>
      rw [hrun] at hending
      exact (h memory middle hrun).trans (hnext middle.1 middle.2 ending hending)

theorem Construction.remembering_stepwise (stages : Nat) :
    (Lockstep.stepwise body).Builders (fun _ => SameCell) (remembering body stages)
      fun _ => remembering body stages := by
  have hplace : ∀ (w : Unit) (names : List String) (next : Nat → Run Memory Output)
      (nexts : Unit → Nat → Run Memory Output),
      (∀ w' base base', True → Seats SameCell names base base' →
        (Lockstep.stepwise body).Holds w' (next base) fun i => nexts i base') →
      (Lockstep.stepwise body).Holds w
        (fun memory => next memory.next (memory.reserve names.length)) fun i => nexts i 0 := by
    intro w names next nexts hnext memory ending hending
    have hrun := hnext () memory.next memory.next trivial (seats_sameCell names _) _ ending hending
    exact .head (.reserve names.length) hrun
  induction stages with
  | zero =>
    refine ⟨fun _ hseat => hseat, ?_, ?_, hplace⟩
    · exact fun _ _ _ _ _ h => absurd h nofun
    · exact fun _ _ _ _ h => absurd h nofun
  | succ n ih =>
    have hlive : ∀ (live : Live) input memory ending,
        live.interpret (remembering body n) input memory = some ending →
          Leads body memory ending.2 := fun live input memory ending hending =>
      ih.keeps live.validator () live.base live.base (seats_sameCell _ _)
        (linked_of_seats seats_sameCell live.validator) input memory ending hending
    refine ⟨fun _ hseat => hseat, ?_, ?_, hplace⟩
    · intro _ definition input memory ending hending
      exact .head (.build definition) (hlive _ input _ ending hending)
    · intro _ cell _ definition _ input memory ending hending
      simp only [remembering] at hending
      split at hending
      · exact hlive _ input memory ending hending
      · next hempty => exact .head (.fill definition hempty) (hlive _ input _ ending hending)

/-- Whatever a validator looks at, its run leads on from the memory step by step. -/
theorem Validator.interpret_leads {validator : Validator} {stages base : Nat}
    {input : Option Json} {memory : Memory} {ending : Outcome Fault Output × Memory}
    (h : validator.interpret (.remembering body stages) base input memory = some ending) :
    Leads body memory ending.2 :=
  (Construction.remembering_stepwise stages).keeps validator () base base (seats_sameCell _ _)
    (linked_of_seats seats_sameCell validator) input memory ending h

end Runs

namespace Scenario

variable {scenario : Scenario} {memory later : Memory}

/-- The memories that more checks lead to. -/
inductive Continues (scenario : Scenario) (memory : Memory) : Memory → Prop
  | refl : Continues scenario memory memory
  | check {stages number : Nat} {input : Option Json} {outcome : Outcome Failure Output}
      {later last : Memory} : Continues scenario memory later →
        scenario.check stages number input later = some (outcome, last) →
          Continues scenario memory last

theorem check_leads {stages number : Nat} {input : Option Json} {outcome : Outcome Failure Output}
    (h : scenario.check stages number input memory = some (outcome, later)) :
    Memory.Leads scenario.body memory later := by
  obtain ⟨ending, hrun, hlast⟩ := Option.map_eq_some_iff.mp h
  obtain rfl : ending.2 = later := congrArg Prod.snd hlast
  exact Validator.interpret_leads hrun

theorem Continues.leads (h : scenario.Continues memory later) :
    Memory.Leads scenario.body memory later := by
  induction h with
  | refl => exact .refl
  | check _ hcheck ih => exact ih.trans (check_leads hcheck)

/-- Putting plans to use fills no cell and builds nothing. -/
theorem assemble_orderly {lives : List Live} (h : memory.Orderly) (plans : List Validator) :
    (assemble lives memory plans).2.Orderly := by
  induction plans generalizing lives memory with
  | nil => exact h
  | cons plan plans ih =>
    have hreserved : (memory.assemble (plan.link lives)).2.Orderly := fun cell => h cell
    exact ih hreserved

theorem Reached.orderly (h : scenario.Reached memory) : memory.Orderly := by
  induction h with
  | start => exact assemble_orderly (fun _ => rfl) scenario.validators
  | check _ hcheck ih => exact (check_leads hcheck).orderly ih

end Scenario

end JsonValidators
