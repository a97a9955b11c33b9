import JsonValidators.Proofs.Scenario

/-!
Sessions without memory. A scenario in which every reference builds its definition
anew has the outcomes of the scenario that remembers, check by check. Written out,
the validators of the two scenarios are the same, and with a consistent memory a
check says what the validator written out says by itself.
-/

namespace JsonValidators

open Validator

/-- Two lists of validators in use that are the same when written out. -/
def SameBare (lives lives' : List Live) : Prop :=
  ∀ number, (Live.numbered lives number).validator.bare =
    (Live.numbered lives' number).validator.bare

theorem Validator.bare_link (lives : List Live) (plan : Validator) :
    (plan.link lives).bare =
      replace rebuilt (fun number _ => (Live.numbered lives number).validator.bare) plan := by
  have hreference : ∀ definition,
      replace rebuilt (fun _ inner => inner) (remembered definition) = rebuilt definition :=
    fun _ => rfl
  have hclone : ∀ (number : Nat) (inner inner' : Validator),
      replace rebuilt (fun _ inner => inner) inner = inner' →
        replace rebuilt (fun _ inner => inner) (Live.numbered lives number).share =
          (Live.numbered lives number).validator.bare := fun _ _ _ _ => rfl
  exact replace_replace hreference hclone plan

/-- A plan and the plan without memory come to the same when clones of validators
that come to the same are put in. -/
theorem SameBare.link {lives lives' : List Live} (h : SameBare lives lives')
    (plan : Validator) : (plan.link lives).bare = (plan.withoutMemory.link lives').bare := by
  have hreference : ∀ definition,
      replace rebuilt (fun number _ => (Live.numbered lives' number).validator.bare)
        (rebuilt definition) = rebuilt definition := fun _ => rfl
  have hclone : ∀ (number : Nat) (inner inner' : Validator),
      replace rebuilt (fun number _ => (Live.numbered lives' number).validator.bare) inner =
          inner' →
        replace rebuilt (fun number _ => (Live.numbered lives' number).validator.bare)
          (shared number inner) = (Live.numbered lives number).validator.bare :=
    fun number _ _ _ => (h number).symm
  rw [bare_link, bare_link, withoutMemory]
  exact (replace_replace hreference hclone plan).symm

theorem SameBare.append {lives lives' : List Live} {live live' : Live}
    (hlength : lives.length = lives'.length) (h : SameBare lives lives')
    (hlive : live.validator.bare = live'.validator.bare) :
    SameBare (lives ++ [live]) (lives' ++ [live']) := by
  intro number
  have hold := h number
  simp only [Live.numbered, List.getD_eq_getElem?_getD] at hold ⊢
  rcases Nat.lt_trichotomy number lives.length with hlt | heq | hgt
  · rw [List.getElem?_append_left hlt, List.getElem?_append_left (by omega)]
    exact hold
  · subst heq
    simp [hlength, hlive]
  · rw [List.getElem?_eq_none (by simp; omega), List.getElem?_eq_none (by simp; omega)]

namespace Scenario

/-- The scenario in which no reference remembers. -/
def withoutMemory (scenario : Scenario) : Scenario :=
  ⟨fun definition => (scenario.definitions definition).withoutMemory,
    scenario.validators.map Validator.withoutMemory⟩

theorem assemble_sameBare {lives lives' : List Live} (memory memory' : Memory)
    (hlength : lives.length = lives'.length) (h : SameBare lives lives')
    (plans : List Validator) :
    SameBare (assemble lives memory plans).1
      (assemble lives' memory' (plans.map Validator.withoutMemory)).1 := by
  induction plans generalizing lives lives' memory memory' with
  | nil => exact h
  | cons plan plans ih =>
    have hnew : SameBare (lives ++ [(memory.assemble (plan.link lives)).1])
        (lives' ++ [(memory'.assemble (plan.withoutMemory.link lives')).1]) :=
      h.append hlength (h.link plan)
    exact ih _ _ (by simp [hlength]) hnew

variable (scenario : Scenario)

theorem lives_sameBare : SameBare scenario.lives scenario.withoutMemory.lives :=
  assemble_sameBare .empty .empty rfl (fun _ => rfl) scenario.validators

theorem body_bare (definition : String) :
    (scenario.body definition).bare = (scenario.withoutMemory.body definition).bare :=
  scenario.lives_sameBare.link (scenario.definitions definition)

/-- By themselves, the validators of the two scenarios do the same. -/
theorem outcome?_withoutMemory (stages number : Nat) (input : Option Json) :
    (scenario.live number).validator.outcome? scenario.body stages input =
      (scenario.withoutMemory.live number).validator.outcome? scenario.withoutMemory.body stages
        input := by
  have hbody : (fun definition => (scenario.body definition).bare) =
      fun definition => (scenario.withoutMemory.body definition).bare :=
    funext scenario.body_bare
  have hlive : (scenario.live number).validator.bare =
      (scenario.withoutMemory.live number).validator.bare := scenario.lives_sameBare number
  unfold Validator.outcome?
  rw [← interpret_bare scenario.body, ← interpret_bare scenario.withoutMemory.body, hbody, hlive]

/-- The outcome of a check in a session of its own. -/
def alone? (stages : Nat) (check : Nat × Option Json) : Option (Outcome Failure Output) :=
  (scenario.check stages check.1 check.2 scenario.memory).map Prod.fst

variable {scenario}

theorem Consistent.check_alone {memory : Memory} (h : scenario.Consistent memory)
    (stages number : Nat) (input : Option Json) :
    (scenario.check stages number input memory).map Prod.fst =
      scenario.alone? stages (number, input) := by
  rw [alone?, h.check_outcome, consistent_start.check_outcome]

theorem session_cons (stages number : Nat) (input : Option Json)
    (checks : List (Nat × Option Json)) (memory : Memory) :
    scenario.session stages ((number, input) :: checks) memory =
      (scenario.check stages number input memory).bind fun ending =>
        (scenario.session stages checks ending.2).bind fun rest =>
          some (ending.1 :: rest.1, rest.2) := rfl

/-- From any consistent memory, a session has the outcomes of its checks alone. -/
theorem Consistent.session_outcomes {memory : Memory} (h : scenario.Consistent memory)
    (stages : Nat) (checks : List (Nat × Option Json)) :
    (scenario.session stages checks memory).map Prod.fst =
      checks.mapM (scenario.alone? stages) := by
  induction checks generalizing memory with
  | nil => rfl
  | cons check checks ih =>
    obtain ⟨number, input⟩ := check
    rw [List.mapM_cons, ← h.check_alone, session_cons]
    cases hcheck : scenario.check stages number input memory with
    | none => rfl
    | some ending =>
      rw [← ih (h.check hcheck), Option.bind_some]
      cases scenario.session stages checks ending.2 with
      | none => rfl
      | some rest => rfl

theorem alone?_withoutMemory (stages : Nat) :
    scenario.alone? stages = scenario.withoutMemory.alone? stages := by
  funext check
  rw [alone?, alone?, consistent_start.check_outcome, consistent_start.check_outcome,
    outcome?_withoutMemory]

/-- In every session, the outcome of each check is the one it has when no reference
remembers, and the one it has in a session of its own. -/
theorem memory_never_shows (scenario : Scenario) (stages : Nat)
    (checks : List (Nat × Option Json)) :
    scenario.outcomes? stages checks = scenario.withoutMemory.outcomes? stages checks ∧
      scenario.outcomes? stages checks = checks.mapM (scenario.alone? stages) := by
  have halone : scenario.outcomes? stages checks = checks.mapM (scenario.alone? stages) :=
    consistent_start.session_outcomes stages checks
  have hwithout : scenario.withoutMemory.outcomes? stages checks =
      checks.mapM (scenario.withoutMemory.alone? stages) :=
    consistent_start.session_outcomes stages checks
  refine ⟨?_, halone⟩
  rw [halone, hwithout, alone?_withoutMemory]

end Scenario

end JsonValidators
