import JsonValidators.Memory
import JsonValidators.Proofs.LockstepMeaning

/-!
How deep references may be followed decides only whether a run ends. A run that
ends does so in the same way, with the same memory, when it may go deeper.
-/

namespace JsonValidators

open StateRelation

variable {σ : Type}

/-- A cell stands in the same place on both sides. -/
def SameCell (cell cell' : Nat) (_ : String) : Prop := cell = cell'

theorem seats_sameCell (names : List String) (base : Nat) :
    Seats SameCell names base base := fun _ _ _ => rfl

theorem Lockstep.Builders.sameCell {relation : StateRelation σ σ} {make make' : Construction σ}
    (b : relation.lockstep.Builders (fun _ => SameCell) make fun _ => make')
    (w : relation.World) (validator : Validator) (base : Nat) :
    relation.lockstep.Checks w (validator.interpret make base)
      fun _ => validator.interpret make' base :=
  b.keeps validator w base base (seats_sameCell _ base) (linked_of_seats seats_sameCell validator)

namespace Construction

variable (body : String → Validator)

/-- A run without memory goes on where a run that may not go as deep has ended early. -/
theorem forgetful_builders {n m : Nat} (h : n ≤ m) :
    (unchanged Unit True).lockstep.Builders (fun _ => SameCell) (forgetful body n)
      fun _ => forgetful body m := by
  induction n generalizing m with
  | zero =>
    refine ⟨fun _ hseat => hseat, ?_, ?_, ?_⟩
    · exact fun _ _ _ _ _ _ _ _ => .early _ trivial
    · exact fun _ _ _ _ _ _ _ => .early _ trivial
    · intro w names next nexts hnext
      cases m <;> exact hnext w 0 0 trivial (seats_sameCell names 0)
  | succ n ih =>
    obtain ⟨m, rfl⟩ : ∃ k, m = k + 1 := ⟨m - 1, by omega⟩
    have hbuild : ∀ w definition, (unchanged Unit True).lockstep.Checks w
        ((body definition).interpret (forgetful body n) 0)
        fun _ => (body definition).interpret (forgetful body m) 0 :=
      fun w definition => (ih (by omega)).sameCell w (body definition) 0
    exact ⟨fun _ hseat => hseat, hbuild, fun _ => hbuild _ _,
      fun w names _ _ hnext => hnext w 0 0 trivial (seats_sameCell names 0)⟩

/-- With memory, the two runs also leave the same memory. -/
theorem remembering_builders {n m : Nat} (h : n ≤ m) :
    (unchanged Memory True).lockstep.Builders (fun _ => SameCell) (remembering body n)
      fun _ => remembering body m := by
  induction n generalizing m with
  | zero =>
    refine ⟨fun _ hseat => hseat, ?_, ?_, ?_⟩
    · exact fun _ _ _ _ _ _ _ _ => .early _ trivial
    · exact fun _ _ _ _ _ _ _ => .early _ trivial
    · rintro w names next nexts hnext w' s _ hw rfl
      cases m <;> exact hnext w s.next s.next trivial (seats_sameCell names s.next) w' _ _ hw rfl
  | succ n ih =>
    obtain ⟨m, rfl⟩ : ∃ k, m = k + 1 := ⟨m - 1, by omega⟩
    have hlive : ∀ (live : Live) w input memory, (unchanged Memory True).Ends w
        (live.interpret (remembering body n) input memory)
        (live.interpret (remembering body m) input memory) :=
      fun live w input memory =>
        (ih (by omega)).sameCell w live.validator live.base input w memory memory trivial rfl
    refine ⟨fun _ hseat => hseat, ?_, ?_, ?_⟩
    · rintro w definition input w' s _ _ rfl
      exact hlive _ w' input _
    · rintro w cell _ definition rfl input w' s _ _ rfl
      simp only [remembering]
      split <;> exact hlive _ w' input _
    · rintro w names next nexts hnext w' s _ hw rfl
      exact hnext w s.next s.next trivial (seats_sameCell names s.next) w' _ _ hw rfl

end Construction

/-- Without memory an outcome is all that a run ends with. -/
theorem Validator.run_of_outcome? {body : String → Validator} {stages : Nat}
    {validator : Validator} {input : Option Json} {outcome : Outcome Fault Output}
    (h : validator.outcome? body stages input = some outcome) :
    validator.interpret (.forgetful body stages) 0 input () = some (outcome, ()) := by
  obtain ⟨⟨_, ⟨⟩⟩, hrun, rfl⟩ := Option.map_eq_some_iff.mp h
  exact hrun

theorem Validator.outcome?_eq_some_iff {body : String → Validator} {stages : Nat}
    {validator : Validator} {input : Option Json} {outcome : Outcome Fault Output} :
    validator.outcome? body stages input = some outcome ↔
      validator.interpret (.forgetful body stages) 0 input () = some (outcome, ()) :=
  ⟨run_of_outcome?, fun h => congrArg (Option.map Prod.fst) h⟩

theorem Validator.run_mono {body : String → Validator} {n m : Nat} (h : n ≤ m)
    {validator : Validator} {input : Option Json} {ending : Outcome Fault Output × Unit}
    (hn : validator.interpret (.forgetful body n) 0 input () = some ending) :
    validator.interpret (.forgetful body m) 0 input () = some ending :=
  ((Construction.forgetful_builders body h).sameCell () validator 0 input () () ()
    trivial rfl).of_some hn

theorem Validator.outcome?_mono {body : String → Validator} {n m : Nat} (h : n ≤ m)
    {validator : Validator} {input : Option Json} {outcome : Outcome Fault Output}
    (hn : validator.outcome? body n input = some outcome) :
    validator.outcome? body m input = some outcome := by
  obtain ⟨ending, hending, rfl⟩ := Option.map_eq_some_iff.mp hn
  exact congrArg (Option.map Prod.fst) (run_mono h hending)

theorem Live.interpret_mono {body : String → Validator} {n m : Nat} (h : n ≤ m) {live : Live}
    {input : Option Json} {memory : Memory} {ending : Outcome Fault Output × Memory}
    (hn : live.interpret (.remembering body n) input memory = some ending) :
    live.interpret (.remembering body m) input memory = some ending :=
  ((Construction.remembering_builders body h).sameCell () live.validator live.base input ()
    memory memory trivial rfl).of_some hn

end JsonValidators
