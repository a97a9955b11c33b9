import JsonValidators.Proofs.MemorySteps
import JsonValidators.Proofs.Unfolding

/-!
Checks made again. A run of a validator whose references all remember goes the same way
again on any memory that still holds what the first run has left: every cell that it comes
to is filled by now. So it builds nothing, and leaves the memory as it is.
-/

namespace JsonValidators

open Memory

namespace Validator

/-- A reference that builds at every use, and a continuation of the caller's, may build
something at any time. All else builds through references that remember. -/
def Remembers : Validator → Prop
  | rebuilt _ | continueWith _ _ => False
  | _ => True

end Validator

section Runs

variable {body : String → Validator}

/-- Runs that go the same way again on a memory that holds what they have left. -/
def Lockstep.replaying (body : String → Validator) : Lockstep Memory Memory Unit where
  World := List String
  Later owners owners' := owners <+: owners'
  Holds w _ run _ := ∀ owners memory ending, w <+: owners → Coherent body owners memory →
    run memory = some ending → ∃ owners', owners <+: owners' ∧ Coherent body owners' ending.2 ∧
      memory.HeldIn ending.2 ∧ ∀ later, ending.2.HeldIn later → run later = some (ending.1, later)
  ofOutcome outcome owners memory ending _ hcoherent hending := by
    cases hending
    exact ⟨owners, List.prefix_rfl, hcoherent, HeldIn.refl memory, fun _ _ => rfl⟩
  settle {_ _ _ run _ next _} h hnext owners memory ending hw hcoherent hending := by
    unfold Run.settle at hending ⊢
    cases hrun : run memory with
    | none =>
      rw [hrun] at hending
      cases hending
    | some middle =>
      rw [hrun] at hending
      obtain ⟨owners', hgrown, hcoherent', hheld, hagain⟩ := h owners memory middle hw hcoherent hrun
      obtain ⟨owners'', hgrown', hcoherent'', hheld', hagain'⟩ :=
        hnext middle.1 owners' middle.2 ending (hw.trans hgrown) hcoherent' hending
      refine ⟨owners'', hgrown.trans hgrown', hcoherent'', hheld.trans hheld', fun later hlater => ?_⟩
      rw [hagain later (hheld'.trans hlater)]
      exact hagain' later hlater

/-- Where all references remember, runs go the same way again. -/
theorem Construction.remembering_replaying (stages : Nat) :
    (Lockstep.replaying body).BuildersFor (fun part => part.MadeOf body Validator.Remembers)
      Owned (remembering body stages) fun _ => remembering body stages := by
  induction stages with
  | zero =>
    refine ⟨fun hw => Owned.extend hw, fun hform => hform.self.elim, ?_,
      fun hform => hform.self.elim⟩
    exact fun _ _ _ _ _ _ _ _ _ _ _ h => absurd h nofun
  | succ n ih =>
    refine ⟨fun hw => Owned.extend hw, fun hform => hform.self.elim, ?_,
      fun hform => hform.self.elim⟩
    intro definition hform w cell cell' howned input (owners : List String) memory ending hw
      hcoherent hending
    have howner : Owned owners cell cell' definition := Owned.extend hw howned
    have hbody : (body definition).MadeOf body Validator.Remembers :=
      hform.unfold (.remembered .refl)
    have hlive : ∀ (live : Live) (owners : List String) memory, live.validator = body definition →
        live.Settled owners → Coherent body owners memory →
        live.interpret (remembering body n) input memory = some ending →
        ∃ owners', owners <+: owners' ∧ Coherent body owners' ending.2 ∧
          memory.HeldIn ending.2 ∧ ∀ later, ending.2.HeldIn later →
            live.interpret (remembering body n) input later = some (ending.1, later) := by
      intro live owners memory heq hsettled hcoherent hrun
      rw [← heq] at hbody
      exact Lockstep.Builders.keeps_of_form ih live.validator hbody.throughout owners live.base 0
        (hsettled.seats 0) hsettled.linked input owners memory ending List.prefix_rfl hcoherent hrun
    simp only [remembering] at hending ⊢
    cases hcontent : memory.content? cell with
    | some live =>
      rw [hcontent] at hending
      obtain ⟨heq, hsettled⟩ := hcoherent.content_settled howner hcontent
      obtain ⟨owners', hgrown, hcoherent', hheld, hagain⟩ :=
        hlive live owners memory heq hsettled hcoherent hending
      refine ⟨owners', hgrown, hcoherent', hheld, fun later hlater => ?_⟩
      rw [(hheld.trans hlater) cell live hcontent]
      exact hagain later hlater
    | none =>
      rw [hcontent] at hending
      obtain ⟨owners', hgrown, hcoherent', hheld, hagain⟩ :=
        hlive _ _ _ rfl (hcoherent.built_settled definition) (hcoherent.fill howner) hending
      have hfilled : (memory.fill definition cell (body definition)).2.content? cell =
          some (memory.fill definition cell (body definition)).1 := by
        rw [content?_fill, if_pos rfl]
        rfl
      refine ⟨owners', (List.prefix_append _ _).trans hgrown, hcoherent',
        (heldIn_fill definition hcontent).trans hheld, fun later hlater => ?_⟩
      rw [(hheld.trans hlater) cell _ hfilled]
      exact hagain later hlater

/-- A check of a settled validator that ends, ends so again and leaves the memory as it is. -/
theorem Live.Settled.again {owners : List String} {live : Live} {stages : Nat}
    {input : Option Json} {memory later : Memory} {ending : Outcome Fault Output × Memory}
    (h : live.Settled owners) (hcoherent : Coherent body owners memory)
    (hremembers : live.validator.MadeOf body Validator.Remembers)
    (hending : live.interpret (.remembering body stages) input memory = some ending)
    (hlater : ending.2.HeldIn later) :
    live.interpret (.remembering body stages) input later = some (ending.1, later) := by
  obtain ⟨_, _, _, _, hagain⟩ := Lockstep.Builders.keeps_of_form
    (Construction.remembering_replaying stages) live.validator hremembers.throughout owners
    live.base 0 (h.seats 0) h.linked input owners memory ending List.prefix_rfl hcoherent hending
  exact hagain later hlater

end Runs

section Clones

/-- A clone, or a clone of a clone, comes down to what has been cloned. -/
def Validator.original : Validator → Nat → Live
  | shared base inner, _ => original inner base
  | validator, base => ⟨validator, base⟩

def Live.original (live : Live) : Live := live.validator.original live.base

theorem Validator.interpret_original {σ : Type} (make : Construction σ) (validator : Validator)
    (base : Nat) : (validator.original base).interpret make = validator.interpret make base := by
  induction validator generalizing base with
  | shared base' inner ih =>
    rw [original, interpret]
    exact ih base'
  | _ => rfl

/-- Clones of one validator are the same check. -/
theorem Live.interpret_eq_of_original {σ : Type} (make : Construction σ) {live other : Live}
    (h : other.original = live.original) : other.interpret make = live.interpret make := by
  have hother := Validator.interpret_original make other.validator other.base
  have hlive := Validator.interpret_original make live.validator live.base
  exact hother.symm.trans ((congrArg (Live.interpret make) h).trans hlive)

end Clones

namespace Scenario

variable {scenario : Scenario} {memory after later : Memory}

/-- What has been checked with a validator whose references remember, is checked again with
it, or with a clone of it, without anything being built. -/
theorem Reached.check_again (h : scenario.Reached memory) {stages number other : Nat}
    {input : Option Json} {outcome : Outcome Failure Output}
    (hremembers : (scenario.live number).validator.MadeOf scenario.body Validator.Remembers)
    (hclone : (scenario.live other).original = (scenario.live number).original)
    (hcheck : scenario.check stages number input memory = some (outcome, after))
    (hlater : scenario.Continues after later) :
    scenario.check stages other input later = some (outcome, later) := by
  obtain ⟨owners, hcoherent, hsettled⟩ := h.consistent
  obtain ⟨⟨result, last⟩, hrun, hending⟩ := Option.map_eq_some_iff.mp hcheck
  obtain ⟨rfl, rfl⟩ := Prod.mk.inj hending
  have hagain := (hsettled number).again hcoherent hremembers hrun hlater.leads.heldIn
  rw [← Live.interpret_eq_of_original _ hclone] at hagain
  exact Option.map_eq_some_iff.mpr ⟨_, hagain, rfl⟩

/-- In every session, a cell is built for once when it is filled, and keeps what it holds.
If all references of a validator remember, what has been checked with it once is checked
again, also with a clone, without anything being built. A run of a reference that does not
remember begins by building the definition, and goes on with what has been built. -/
theorem cells_built_once (scenario : Scenario) :
    (∀ memory, scenario.Reached memory → ∀ cell,
      memory.fillings cell = if (memory.content? cell).isSome then 1 else 0) ∧
    (∀ memory later, scenario.Reached memory → scenario.Continues memory later →
      ∀ cell live, memory.content? cell = some live → later.content? cell = some live) ∧
    (∀ memory after later stages number other input outcome, scenario.Reached memory →
      (scenario.live number).validator.MadeOf scenario.body Validator.Remembers →
      (scenario.live other).original = (scenario.live number).original →
      scenario.check stages number input memory = some (outcome, after) →
      scenario.Continues after later → ∀ more,
        (stages ≤ more → scenario.check more other input later = some (outcome, later)) ∧
        ∀ ending, scenario.check more other input later = some ending →
          ending.2.built = later.built) ∧
    ∀ definition stages base input memory ending,
      (Validator.rebuilt definition).interpret (.remembering scenario.body stages) base input
          memory = some ending →
        ∃ n added, stages = n + 1 ∧
          ending.2.built = added ++ ⟨definition, none⟩ :: memory.built ∧
          (memory.build definition none (scenario.body definition)).1.interpret
            (.remembering scenario.body n) input
            (memory.build definition none (scenario.body definition)).2 = some ending := by
  refine ⟨fun memory h => h.orderly, fun memory later _ hlater => hlater.leads.heldIn, ?_, ?_⟩
  · intro memory after later stages number other input outcome h hremembers hclone hcheck hlater more
    have hagain := h.check_again hremembers hclone hcheck hlater
    refine ⟨fun hmore => check_mono hmore hagain, fun ending hending => ?_⟩
    exact congrArg (fun ending => ending.2.built) (check_ending_unique hending hagain)
  · intro definition stages base input memory ending hending
    cases stages with
    | zero => cases hending
    | succ n =>
      have hrun : (scenario.body definition).interpret (.remembering scenario.body n) memory.next
          input (memory.build definition none (scenario.body definition)).2 = some ending := hending
      obtain ⟨added, hadded⟩ := (Validator.interpret_leads hrun).built_suffix
      exact ⟨n, added, rfl, hadded.symm, hending⟩

/-- Trees, by a definition that remembers itself, a leaf that is built at every use, and a
clone of the validator of trees. -/
def clonedTrees : Scenario :=
  ⟨fun definition =>
      if definition = "tree" then .record [("children", .optional (.list (.remembered "tree")))]
      else .string,
    [.remembered "tree", .rebuilt "leaf", .shared 0 .undefined]⟩

/-- A tree of two levels fills two cells, in which the check with the clone finds what it
needs. -/
theorem check_clonedTrees_again :
    ∃ output after, clonedTrees.check 2 0 (some (.object [("children", .array [.object []])]))
        clonedTrees.memory = some (.ok output, after) ∧
      after.built = [⟨"tree", some 1⟩, ⟨"tree", some 0⟩] ∧
      after.fillings 1 = (if (after.content? 1).isSome then 1 else 0) ∧
      (∀ more, 2 ≤ more → clonedTrees.check more 2
        (some (.object [("children", .array [.object []])])) after = some (.ok output, after)) ∧
      ∃ ending added, (Validator.rebuilt "leaf").interpret (.remembering clonedTrees.body 1) 0
          (some (.string "a")) after = some ending ∧
        ending.2.built = added ++ ⟨"leaf", none⟩ :: after.built := by
  obtain ⟨honce, _, hagain, hrebuilt⟩ := cells_built_once clonedTrees
  have hcheck : ∃ output after, clonedTrees.check 2 0
      (some (.object [("children", .array [.object []])])) clonedTrees.memory =
        some (.ok output, after) ∧ after.built = [⟨"tree", some 1⟩, ⟨"tree", some 0⟩] :=
    ⟨_, _, rfl, rfl⟩
  obtain ⟨output, after, hcheck, hbuilt⟩ := hcheck
  have hleaf : ∃ ending, (Validator.rebuilt "leaf").interpret (.remembering clonedTrees.body 1) 0
      (some (.string "a")) after = some ending := ⟨_, rfl⟩
  obtain ⟨ending, hleaf⟩ := hleaf
  have hremembers : (clonedTrees.live 0).validator.MadeOf clonedTrees.body
      Validator.Remembers := by
    refine Validator.madeOf_of_throughout (fun definition => ?_)
      (Validator.throughout_remembered.mpr trivial)
    by_cases htree : definition = "tree"
    · subst htree
      show (clonedTrees.definitions "tree").Throughout _
      simp [clonedTrees, Validator.Remembers]
    · have hleaf : clonedTrees.body definition = .string := by
        simp [body, clonedTrees, htree, Validator.link, Validator.replace]
      rw [hleaf]
      simp [Validator.Remembers]
  refine ⟨output, after, hcheck, hbuilt, honce after (.check .start hcheck) 1, ?_, ?_⟩
  · intro more hmore
    exact (hagain _ _ _ _ _ 2 _ _ .start hremembers rfl hcheck .refl more).1 hmore
  · obtain ⟨_, added, _, hlast, _⟩ := hrebuilt "leaf" 1 0 _ after ending hleaf
    exact ⟨ending, added, hleaf, hlast⟩

end Scenario

end JsonValidators
