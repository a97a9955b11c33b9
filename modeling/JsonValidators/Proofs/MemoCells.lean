import JsonValidators.Proofs.Meaning
import JsonValidators.Session

/-!
Memo cells never show in an outcome. Every cell in use is owned by one definition,
and ownership only grows. A filled cell holds its owner's definition with cells of
its own, which are owned in turn, so a run that finds a cell filled goes on as one
that builds the definition anew.
-/

namespace JsonValidators

/-- A cell belongs to a definition, by the list of the owners of all cells. -/
def Owned (owners : List String) (cell _ : Nat) (definition : String) : Prop :=
  owners[cell]? = some definition

theorem Owned.extend {owners owners' : List String} {cell cell' : Nat} {definition : String}
    (hextends : owners <+: owners') (h : Owned owners cell cell' definition) :
    Owned owners' cell cell' definition := by
  obtain ⟨more, rfl⟩ := hextends
  unfold Owned at h ⊢
  rw [List.getElem?_append_left (List.getElem?_eq_some_iff.mp h).1, h]

/-- New cells at the end are owned by the definitions they are for. -/
theorem seats_new (owners names : List String) (base' : Nat) :
    Seats (Owned (owners ++ names)) names owners.length base' := by
  intro place definition hplace
  unfold Owned
  rw [List.getElem?_append_right (by omega), Nat.add_sub_cancel_left, hplace]

/-- Owners agree with a memory: there is one for each cell in use, and every filled
cell holds the definition of its owner, put to use with cells that are owned. -/
structure Coherent (body : String → Validator) (owners : List String) (memory : Memory) :
    Prop where
  length_eq : owners.length = memory.next
  filled : ∀ cell live, memory.content? cell = some live →
    ∃ definition, Owned owners cell cell definition ∧ live.validator = body definition ∧
      ∀ base', Seats (Owned owners) live.validator.cellNames live.base base'
  linked : ∀ definition, (body definition).Linked (Owned owners)

namespace Coherent

variable {body : String → Validator} {owners : List String} {memory : Memory}

theorem reserve (h : Coherent body owners memory) (names : List String) :
    Coherent body (owners ++ names) (memory.reserve names.length) := by
  have hextends : owners <+: owners ++ names := List.prefix_append owners names
  refine ⟨?_, ?_, ?_⟩
  · rw [List.length_append, h.length_eq, Memory.reserve]
  · intro cell live hcontent
    obtain ⟨definition, howner, hbody, hseats⟩ := h.filled cell live hcontent
    exact ⟨definition, howner.extend hextends, hbody,
      fun base' => (hseats base').imp fun _ _ _ => Owned.extend hextends⟩
  · exact fun definition => (h.linked definition).imp fun _ _ _ => Owned.extend hextends

/-- What has been built before is only written down. -/
theorem build (h : Coherent body owners memory) (definition : String) (cell : Option Nat) :
    Coherent body (owners ++ (body definition).cellNames)
      (memory.build definition cell (body definition)).2 := by
  have hreserve := h.reserve (body definition).cellNames
  rw [Validator.length_cellNames] at hreserve
  exact ⟨hreserve.length_eq, hreserve.filled, hreserve.linked⟩

theorem fill (h : Coherent body owners memory) {definition : String} {cell cell' : Nat}
    (howner : Owned owners cell cell' definition) :
    Coherent body (owners ++ (body definition).cellNames)
      (memory.fill definition cell (body definition)).2 := by
  have hbuild := h.build definition (some cell)
  have hextends : owners <+: owners ++ (body definition).cellNames := List.prefix_append _ _
  refine ⟨hbuild.length_eq, ?_, hbuild.linked⟩
  intro other live hcontent
  by_cases hcell : other = cell
  · subst hcell
    have hlive : (⟨body definition, memory.next⟩ : Live) = live := by
      simpa [Memory.content?, Memory.fill, Memory.build, Memory.assemble] using hcontent
    subst hlive
    refine ⟨definition, howner.extend hextends, rfl, fun base' => ?_⟩
    rw [← h.length_eq]
    exact seats_new owners _ base'
  · refine hbuild.filled other live ?_
    have hne : (other == cell) = false := by simpa using hcell
    simpa [Memory.content?, Memory.fill, Memory.build, Memory.assemble, List.lookup_cons, hne]
      using hcontent

end Coherent

/-- Memories that some owners agree with, beside no memory at all. -/
def coherence (body : String → Validator) : StateRelation Memory Unit where
  World := List String
  Later owners owners' := owners <+: owners'
  refl _ := List.prefix_rfl
  trans h h' := h.trans h'
  Related owners memory _ := Coherent body owners memory
  lenient := False

/-- A validator in use whose cells, and those of all validators in use that it
mentions, are owned. -/
structure Live.Settled (owners : List String) (live : Live) : Prop where
  seats : ∀ base', Seats (Owned owners) live.validator.cellNames live.base base'
  linked : live.validator.Linked (Owned owners)

theorem Live.Settled.extend {owners owners' : List String} {live : Live}
    (hextends : owners <+: owners') (h : live.Settled owners) : live.Settled owners' := by
  exact ⟨fun base' => (h.seats base').imp fun _ _ _ => Owned.extend hextends,
    h.linked.imp fun _ _ _ => Owned.extend hextends⟩

namespace Coherent

variable {body : String → Validator} {owners : List String} {memory : Memory}

/-- What a cell holds is settled, and it is the definition that owns the cell. -/
theorem content_settled (h : Coherent body owners memory) {cell cell' : Nat}
    {definition : String} (howner : Owned owners cell cell' definition) {live : Live}
    (hcontent : memory.content? cell = some live) :
    live.validator = body definition ∧ live.Settled owners := by
  obtain ⟨definition', howner', hbody, hseats⟩ := h.filled cell live hcontent
  obtain rfl : definition = definition' := Option.some.inj (howner.symm.trans howner')
  exact ⟨hbody, hseats, hbody ▸ h.linked definition⟩

/-- A definition that has just been built has the cells that were next. -/
theorem built_settled (h : Coherent body owners memory) (definition : String) :
    Live.Settled (owners ++ (body definition).cellNames) ⟨body definition, memory.next⟩ := by
  refine ⟨fun base' => ?_, (h.build definition none).linked definition⟩
  rw [← h.length_eq]
  exact seats_new owners _ base'

end Coherent

namespace Construction

variable (body : String → Validator)

/-- Runs with memo cells and runs without memory keep step. -/
theorem remembering_forgetful (stages : Nat) :
    (coherence body).lockstep.Builders Owned (remembering body stages)
      fun _ => forgetful body stages := by
  have hplace : ∀ w names (next : Nat → Run Memory Output) (nexts : Unit → Nat → Run Unit Output),
      (∀ w' base base', (coherence body).Later w w' → Seats (Owned w') names base base' →
        (coherence body).lockstep.Holds w' (next base) fun i => nexts i base') →
      (coherence body).lockstep.Holds w
        (fun memory => next memory.next (memory.reserve names.length)) fun i => nexts i 0 := by
    intro w names next nexts hnext (owners : List String) memory _ hw hcoherent
    have hgrown : owners <+: owners ++ names := List.prefix_append owners names
    have hends := hnext (owners ++ names) owners.length 0 (hw.trans hgrown)
      (seats_new owners names 0) (owners ++ names) _ () List.prefix_rfl (hcoherent.reserve names)
    rw [hcoherent.length_eq] at hends
    exact hends.since hgrown
  induction stages with
  | zero =>
    refine ⟨fun hw => Owned.extend hw, ?_, ?_, hplace⟩
    · exact fun _ _ _ _ _ _ _ _ => .neither
    · exact fun _ _ _ _ _ _ _ => .neither
  | succ n ih =>
    have hlive : ∀ (live : Live) owners memory input, live.Settled owners →
        Coherent body owners memory → (coherence body).Ends owners
          (live.interpret (remembering body n) input memory)
          (live.validator.interpret (forgetful body n) 0 input ()) :=
      fun live owners memory input hsettled hcoherent =>
        ih.keeps live.validator owners live.base 0 (hsettled.seats 0) hsettled.linked input
          owners memory () List.prefix_rfl hcoherent
    refine ⟨fun hw => Owned.extend hw, ?_, ?_, hplace⟩
    · intro w definition input (owners : List String) memory _ _ hcoherent
      have hgrown : owners <+: owners ++ (body definition).cellNames := List.prefix_append _ _
      exact (hlive _ _ _ input (hcoherent.built_settled definition)
        (hcoherent.build definition none)).since hgrown
    · intro w cell cell' definition howned input (owners : List String) memory _ hw hcoherent
      have howner : Owned owners cell cell' definition := Owned.extend hw howned
      have hgrown : owners <+: owners ++ (body definition).cellNames := List.prefix_append _ _
      simp only [remembering]
      split
      · next live hcontent =>
        obtain ⟨hbody, hsettled⟩ := hcoherent.content_settled howner hcontent
        have hends := hlive live owners memory input hsettled hcoherent
        rw [hbody] at hends
        exact hends
      · exact (hlive _ _ _ input (hcoherent.built_settled definition)
          (hcoherent.fill howner)).since hgrown

end Construction

/-- A check that starts with a coherent memory has the outcome of the validator by
itself, and leaves a coherent memory. -/
theorem Live.Settled.ends {body : String → Validator} {owners : List String} {live : Live}
    (h : live.Settled owners) {memory : Memory} (hcoherent : Coherent body owners memory)
    (stages : Nat) (input : Option Json) :
    (coherence body).Ends owners (live.interpret (.remembering body stages) input memory)
      (live.validator.interpret (.forgetful body stages) 0 input ()) :=
  (Construction.remembering_forgetful body stages).keeps live.validator owners live.base 0
    (h.seats 0) h.linked input owners memory () List.prefix_rfl hcoherent

namespace Live

variable {body : String → Validator} {owners : List String} {live : Live} {memory memory' : Memory}

/-- What a check says does not depend on the memory that it starts with. -/
theorem Settled.check_outcome (h : live.Settled owners) (hcoherent : Coherent body owners memory)
    (stages : Nat) (input : Option Json) :
    (live.check ⟨body, stages⟩ input memory).map Prod.fst =
      (live.validator.outcome? body stages input).map
        (Outcome.mapError (Fault.toFailure input)) := by
  have hends := h.ends hcoherent stages input
  unfold check Validator.outcome?
  dsimp only
  generalize live.interpret (.remembering body stages) input memory = result at hends
  generalize live.validator.interpret (.forgetful body stages) 0 input () = result' at hends
  cases hends with
  | together outcome _ _ => rfl
  | neither => rfl
  | early _ hlenient => exact hlenient.elim

theorem Settled.check_memory (h : live.Settled owners) (hcoherent : Coherent body owners memory)
    {stages : Nat} {input : Option Json} {outcome : Outcome Failure Output}
    (hcheck : live.check ⟨body, stages⟩ input memory = some (outcome, memory')) :
    ∃ owners', owners <+: owners' ∧ Coherent body owners' memory' := by
  obtain ⟨⟨fault, last⟩, hrun, hlast⟩ := Option.map_eq_some_iff.mp hcheck
  obtain rfl : last = memory' := congrArg Prod.snd hlast
  have hends := h.ends hcoherent stages input
  rw [hrun] at hends
  generalize live.validator.interpret (.forgetful body stages) 0 input () = result' at hends
  cases hends with
  | together outcome hlater hrelated => exact ⟨_, hlater, hrelated⟩

end Live

end JsonValidators
