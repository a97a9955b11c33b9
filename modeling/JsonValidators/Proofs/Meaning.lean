import JsonValidators.Proofs.Declared
import JsonValidators.Proofs.Stages

/-!
What a validator comes to when references are followed as deep as it takes. The
meaning of an expression is made of the meanings of its parts, a reference means
what its definition does, and a meaning has a result exactly if the runs that may
go deep enough have it.
-/

namespace JsonValidators

open StateRelation

/-- A construction that keeps nothing, so that it does not matter where cells are. -/
structure Construction.Placeless (make : Construction Unit) : Prop where
  remember_eq : ∀ definition cell cell',
    make.remember definition cell = make.remember definition cell'
  place_eq : ∀ count next, make.place count next = next 0

namespace Construction.Placeless

variable {make : Construction Unit}

theorem interpret_eq (h : make.Placeless) (validator : Validator) (base base' : Nat) :
    validator.interpret make base = validator.interpret make base' := by
  have b : (unchanged Unit False).lockstep.Builders (fun _ _ _ _ => True) make
      fun _ => make := by
    refine ⟨fun _ _ => trivial, ?_, ?_, ?_⟩
    · rintro w definition input w' s _ _ rfl
      exact Ends.same w' _
    · rintro w cell cell' definition _ input w' s _ _ rfl
      rw [h.remember_eq definition cell cell']
      exact Ends.same w' _
    · intro w names next nexts hnext
      simp only [h.place_eq]
      exact hnext w 0 0 trivial fun _ _ _ => trivial
  have hlinked : validator.Linked fun _ _ _ => True :=
    linked_of_seats (fun _ _ _ _ _ => trivial) validator
  funext input state
  exact (b.keeps validator () base base' (fun _ _ _ => trivial) hlinked input () state state
    trivial rfl).eq

theorem interpretList_eq (h : make.Placeless) (validators : List Validator) (base : Nat) :
    Validator.interpretList make validators base =
      validators.map fun validator => validator.interpret make 0 := by
  induction validators generalizing base with
  | nil => rfl
  | cons validator rest ih =>
    rw [Validator.interpretList, h.interpret_eq validator base 0, ih, List.map_cons]

theorem interpretFields_eq (h : make.Placeless) (declarations : List (String × Validator))
    (base : Nat) : Validator.interpretFields make declarations base =
      declarations.map fun entry => (entry.1, entry.2.interpret make 0) := by
  induction declarations generalizing base with
  | nil => rfl
  | cons entry rest ih =>
    rw [Validator.interpretFields, h.interpret_eq entry.2 base 0, ih, List.map_cons]

theorem interpretCases_eq (h : make.Placeless) (cases : List ((Output → Bool) × Validator))
    (base : Nat) : Validator.interpretCases make cases base =
      cases.map fun entry => (entry.1, entry.2.interpret make 0) := by
  induction cases generalizing base with
  | nil => rfl
  | cons entry rest ih =>
    rw [Validator.interpretCases, h.interpret_eq entry.2 base 0, ih, List.map_cons]

theorem interpret_record (h : make.Placeless) (declarations : List (String × Validator)) :
    (Validator.record declarations).interpret make 0 = Check.record
      ((Entries.ofList declarations).map fun entry => (entry.1, entry.2.interpret make 0)) := by
  rw [Validator.interpret, h.interpretFields_eq,
    Entries.ofList_map fun validator => Validator.interpret make validator 0]

theorem interpret_closedRecord (h : make.Placeless) (declarations : List (String × Validator)) :
    (Validator.closedRecord declarations).interpret make 0 = Check.closedRecord
      ((Entries.ofList declarations).map fun entry => (entry.1, entry.2.interpret make 0)) := by
  rw [Validator.interpret, h.interpretFields_eq,
    Entries.ofList_map fun validator => Validator.interpret make validator 0]

theorem interpret_tuple (h : make.Placeless) (elements : List Validator) :
    (Validator.tuple elements).interpret make 0 =
      Check.tuple (elements.map fun element => element.interpret make 0) := by
  rw [Validator.interpret, h.interpretList_eq]

theorem interpret_firstOf (h : make.Placeless) (branches : List Validator) :
    (Validator.firstOf branches).interpret make 0 =
      Check.firstOf (branches.map fun branch => branch.interpret make 0) := by
  rw [Validator.interpret, h.interpretList_eq]

theorem interpret_intersection (h : make.Placeless) (parts : List Validator) :
    (Validator.intersection parts).interpret make 0 =
      Check.intersection (parts.map fun part => part.interpret make 0) := by
  rw [Validator.interpret, h.interpretList_eq]

theorem interpret_select (h : make.Placeless) (inner otherwise : Validator)
    (cases : List ((Output → Bool) × Validator)) :
    (Validator.select inner cases otherwise).interpret make 0 =
      Check.continueWith (inner.interpret make 0) fun output =>
        Check.firstCase output (otherwise.interpret make 0)
          (cases.map fun entry => (entry.1, entry.2.interpret make 0)) := by
  simp only [Validator.interpret, h.interpretCases_eq]
  rw [h.interpret_eq otherwise _ 0]

theorem interpret_continueWith (h : make.Placeless) (inner : Validator)
    (next : Output → Validator) :
    (Validator.continueWith inner next).interpret make 0 =
      Check.continueWith (inner.interpret make 0)
        fun output => (next output).interpret make 0 := by
  simp only [Validator.interpret, h.place_eq]

theorem interpret_shared (h : make.Placeless) (base : Nat) (inner : Validator) :
    (Validator.shared base inner).interpret make 0 = inner.interpret make 0 := by
  rw [Validator.interpret, h.interpret_eq inner base 0]

end Construction.Placeless

variable (body : String → Validator)

theorem Construction.forgetful_placeless (stages : Nat) :
    (Construction.forgetful body stages).Placeless := by
  cases stages <;> exact ⟨fun _ _ _ => rfl, fun _ _ => rfl⟩

namespace Validator

open Classical in
/-- The outcome that the runs have which may go deep enough, if there are any. -/
noncomputable def result? (validator : Validator) (input : Option Json) :
    Option (Outcome Fault Output) :=
  if h : ∃ stages outcome, validator.outcome? body stages input = some outcome then
    validator.outcome? body h.choose input
  else none

theorem result?_eq_some_iff {validator : Validator} {input : Option Json}
    {outcome : Outcome Fault Output} :
    validator.result? body input = some outcome ↔
      ∃ stages, validator.outcome? body stages input = some outcome := by
  unfold result?
  constructor
  · intro h
    split at h
    · exact ⟨_, h⟩
    · exact absurd h (by simp)
  · rintro ⟨stages, hstages⟩
    have hex : ∃ stages outcome, validator.outcome? body stages input = some outcome :=
      ⟨stages, outcome, hstages⟩
    rw [dif_pos hex]
    obtain ⟨outcome', hchosen⟩ := hex.choose_spec
    have hleft := outcome?_mono (Nat.le_max_left stages hex.choose) hstages
    have hright := outcome?_mono (Nat.le_max_right stages hex.choose) hchosen
    rw [hchosen, ← hright, hleft]

theorem result?_of_outcome? {stages : Nat} {validator : Validator} {input : Option Json}
    {outcome : Outcome Fault Output} (h : validator.outcome? body stages input = some outcome) :
    validator.result? body input = some outcome := (result?_eq_some_iff body).mpr ⟨stages, h⟩

end Validator

/-- Construction with definitions that do what they come to. -/
noncomputable def Construction.unbounded : Construction Unit where
  build definition input _ := ((body definition).result? body input).map (·, ())
  remember definition _ input _ := ((body definition).result? body input).map (·, ())
  place _ next := next 0

theorem Construction.unbounded_placeless : (Construction.unbounded body).Placeless :=
  ⟨fun _ _ _ => rfl, fun _ _ => rfl⟩

/-- A run that may only go so far ends early or as the unbounded one does. -/
theorem Construction.forgetful_unbounded (stages : Nat) :
    (unchanged Unit True).lockstep.Builders (fun _ _ _ _ => True) (forgetful body stages)
      fun _ => unbounded body := by
  have hbuild : ∀ w definition, (unchanged Unit True).lockstep.Checks w
      ((forgetful body stages).build definition) fun _ => (unbounded body).build definition := by
    rintro w definition input w' ⟨⟩ ⟨⟩ _ _
    cases stages with
    | zero => exact .early _ trivial
    | succ n =>
      change Ends _ w' ((body definition).interpret (forgetful body n) 0 input ())
        (((body definition).result? body input).map (·, ()))
      cases hrun : (body definition).interpret (forgetful body n) 0 input () with
      | none => exact .early _ trivial
      | some ending =>
        have houtcome : (body definition).outcome? body n input = some ending.1 := by
          simp [Validator.outcome?, hrun]
        rw [Validator.result?_of_outcome? body houtcome]
        exact Ends.same w' _
  refine ⟨fun _ _ => trivial, hbuild, ?_, ?_⟩
  · intro w cell cell' definition _
    have hremember : (forgetful body stages).remember definition cell =
        (forgetful body stages).build definition := by cases stages <;> rfl
    rw [hremember]
    exact hbuild w definition
  · intro w names next nexts hnext
    rw [(forgetful_placeless body stages).place_eq]
    exact hnext w 0 0 trivial fun _ _ _ => trivial

/-- A run whose ending the later members of a family of runs all have. -/
def Lockstep.reached : Lockstep Unit Unit Nat where
  World := Unit
  Later _ _ := True
  Holds _ _ run runs := ∀ ending, run () = some ending → ∃ n, ∀ m, n ≤ m → runs m () = some ending
  ofOutcome _ _ h := ⟨0, fun _ _ => h⟩
  settle {_ _ _ run runs next nexts} h hnext ending hending := by
    unfold Run.settle at hending
    cases hrun : run () with
    | none =>
      rw [hrun] at hending
      exact absurd hending (by simp)
    | some middle =>
      rw [hrun] at hending
      obtain ⟨n, hn⟩ := h middle hrun
      obtain ⟨n', hn'⟩ := hnext middle.1 ending hending
      refine ⟨max n n', fun m hm => ?_⟩
      simp only [Run.settle, hn m (by omega)]
      exact hn' m (by omega)

/-- What definitions come to is reached by following references deep enough. -/
theorem Construction.unbounded_reached :
    Lockstep.reached.Builders (fun _ _ _ _ => True) (unbounded body) (forgetful body) := by
  have hbuild : ∀ w definition, Lockstep.reached.Checks w
      ((unbounded body).build definition) fun n => (forgetful body n).build definition := by
    intro w definition input ending hending
    obtain ⟨outcome, houtcome, rfl⟩ := Option.map_eq_some_iff.mp hending
    obtain ⟨n, hn⟩ := (Validator.result?_eq_some_iff body).mp houtcome
    refine ⟨n + 1, fun m hm => ?_⟩
    obtain ⟨k, rfl⟩ : ∃ k, m = k + 1 := ⟨m - 1, by omega⟩
    have hk := Validator.outcome?_mono (show n ≤ k by omega) hn
    obtain ⟨last, hlast, rfl⟩ := Option.map_eq_some_iff.mp hk
    exact hlast
  refine ⟨fun _ _ => trivial, hbuild, ?_, ?_⟩
  · intro w cell cell' definition _ input ending hending
    obtain ⟨n, hn⟩ := hbuild w definition input ending hending
    refine ⟨n, fun m hm => ?_⟩
    cases m <;> exact hn _ hm
  · intro w names next nexts hnext ending hending
    obtain ⟨n, hn⟩ := hnext w 0 0 trivial (fun _ _ _ => trivial) ending hending
    refine ⟨n, fun m hm => ?_⟩
    cases m <;> exact hn _ hm

namespace Validator

/-- The meaning of an expression, as a check without memory and without limit. -/
noncomputable def meaning (validator : Validator) : Check Unit :=
  validator.interpret (.unbounded body) 0

theorem meaning_eq (validator : Validator) (input : Option Json) :
    validator.meaning body input () = (validator.result? body input).map (·, ()) := by
  have hlinked : validator.Linked fun _ _ _ => True :=
    linked_of_seats (fun _ _ _ _ _ => trivial) validator
  cases hmeaning : validator.meaning body input () with
  | some ending =>
    obtain ⟨n, hn⟩ := (Construction.unbounded_reached body).keeps validator () 0 0
      (fun _ _ _ => trivial) hlinked input ending hmeaning
    have houtcome : validator.outcome? body n input = some ending.1 :=
      congrArg (Option.map Prod.fst) (hn n (Nat.le_refl n))
    rw [result?_of_outcome? body houtcome]
    rfl
  | none =>
    cases hresult : validator.result? body input with
    | none => rfl
    | some outcome =>
      obtain ⟨n, hn⟩ := (result?_eq_some_iff body).mp hresult
      obtain ⟨ending, hending, rfl⟩ := Option.map_eq_some_iff.mp hn
      have hends := (Construction.forgetful_unbounded body n).keeps validator () 0 0
        (fun _ _ _ => trivial) hlinked input () () () trivial rfl
      have hsome : validator.meaning body input () = some ending := hends.of_some hending
      rw [hmeaning] at hsome
      exact absurd hsome (by simp)

theorem meaning_eq_some_iff {validator : Validator} {input : Option Json}
    {outcome : Outcome Fault Output} : validator.meaning body input () = some (outcome, ()) ↔
      validator.result? body input = some outcome := by
  rw [meaning_eq, Option.map_eq_some_iff]
  simp

theorem meaning_rebuilt (definition : String) :
    (rebuilt definition).meaning body = (body definition).meaning body := by
  funext input state
  exact (meaning_eq body (body definition) input).symm

theorem meaning_remembered (definition : String) :
    (remembered definition).meaning body = (body definition).meaning body := by
  funext input state
  exact (meaning_eq body (body definition) input).symm

end Validator

end JsonValidators
