import JsonValidators.Run
import Mathlib.Data.List.Forall2
import Mathlib.Data.Option.Basic

/-!
How runs end: with a value, in a fault, or not at all; and how changes of values and of
faults go together. Of runs that are made in order, the first that fails is the last.
-/

namespace JsonValidators

section Related

variable {α β : Type} {R : α → β → Prop} {xs : List α} {ys : List β}

/-- Every member of the first list is related to some member of the second. -/
theorem exists_right_of_forall₂ (h : List.Forall₂ R xs ys) {x : α} (hx : x ∈ xs) :
    ∃ y ∈ ys, R x y := by
  induction h with
  | nil => exact absurd hx List.not_mem_nil
  | cons hfirst _ ih =>
    rcases List.mem_cons.mp hx with rfl | hrest
    · exact ⟨_, List.mem_cons_self, hfirst⟩
    · obtain ⟨y, hy, hrelated⟩ := ih hrest
      exact ⟨y, List.mem_cons_of_mem _ hy, hrelated⟩

theorem exists_left_of_forall₂ (h : List.Forall₂ R xs ys) {y : β} (hy : y ∈ ys) :
    ∃ x ∈ xs, R x y := exists_right_of_forall₂ h.flip hy

/-- If every member is related to something, all members are, one by one. -/
theorem exists_forall₂_iff : (∃ ys, List.Forall₂ R xs ys) ↔ ∀ x ∈ xs, ∃ y, R x y := by
  constructor
  · rintro ⟨ys, h⟩ x hx
    obtain ⟨y, _, hrelated⟩ := exists_right_of_forall₂ h hx
    exact ⟨y, hrelated⟩
  · intro h
    induction xs with
    | nil => exact ⟨[], .nil⟩
    | cons x xs ih =>
      obtain ⟨⟨y, hy⟩, hrest⟩ := List.forall_mem_cons.mp h
      obtain ⟨ys, hys⟩ := ih hrest
      exact ⟨y :: ys, .cons hy hys⟩

theorem forall₂_imp_of_mem {S : α → β → Prop} (h : List.Forall₂ R xs ys)
    (himp : ∀ x ∈ xs, ∀ y ∈ ys, R x y → S x y) : List.Forall₂ S xs ys := by
  induction h with
  | nil => exact .nil
  | cons hfirst _ ih =>
    refine .cons (himp _ List.mem_cons_self _ List.mem_cons_self hfirst) (ih fun x hx y hy => ?_)
    exact himp x (List.mem_cons_of_mem _ hx) y (List.mem_cons_of_mem _ hy)

theorem forall₂_map_map {ι : Type} {f : ι → α} {g : ι → β} {members : List ι}
    (h : ∀ member ∈ members, R (f member) (g member)) :
    List.Forall₂ R (members.map f) (members.map g) :=
  List.forall₂_map_left_iff.mpr (List.forall₂_map_right_iff.mpr (List.forall₂_same.mpr h))

theorem forall₂_replicate {x : α} {y : β} (h : R x y) (n : Nat) :
    List.Forall₂ R (List.replicate n x) (List.replicate n y) := by
  induction n with
  | zero => exact .nil
  | succ n ih => exact .cons h ih

/-- What is made of related members, one by one, is related if each of it is. -/
theorem forall₂_made {γ δ : Type} {P : α → γ → Prop} {Q : β → δ → Prop} {S : γ → δ → Prop}
    {made : List γ} {made' : List δ} (h : List.Forall₂ R xs ys) (hP : List.Forall₂ P xs made)
    (hQ : List.Forall₂ Q ys made') (hstep : ∀ x y z w, R x y → P x z → Q y w → S z w) :
    List.Forall₂ S made made' := by
  induction h generalizing made made' with
  | nil =>
    cases hP
    cases hQ
    exact .nil
  | cons hfirst _ ih =>
    cases hP with
    | cons hz hP =>
      cases hQ with
      | cons hw hQ => exact .cons (hstep _ _ _ _ hfirst hz hw) (ih hP hQ)

/-- Places of a fixed list with related values in them. -/
theorem forall₂_zip_right {ι : Type} (h : List.Forall₂ R xs ys) (places : List ι) :
    List.Forall₂ (fun first second => first.1 ∈ places ∧ first.1 = second.1 ∧
      R first.2 second.2) (places.zip xs) (places.zip ys) := by
  induction h generalizing places with
  | nil => simp
  | cons hfirst _ ih =>
    cases places with
    | nil => exact .nil
    | cons place places =>
      refine .cons ⟨List.mem_cons_self, rfl, hfirst⟩ ((ih places).imp fun first second hrest => ?_)
      exact ⟨List.mem_cons_of_mem _ hrest.1, hrest.2⟩

theorem rel_getElem?_of_forall₂ (h : List.Forall₂ R xs ys) (position : Nat) :
    Option.Rel R xs[position]? ys[position]? := by
  induction h generalizing position with
  | nil => exact .none
  | cons hfirst _ ih =>
    cases position with
    | zero => exact .some hfirst
    | succ position => exact ih position

theorem exists_right_of_rel {x : α} {y? : Option β} (h : Option.Rel R (some x) y?) :
    ∃ y, y? = some y ∧ R x y := by
  cases h with
  | some hrelated => exact ⟨_, rfl, hrelated⟩

theorem exists_left_of_rel {x? : Option α} {y : β} (h : Option.Rel R x? (some y)) :
    ∃ x, x? = some x ∧ R x y := by
  cases h with
  | some hrelated => exact ⟨_, rfl, hrelated⟩

theorem rel_bind {γ δ : Type} {S : γ → δ → Prop} {x : Option α} {y : Option β}
    {f : α → Option γ} {g : β → Option δ} (h : Option.Rel R x y)
    (hnext : ∀ a b, R a b → Option.Rel S (f a) (g b)) : Option.Rel S (x.bind f) (y.bind g) := by
  cases h with
  | some hrelated => exact hnext _ _ hrelated
  | none => exact .none

theorem rel_or {x x' : Option α} {y y' : Option β} (h : Option.Rel R x y)
    (h' : Option.Rel R x' y') : Option.Rel R (x.or x') (y.or y') := by
  cases h with
  | some hrelated => exact .some hrelated
  | none => exact h'

end Related

/-- A run that ends with a value. -/
def Run.Yields {α : Type} (run : Run Unit α) (value : α) : Prop := run () = some (.ok value, ())

/-- A run that ends in a fault. -/
def Run.Fails {α : Type} (run : Run Unit α) (fault : Fault) : Prop :=
  run () = some (.error fault, ())

namespace Run

variable {σ α β : Type} {run : Run Unit α}

@[simp] theorem yields_ofValue (first second : α) :
    (ofValue first : Run Unit α).Yields second ↔ first = second := by
  simp [Yields, ofValue, ofOutcome]

@[simp] theorem not_yields_ofReason (reason : Reason) (value : α) :
    ¬ (ofReason reason : Run Unit α).Yields value := by
  simp [Yields, ofReason, ofFault, ofOutcome]

@[simp] theorem not_yields_ofFault (fault : Fault) (value : α) :
    ¬ (ofFault fault : Run Unit α).Yields value := by
  simp [Yields, ofFault, ofOutcome]

@[simp] theorem not_fails_ofValue (value : α) (fault : Fault) :
    ¬ (ofValue value : Run Unit α).Fails fault := by
  simp [Fails, ofValue, ofOutcome]

@[simp] theorem fails_ofFault (first second : Fault) :
    (ofFault first : Run Unit α).Fails second ↔ first = second := by
  simp [Fails, ofFault, ofOutcome]

@[simp] theorem fails_ofReason (reason : Reason) (fault : Fault) :
    (ofReason reason : Run Unit α).Fails fault ↔ Fault.here reason = fault := by
  simp [Fails, ofReason, ofFault, ofOutcome]

theorem yields_settle {next : Outcome Fault α → Run Unit β} {value : β} :
    (run.settle next).Yields value ↔
      ∃ outcome, run () = some (outcome, ()) ∧ (next outcome).Yields value := by
  unfold Yields settle
  rcases run () with - | ⟨outcome, ⟨⟩⟩ <;> simp

theorem fails_settle {next : Outcome Fault α → Run Unit β} {fault : Fault} :
    (run.settle next).Fails fault ↔
      ∃ outcome, run () = some (outcome, ()) ∧ (next outcome).Fails fault := by
  unfold Fails settle
  rcases run () with - | ⟨outcome, ⟨⟩⟩ <;> simp

theorem yields_bind {next : α → Run Unit β} {value : β} :
    (run.bind next).Yields value ↔ ∃ middle, run.Yields middle ∧ (next middle).Yields value := by
  unfold Yields bind settle
  rcases run () with - | ⟨fault | middle, ⟨⟩⟩
  · simp
  · simp [ofFault, ofOutcome]
  · simp

theorem fails_bind {next : α → Run Unit β} {fault : Fault} :
    (run.bind next).Fails fault ↔
      run.Fails fault ∨ ∃ middle, run.Yields middle ∧ (next middle).Fails fault := by
  unfold Fails Yields bind settle
  rcases run () with - | ⟨other | middle, ⟨⟩⟩
  · simp
  · simp [ofFault, ofOutcome]
  · simp

theorem yields_mapValue {change : α → β} {value : β} :
    (run.mapValue change).Yields value ↔ ∃ middle, run.Yields middle ∧ change middle = value := by
  unfold Yields mapValue settle
  rcases run () with - | ⟨fault | middle, ⟨⟩⟩ <;> simp [ofOutcome, Outcome.map]

@[simp] theorem fails_mapValue (change : α → β) (fault : Fault) :
    (run.mapValue change).Fails fault ↔ run.Fails fault := by
  unfold Fails mapValue settle
  rcases run () with - | ⟨other | middle, ⟨⟩⟩ <;> simp [ofOutcome, Outcome.map]

@[simp] theorem yields_mapFault (change : Fault → Fault) (value : α) :
    (run.mapFault change).Yields value ↔ run.Yields value := by
  unfold Yields mapFault settle
  rcases run () with - | ⟨fault | middle, ⟨⟩⟩ <;> simp [ofOutcome, Outcome.mapError]

theorem fails_mapFault {change : Fault → Fault} {fault : Fault} :
    (run.mapFault change).Fails fault ↔ ∃ inner, run.Fails inner ∧ change inner = fault := by
  unfold Fails mapFault settle
  rcases run () with - | ⟨other | middle, ⟨⟩⟩ <;> simp [ofOutcome, Outcome.mapError]

theorem bind_mapValue {γ : Type} (run : Run σ α) (change : α → β) (next : β → Run σ γ) :
    (run.mapValue change).bind next = run.bind fun value => next (change value) := by
  funext state
  unfold bind mapValue settle
  rcases run state with - | ⟨fault | value, state'⟩ <;> rfl

theorem mapValue_mapValue {γ : Type} (run : Run σ α) (change : α → β) (change' : β → γ) :
    (run.mapValue change).mapValue change' = run.mapValue fun value => change' (change value) := by
  funext state
  unfold mapValue settle
  rcases run state with - | ⟨fault | value, state'⟩ <;> rfl

theorem mapValue_settle {γ : Type} (run : Run σ α) (next : Outcome Fault α → Run σ β) (change : β → γ) :
    (run.settle next).mapValue change =
      run.settle fun outcome => (next outcome).mapValue change := by
  funext state
  unfold mapValue settle
  rcases run state with - | ⟨outcome, last⟩ <;> rfl

/-- Runs that end alike once their values are changed go on alike, if what follows depends on the
changed value only. -/
theorem settle_congr {γ : Type} {run run' : Run σ α} {change : α → β}
    (h : run.mapValue change = run'.mapValue change) {next next' : Outcome Fault α → Run σ γ}
    (hok : ∀ value value', change value = change value' → next (.ok value) = next' (.ok value'))
    (herror : ∀ fault, next (.error fault) = next' (.error fault)) :
    run.settle next = run'.settle next' := by
  funext state
  have hstate := congrFun h state
  revert hstate
  unfold mapValue settle
  rcases run state with - | ⟨fault | value, last⟩ <;>
    rcases run' state with - | ⟨fault' | value', last'⟩ <;> intro hstate
  case none.none => rfl
  case some.error.some.error =>
    cases hstate
    exact congrFun (herror fault) last
  case some.ok.some.ok =>
    obtain ⟨hvalue, rfl⟩ := Prod.mk.inj (Option.some.inj hstate)
    exact congrFun (hok value value' (Except.ok.inj hvalue)) last
  all_goals cases hstate

theorem mapValue_bind {γ : Type} (run : Run σ α) (next : α → Run σ β) (change : β → γ) :
    (run.bind next).mapValue change = run.bind fun value => (next value).mapValue change := by
  funext state
  unfold bind mapValue settle
  rcases run state with - | ⟨fault | value, state'⟩ <;> rfl

theorem bind_bind {γ : Type} (run : Run σ α) (next : α → Run σ β) (later : β → Run σ γ) :
    (run.bind next).bind later = run.bind fun value => (next value).bind later := by
  funext state
  unfold bind settle
  rcases run state with - | ⟨fault | value, state'⟩ <;> rfl

theorem bind_ofValue (run : Run σ α) (change : α → β) :
    (run.bind fun value => ofValue (change value)) = run.mapValue change := by
  funext state
  unfold bind mapValue settle
  rcases run state with - | ⟨fault | value, state'⟩ <;> rfl

theorem mapFault_mapFault (run : Run σ α) (change change' : Fault → Fault) :
    (run.mapFault change).mapFault change' = run.mapFault fun fault => change' (change fault) := by
  funext state
  unfold mapFault settle
  rcases run state with - | ⟨fault | value, state'⟩ <;> rfl

theorem mapFault_mapValue (run : Run σ α) (change : α → β) (label : Fault → Fault) :
    (run.mapValue change).mapFault label = (run.mapFault label).mapValue change := by
  funext state
  unfold mapFault mapValue settle
  rcases run state with - | ⟨fault | value, state'⟩ <;> rfl

theorem mapFault_ofFault (change : Fault → Fault) (fault : Fault) :
    (ofFault fault : Run σ α).mapFault change = ofFault (change fault) := rfl

theorem mapValue_eq_self {run : Run σ α} {change : α → α}
    (h : ∀ state value last, run state = some (.ok value, last) → change value = value) :
    run.mapValue change = run := by
  funext state
  unfold mapValue settle
  rcases hrun : run state with - | ⟨fault | value, last⟩
  · rfl
  · rfl
  · have hvalue := h state value last hrun
    simp only [ofOutcome, Outcome.map, hvalue]

theorem mapFault_eq_self {change : Fault → Fault} (h : ∀ fault, change fault = fault)
    (run : Run σ α) : run.mapFault change = run := by
  funext state
  unfold mapFault settle
  rcases run state with - | ⟨fault | value, state'⟩
  · rfl
  · simp only [ofOutcome, Outcome.mapError, h fault]
  · rfl

/-- The value that a run ends with, if it does not end in a fault. -/
def value? (run : Run σ α) : Run σ (Option α) := run.settle fun outcome => ofValue outcome.value?

theorem value?_apply (run : Run σ α) (state : σ) :
    run.value? state = (run state).map fun ending => (.ok ending.1.value?, ending.2) := by
  unfold value? settle
  rcases run state with - | ⟨outcome, last⟩ <;> rfl

theorem map_value? (run : Run σ α) (state : σ) :
    (run state).map (fun ending => ending.1.value?) =
      (run.value? state).map fun ending => ending.1.value?.join := by
  rw [value?_apply, Option.map_map]
  rfl

theorem value?_eq_some_iff {run : Run σ α} {state last : σ} {value : α} :
    run.value? state = some (.ok (some value), last) ↔ run state = some (.ok value, last) := by
  unfold value? settle
  rcases run state with - | ⟨fault | other, state'⟩ <;>
    simp [ofValue, ofOutcome, Outcome.value?]

theorem value?_eq_none_iff {run : Run σ α} {state last : σ} :
    run.value? state = some (.ok none, last) ↔
      ∃ fault, run state = some (.error fault, last) := by
  unfold value? settle
  rcases run state with - | ⟨fault | other, state'⟩ <;>
    simp [ofValue, ofOutcome, Outcome.value?]

theorem map_snd_value? (run : Run σ α) (state : σ) :
    (run.value? state).map Prod.snd = (run state).map Prod.snd := by
  unfold value? settle
  rcases run state with - | ⟨fault | value, state'⟩ <;> rfl

theorem map_snd_mapValue (run : Run σ α) (change : α → β) (state : σ) :
    (run.mapValue change state).map Prod.snd = (run state).map Prod.snd := by
  unfold mapValue settle
  rcases run state with - | ⟨fault | value, state'⟩ <;> rfl

theorem value?_mapFault (run : Run σ α) (change : Fault → Fault) :
    (run.mapFault change).value? = run.value? := by
  funext state
  unfold value? mapFault settle
  rcases run state with - | ⟨fault | value, state'⟩ <;> rfl

theorem value?_mapValue (run : Run σ α) (change : α → β) :
    (run.mapValue change).value? = run.value?.mapValue (Option.map change) := by
  funext state
  unfold value? mapValue settle
  rcases run state with - | ⟨fault | value, state'⟩ <;> rfl

theorem value?_ofFault (fault : Fault) : (ofFault fault : Run σ α).value? = ofValue none := rfl

/-- Runs in order. The first that fails ends it. -/
def all : List (Run σ α) → Run σ (List α)
  | [] => ofValue []
  | run :: runs => run.bind fun value => (all runs).mapValue (value :: ·)

theorem yields_all {runs : List (Run Unit α)} {values : List α} :
    (all runs).Yields values ↔ List.Forall₂ Yields runs values := by
  induction runs generalizing values with
  | nil =>
    rw [all, yields_ofValue, List.forall₂_nil_left_iff]
    exact eq_comm
  | cons run runs ih =>
    rw [all, yields_bind, List.forall₂_cons_left_iff]
    constructor
    · rintro ⟨value, hvalue, hmapped⟩
      obtain ⟨others, hothers, rfl⟩ := yields_mapValue.mp hmapped
      exact ⟨value, others, hvalue, ih.mp hothers, rfl⟩
    · rintro ⟨value, others, hvalue, hothers, rfl⟩
      exact ⟨value, hvalue, yields_mapValue.mpr ⟨others, ih.mpr hothers, rfl⟩⟩

theorem fails_all {runs : List (Run Unit α)} {fault : Fault} :
    (all runs).Fails fault ↔ ∃ before run after, runs = before ++ run :: after ∧
      (∀ earlier ∈ before, ∃ value, earlier.Yields value) ∧ run.Fails fault := by
  induction runs with
  | nil => simp [all]
  | cons run runs ih =>
    rw [all, fails_bind]
    constructor
    · rintro (hfirst | ⟨value, hvalue, hrest⟩)
      · exact ⟨[], run, runs, rfl, by simp, hfirst⟩
      · obtain ⟨before, failed, after, rfl, hbefore, hfailed⟩ :=
          ih.mp ((fails_mapValue _ _).mp hrest)
        refine ⟨run :: before, failed, after, rfl, ?_, hfailed⟩
        exact List.forall_mem_cons.mpr ⟨⟨value, hvalue⟩, hbefore⟩
    · rintro ⟨before, failed, after, hsplit, hbefore, hfailed⟩
      cases before with
      | nil =>
        obtain ⟨rfl, rfl⟩ := List.cons.inj hsplit
        exact .inl hfailed
      | cons first before =>
        obtain ⟨rfl, rfl⟩ := List.cons.inj hsplit
        obtain ⟨⟨value, hvalue⟩, hrest⟩ := List.forall_mem_cons.mp hbefore
        refine .inr ⟨value, hvalue, (fails_mapValue _ _).mpr ?_⟩
        exact ih.mpr ⟨before, failed, after, rfl, hrest, hfailed⟩

theorem exists_mem_of_fails_all {runs : List (Run Unit α)} {fault : Fault}
    (h : (all runs).Fails fault) : ∃ run ∈ runs, run.Fails fault := by
  obtain ⟨before, run, after, rfl, _, hrun⟩ := fails_all.mp h
  exact ⟨run, by simp, hrun⟩

end Run

end JsonValidators
