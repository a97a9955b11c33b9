import JsonValidators.Validator.Interpret

/-!
Relations between runs. A lockstep relates a run of one kind to a family of runs
of another, in worlds that can only grow. It holds of runs that end at once with
one outcome, and it is kept when related runs go on in related ways. That is all
that checks are made of, so a lockstep carries over to every check and, as soon as
it holds where definitions are built, to the meaning of every expression.
-/

namespace JsonValidators

namespace Check

/-- A check that ends at once, whatever the state is. -/
def Immediate (check : (σ : Type) → Check σ) : Prop :=
  ∀ input, ∃ outcome, ∀ σ, check σ input = Run.ofOutcome outcome

theorem string_immediate : Immediate fun _ => string := by
  rintro (- | - | - | - | - | - | -) <;> exact ⟨_, fun _ => rfl⟩

theorem number_immediate : Immediate fun _ => number := by
  rintro (- | - | - | - | - | - | -) <;> exact ⟨_, fun _ => rfl⟩

theorem boolean_immediate : Immediate fun _ => boolean := by
  rintro (- | - | - | - | - | - | -) <;> exact ⟨_, fun _ => rfl⟩

theorem undefined_immediate : Immediate fun _ => undefined := by
  rintro (- | value) <;> exact ⟨_, fun _ => rfl⟩

theorem anything_immediate : Immediate fun _ => anything := fun _ => ⟨_, fun _ => rfl⟩

theorem array_immediate : Immediate fun _ => array := by
  rintro (- | - | - | - | - | - | -) <;> exact ⟨_, fun _ => rfl⟩

theorem object_immediate : Immediate fun _ => object := by
  rintro (- | - | - | - | - | - | -) <;> exact ⟨_, fun _ => rfl⟩

theorem constant_immediate (literal : Literal) (accepts : Json → Json → Bool) :
    Immediate fun _ => constant literal accepts := by
  rintro (- | value)
  · exact ⟨_, fun _ => rfl⟩
  · unfold constant
    dsimp only
    split <;> exact ⟨_, fun _ => rfl⟩

theorem always_immediate (output : Output) : Immediate fun _ => always output :=
  fun _ => ⟨_, fun _ => rfl⟩

theorem never_immediate (message : String) : Immediate fun _ => never message :=
  fun _ => ⟨_, fun _ => rfl⟩

end Check

structure Lockstep (σ τ ι : Type) where
  World : Type
  Later : World → World → Prop
  Holds : World → {α : Type} → Run σ α → (ι → Run τ α) → Prop
  ofOutcome : ∀ {w : World} {α : Type} (outcome : Outcome Fault α),
    Holds w (Run.ofOutcome outcome) fun _ => Run.ofOutcome outcome
  settle : ∀ {w : World} {α β : Type} {run : Run σ α} {runs : ι → Run τ α}
    {next : Outcome Fault α → Run σ β} {nexts : ι → Outcome Fault α → Run τ β},
    Holds w run runs → (∀ outcome, Holds w (next outcome) fun i => nexts i outcome) →
      Holds w (run.settle next) fun i => (runs i).settle (nexts i)

namespace Lockstep

variable {σ τ ι α β κ : Type} (step : Lockstep σ τ ι) {w : step.World}

section Runs

variable {step} {run : Run σ α} {runs : ι → Run τ α}

theorem bind {next : α → Run σ β} {nexts : ι → α → Run τ β} (h : step.Holds w run runs)
    (hnext : ∀ value, step.Holds w (next value) fun i => nexts i value) :
    step.Holds w (run.bind next) fun i => (runs i).bind (nexts i) := by
  refine step.settle h ?_
  rintro (fault | value)
  · exact step.ofOutcome (.error fault)
  · exact hnext value

theorem mapValue (change : α → β) (h : step.Holds w run runs) :
    step.Holds w (run.mapValue change) fun i => (runs i).mapValue change :=
  step.settle h fun _ => step.ofOutcome _

theorem mapFault (change : Fault → Fault) (h : step.Holds w run runs) :
    step.Holds w (run.mapFault change) fun i => (runs i).mapFault change :=
  step.settle h fun _ => step.ofOutcome _

end Runs

/-- A check and a family of checks that keep step on every input. -/
def Checks (w : step.World) (check : Check σ) (checks : ι → Check τ) : Prop :=
  ∀ input, step.Holds w (check input) fun i => checks i input

/-- Lists of checks that keep step place by place. -/
inductive Lists (w : step.World) : List (Check σ) → (ι → List (Check τ)) → Prop
  | nil : Lists w [] fun _ => []
  | cons {check : Check σ} {checks : ι → Check τ} {rest : List (Check σ)}
      {rests : ι → List (Check τ)} :
      step.Checks w check checks → Lists w rest rests →
        Lists w (check :: rest) fun i => checks i :: rests i

/-- The same under keys, which agree. -/
inductive Rows (w : step.World) : List (κ × Check σ) → (ι → List (κ × Check τ)) → Prop
  | nil : Rows w [] fun _ => []
  | cons (key : κ) {check : Check σ} {checks : ι → Check τ} {rest : List (κ × Check σ)}
      {rests : ι → List (κ × Check τ)} :
      step.Checks w check checks → Rows w rest rests →
        Rows w ((key, check) :: rest) fun i => (key, checks i) :: rests i

section Checks

variable {step} {check : Check σ} {checks : ι → Check τ}

/-- A check that ends at once keeps step with itself. -/
theorem immediate {check : (σ : Type) → Check σ} (h : Check.Immediate check) :
    step.Checks w (check σ) fun _ => check τ := by
  intro input
  obtain ⟨outcome, houtcome⟩ := h input
  simp only [houtcome]
  exact step.ofOutcome outcome

theorem items (h : step.Checks w check checks) (position : Nat) (values : List Json) :
    step.Holds w (Check.items check position values)
      fun i => Check.items (checks i) position values := by
  induction values generalizing position with
  | nil => exact step.ofOutcome _
  | cons value values ih =>
    refine bind (mapFault _ (h (some value))) fun output => ?_
    exact mapValue _ (ih (position + 1))

theorem list (h : step.Checks w check checks) :
    step.Checks w (Check.list check) fun i => Check.list (checks i) := by
  intro input
  unfold Check.list
  dsimp only
  split
  · exact mapValue _ (items h 0 _)
  · exact step.ofOutcome _

theorem values (h : step.Checks w check checks) (object : Entries Json) :
    step.Holds w (Check.values check object) fun i => Check.values (checks i) object := by
  induction object with
  | nil => exact step.ofOutcome _
  | cons entry rest ih =>
    refine bind (mapFault _ (h (some entry.2))) fun output => ?_
    exact mapValue _ ih

theorem dictionary (h : step.Checks w check checks) :
    step.Checks w (Check.dictionary check) fun i => Check.dictionary (checks i) := by
  intro input
  unfold Check.dictionary
  dsimp only
  split
  · exact mapValue _ (values h _)
  · exact step.ofOutcome _

theorem optional (h : step.Checks w check checks) :
    step.Checks w (Check.optional check) fun i => Check.optional (checks i) := by
  intro input
  cases input with
  | none => exact step.ofOutcome _
  | some value => exact mapValue _ (h (some value))

theorem fallback (default : Output) (h : step.Checks w check checks) :
    step.Checks w (Check.fallback default check) fun i => Check.fallback default (checks i) :=
  fun input => step.settle (h input) fun _ => step.ofOutcome _

theorem follow (path : Path) (h : step.Checks w check checks) :
    step.Checks w (Check.follow path check) fun i => Check.follow path (checks i) := by
  intro input
  unfold Check.follow
  dsimp only
  split
  · exact mapFault _ (h _)
  · exact step.ofOutcome _

theorem map (change : Output → Output) (h : step.Checks w check checks) :
    step.Checks w (Check.map change check) fun i => Check.map change (checks i) :=
  fun input => mapValue change (h input)

theorem ensure (accepts : Output → Bool) (reason : Reason) (h : step.Checks w check checks) :
    step.Checks w (Check.ensure accepts reason check)
      fun i => Check.ensure accepts reason (checks i) := by
  intro input
  refine bind (h input) fun output => ?_
  split <;> exact step.ofOutcome _

theorem continueWith {next : Output → Check σ} {nexts : ι → Output → Check τ}
    (h : step.Checks w check checks)
    (hnext : ∀ output, step.Checks w (next output) fun i => nexts i output) :
    step.Checks w (Check.continueWith check next)
      fun i => Check.continueWith (checks i) (nexts i) :=
  fun input => bind (h input) fun output => hnext output input

end Checks

section Lists

variable {step} {list : List (Check σ)} {lists : ι → List (Check τ)}

theorem Lists.length_eq (h : step.Lists w list lists) (i : ι) :
    (lists i).length = list.length := by
  induction h with
  | nil => rfl
  | cons _ _ ih => simp [ih]

theorem positions (h : step.Lists w list lists) (position : Nat) (values : List Json) :
    step.Holds w (Check.positions position list values)
      fun i => Check.positions position (lists i) values := by
  induction h generalizing position values with
  | nil => exact step.ofOutcome _
  | cons hcheck _ ih =>
    cases values with
    | nil => exact step.ofOutcome _
    | cons value values =>
      refine bind (mapFault _ (hcheck (some value))) fun output => ?_
      exact mapValue _ (ih (position + 1) values)

theorem tuple (h : step.Lists w list lists) :
    step.Checks w (Check.tuple list) fun i => Check.tuple (lists i) := by
  intro input
  simp only [Check.tuple, h.length_eq]
  split
  · split
    · exact mapValue _ (positions h 0 _)
    · exact step.ofOutcome _
  · exact step.ofOutcome _

theorem alternatives (h : step.Lists w list lists) (input : Option Json)
    (entries : List String) :
    step.Holds w (Check.alternatives input entries list)
      fun i => Check.alternatives input entries (lists i) := by
  induction h generalizing entries with
  | nil => exact step.ofOutcome _
  | cons hcheck _ ih =>
    refine step.settle (hcheck input) ?_
    rintro (fault | output)
    · exact ih (entries ++ [fault.entry])
    · exact step.ofOutcome _

theorem firstOf (h : step.Lists w list lists) :
    step.Checks w (Check.firstOf list) fun i => Check.firstOf (lists i) :=
  fun input => alternatives h input []

theorem parts (h : step.Lists w list lists) (input : Option Json) (merged : Entries Json) :
    step.Holds w (Check.parts input merged list)
      fun i => Check.parts input merged (lists i) := by
  induction h generalizing merged with
  | nil => exact step.ofOutcome _
  | cons hcheck _ ih => exact bind (hcheck input) fun output => ih _

theorem intersection (h : step.Lists w list lists) :
    step.Checks w (Check.intersection list) fun i => Check.intersection (lists i) :=
  fun input => mapValue _ (parts h input [])

end Lists

section Rows

variable {step} {declared : Entries (Check σ)} {declareds : ι → Entries (Check τ)}

theorem Rows.keys_eq (h : step.Rows w declared declareds) (i : ι) :
    Entries.keys (declareds i) = Entries.keys declared := by
  induction h with
  | nil => rfl
  | cons key _ _ ih => simp [ih]

theorem Rows.insert (h : step.Rows w declared declareds) (key : String) {check : Check σ}
    {checks : ι → Check τ} (hcheck : step.Checks w check checks) :
    step.Rows w (Entries.insert declared key check)
      fun i => Entries.insert (declareds i) key (checks i) := by
  induction h with
  | nil => exact .cons key hcheck .nil
  | cons other hother hrest ih =>
    simp only [Entries.insert]
    split
    · exact .cons other hcheck hrest
    · exact .cons other hother ih

theorem Rows.ofList (h : step.Rows w declared declareds) :
    step.Rows w (Entries.ofList declared) fun i => Entries.ofList (declareds i) := by
  suffices hmerge : ∀ {first firsts}, step.Rows w first firsts →
      step.Rows w (Entries.merge first declared) fun i => Entries.merge (firsts i) (declareds i) by
    exact hmerge .nil
  induction h with
  | nil => exact id
  | cons key hcheck _ ih =>
    intro first firsts hfirst
    exact ih (hfirst.insert key hcheck)

theorem fields (h : step.Rows w declared declareds) (object : Entries Json) :
    step.Holds w (Check.fields object declared) fun i => Check.fields object (declareds i) := by
  induction h with
  | nil => exact step.ofOutcome _
  | cons key hcheck _ ih =>
    refine bind (mapFault _ (hcheck (Entries.get? object key))) fun output => ?_
    exact mapValue _ ih

theorem record (h : step.Rows w declared declareds) :
    step.Checks w (Check.record declared) fun i => Check.record (declareds i) := by
  intro input
  unfold Check.record
  dsimp only
  split
  · exact mapValue _ (fields h _)
  · exact step.ofOutcome _

/-- The keys alone decide which key of an object is undeclared. -/
theorem Rows.undeclared?_eq (h : step.Rows w declared declareds) (object : Entries Json)
    (i : ι) : Check.undeclared? (declareds i) object = Check.undeclared? declared object := by
  have hcontains : ∀ key,
      Entries.contains (declareds i) key = Entries.contains declared key := by
    intro key
    rw [Bool.eq_iff_iff, Entries.contains, Entries.contains, Entries.isSome_get?_iff,
      Entries.isSome_get?_iff, h.keys_eq i]
  simp only [Check.undeclared?, hcontains]

theorem closedRecord (h : step.Rows w declared declareds) :
    step.Checks w (Check.closedRecord declared) fun i => Check.closedRecord (declareds i) := by
  intro input
  unfold Check.closedRecord
  dsimp only
  split
  · refine bind (fields h _) fun validated => ?_
    simp only [h.undeclared?_eq]
    split <;> exact step.ofOutcome _
  · exact step.ofOutcome _

theorem firstCase {otherwise : Check σ} {otherwises : ι → Check τ}
    {cases : List ((Output → Bool) × Check σ)}
    {casess : ι → List ((Output → Bool) × Check τ)} (output : Output)
    (hotherwise : step.Checks w otherwise otherwises) (h : step.Rows w cases casess) :
    step.Checks w (Check.firstCase output otherwise cases)
      fun i => Check.firstCase output (otherwises i) (casess i) := by
  induction h with
  | nil => exact hotherwise
  | cons accepts hcheck _ ih =>
    simp only [Check.firstCase]
    split
    · exact hcheck
    · exact ih

end Rows

end Lockstep

/-- Pairs of states that belong together, in worlds that can only grow. A lenient
relation lets the first of two runs end with neither a value nor a fault while the
second one goes on. -/
structure StateRelation (σ τ : Type) where
  World : Type
  Later : World → World → Prop
  refl : ∀ w, Later w w
  trans : ∀ {u v w}, Later u v → Later v w → Later u w
  Related : World → σ → τ → Prop
  lenient : Prop

namespace StateRelation

variable {σ τ α β : Type} (relation : StateRelation σ τ)

/-- Two runs end alike, in states that belong together. -/
inductive Ends (w : relation.World) :
    Option (Outcome Fault α × σ) → Option (Outcome Fault α × τ) → Prop
  | together (outcome : Outcome Fault α) {w' : relation.World} {s : σ} {t : τ} :
      relation.Later w w' → relation.Related w' s t →
        Ends w (some (outcome, s)) (some (outcome, t))
  | neither : Ends w none none
  | early (result : Option (Outcome Fault α × τ)) : relation.lenient → Ends w none result

theorem Ends.since {relation : StateRelation σ τ} {w w' : relation.World}
    {result : Option (Outcome Fault α × σ)} {result' : Option (Outcome Fault α × τ)}
    (hw : relation.Later w w') (h : relation.Ends w' result result') :
    relation.Ends w result result' := by
  cases h with
  | together outcome hlater hrelated =>
    exact .together outcome (relation.trans hw hlater) hrelated
  | neither => exact .neither
  | early result' hlenient => exact .early result' hlenient

theorem Ends.settle {relation : StateRelation σ τ} {w : relation.World} {run : Run σ α}
    {run' : Run τ α} {next : Outcome Fault α → Run σ β} {next' : Outcome Fault α → Run τ β}
    {s : σ} {t : τ} (h : relation.Ends w (run s) (run' t))
    (hnext : ∀ outcome w' s' t', relation.Later w w' → relation.Related w' s' t' →
      relation.Ends w' (next outcome s') (next' outcome t')) :
    relation.Ends w (run.settle next s) (run'.settle next' t) := by
  unfold Run.settle
  generalize run s = result at h
  generalize run' t = result' at h
  cases h with
  | together outcome hlater hrelated =>
    exact (hnext outcome _ _ _ hlater hrelated).since hlater
  | neither => exact .neither
  | early result' hlenient => exact .early _ hlenient

/-- Runs that end alike from all states that belong together now or later. -/
def lockstep : Lockstep σ τ Unit where
  World := relation.World
  Later := relation.Later
  Holds w _ run runs := ∀ w' s t, relation.Later w w' → relation.Related w' s t →
    relation.Ends w' (run s) (runs () t)
  ofOutcome outcome w' _ _ _ hrelated := .together outcome (relation.refl w') hrelated
  settle h hnext w' s t hw hrelated :=
    (h w' s t hw hrelated).settle fun outcome _ s' t' hw' =>
      hnext outcome _ s' t' (relation.trans hw hw')

/-- The same state on both sides; the first run may end early. -/
def unchanged (σ : Type) (lenient : Prop) : StateRelation σ σ where
  World := Unit
  Later _ _ := True
  refl _ := trivial
  trans _ _ := trivial
  Related _ s t := s = t
  lenient := lenient

theorem Ends.same {lenient : Prop} (w : (unchanged σ lenient).World)
    (result : Option (Outcome Fault α × σ)) : (unchanged σ lenient).Ends w result result := by
  cases result with
  | none => exact .neither
  | some ending => exact @Ends.together _ _ _ _ w ending.1 w _ _ trivial rfl

theorem Ends.of_some {lenient : Prop} {w : (unchanged σ lenient).World}
    {result result' : Option (Outcome Fault α × σ)} {ending : Outcome Fault α × σ}
    (h : (unchanged σ lenient).Ends w result result') (hsome : result = some ending) :
    result' = some ending := by
  cases h with
  | together outcome _ hstate =>
    obtain rfl := hstate
    exact hsome
  | neither => exact hsome
  | early => exact absurd hsome (by simp)

/-- Without leniency the two runs are the same. -/
theorem Ends.eq {w : (unchanged σ False).World} {result result' : Option (Outcome Fault α × σ)}
    (h : (unchanged σ False).Ends w result result') : result = result' := by
  cases h with
  | together outcome _ hstate =>
    obtain rfl := hstate
    rfl
  | neither => rfl
  | early _ hlenient => exact hlenient.elim

end StateRelation

end JsonValidators
