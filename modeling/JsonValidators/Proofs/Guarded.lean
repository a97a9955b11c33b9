import JsonValidators.Proofs.Scenario

/-!
Guarded recursion. The items of an array, the properties of an object, whether there
or missing, and what a path of one step or more leads to are all smaller than the
value that is looked at, and nothing is smaller than the absence of a value. If
definitions refer to one another only at such places, every check ends.
-/

namespace JsonValidators

namespace Json

theorem sizeOf_pos (value : Json) : 0 < sizeOf value := by
  cases value with
  | null => exact Nat.one_pos
  | bool value => rw [bool.sizeOf_spec]; omega
  | number value => rw [number.sizeOf_spec]; omega
  | string value => rw [string.sizeOf_spec]; omega
  | array items => rw [array.sizeOf_spec]; omega
  | object entries => rw [object.sizeOf_spec]; omega

theorem sizeOf_item {items : List Json} {item : Json} (h : item ∈ items) :
    sizeOf (some item) < sizeOf (some (array items)) := by
  have hitem := List.sizeOf_lt_of_mem h
  rw [Option.some.sizeOf_spec, Option.some.sizeOf_spec, array.sizeOf_spec]
  omega

theorem sizeOf_property {object : Entries Json} {entry : String × Json} (h : entry ∈ object) :
    sizeOf (some entry.2) < sizeOf (some (Json.object object)) := by
  have hentry := List.sizeOf_lt_of_mem h
  obtain ⟨key, value⟩ := entry
  rw [Prod.mk.sizeOf_spec] at hentry
  show sizeOf (some value) < sizeOf (some (Json.object object))
  rw [Option.some.sizeOf_spec, Option.some.sizeOf_spec, Json.object.sizeOf_spec]
  omega

/-- The absence of a property is smaller, too. -/
theorem sizeOf_get? (object : Entries Json) (name : String) :
    sizeOf (Entries.get? object name) < sizeOf (some (Json.object object)) := by
  cases hget : Entries.get? object name with
  | none =>
    have hpos := sizeOf_pos (Json.object object)
    rw [Option.none.sizeOf_spec, Option.some.sizeOf_spec]
    omega
  | some value => exact sizeOf_property (Entries.mem_of_get? hget)

theorem sizeOf_getElem? (items : List Json) (position : Nat) :
    sizeOf items[position]? < sizeOf (some (array items)) := by
  cases hget : items[position]? with
  | none =>
    have hpos := sizeOf_pos (array items)
    rw [Option.none.sizeOf_spec, Option.some.sizeOf_spec]
    omega
  | some item => exact sizeOf_item (List.mem_of_getElem? hget)

end Json

/-- Every step of a path leads to something smaller. -/
theorem Check.sizeOf_walk {walked : Path} {segment : Segment} {rest : List Segment}
    {input found : Option Json} (h : walk walked (segment :: rest) input = .ok found) :
    sizeOf found < sizeOf input := by
  have hstep : ∃ next, sizeOf next < sizeOf input ∧
      walk (walked.push segment) rest next = .ok found := by
    unfold walk at h
    dsimp only at h
    split at h
    · exact absurd h (by simp)
    · exact ⟨_, Json.sizeOf_get? _ _, h⟩
    · exact absurd h (by simp)
    · exact ⟨_, Json.sizeOf_getElem? _ _, h⟩
    · exact absurd h (by simp)
  obtain ⟨next, hnext, hrest⟩ := hstep
  cases rest with
  | nil =>
    rw [walk] at hrest
    cases hrest
    exact hnext
  | cons segment' rest => exact Nat.lt_trans (sizeOf_walk hrest) hnext

/-- A run that ends with a value or a fault. -/
def Run.Ends {α : Type} (run : Run Unit α) : Prop := ∃ outcome, run () = some (outcome, ())

namespace Run

variable {α β : Type} {run : Run Unit α}

theorem ends_ofOutcome (outcome : Outcome Fault α) : (ofOutcome outcome : Run Unit α).Ends :=
  ⟨outcome, rfl⟩

theorem Ends.settle {next : Outcome Fault α → Run Unit β} (h : run.Ends)
    (hnext : ∀ outcome, run () = some (outcome, ()) → (next outcome).Ends) :
    (run.settle next).Ends := by
  obtain ⟨outcome, hrun⟩ := h
  obtain ⟨outcome', hrun'⟩ := hnext outcome hrun
  exact ⟨outcome', by simp [Run.settle, hrun, hrun']⟩

theorem Ends.bind {next : α → Run Unit β} (h : run.Ends)
    (hnext : ∀ value, run () = some (.ok value, ()) → (next value).Ends) :
    (run.bind next).Ends := by
  refine h.settle ?_
  rintro (fault | value) hrun
  · exact ends_ofOutcome (.error fault)
  · exact hnext value hrun

theorem Ends.mapValue (change : α → β) (h : run.Ends) : (run.mapValue change).Ends :=
  h.settle fun _ _ => ends_ofOutcome _

theorem Ends.mapFault (change : Fault → Fault) (h : run.Ends) : (run.mapFault change).Ends :=
  h.settle fun _ _ => ends_ofOutcome _

end Run

namespace Check

variable {ι : Type} {check : Check Unit} {input : Option Json}

/-- A check that ends on every value that is smaller than the input. -/
def EndsBelow (check : Check Unit) (input : Option Json) : Prop :=
  ∀ found : Option Json, sizeOf found < sizeOf input → (check found).Ends

theorem Immediate.ends {check : (σ : Type) → Check σ} (h : Immediate check)
    (input : Option Json) : (check Unit input).Ends := by
  obtain ⟨outcome, houtcome⟩ := h input
  rw [houtcome]
  exact Run.ends_ofOutcome outcome

theorem ends_list (h : check.EndsBelow input) : (list check input).Ends := by
  have hitems : ∀ (values : List Json) (position : Nat),
      (∀ value ∈ values, (check (some value)).Ends) → (items check position values).Ends := by
    intro values
    induction values with
    | nil => exact fun _ _ => Run.ends_ofOutcome _
    | cons value values ih =>
      intro position hvalues
      obtain ⟨hvalue, hrest⟩ := List.forall_mem_cons.mp hvalues
      exact (hvalue.mapFault _).bind fun _ _ => (ih (position + 1) hrest).mapValue _
  unfold list
  split
  · exact (hitems _ 0 fun value hvalue => h _ (Json.sizeOf_item hvalue)).mapValue _
  · exact Run.ends_ofOutcome _

theorem ends_dictionary (h : check.EndsBelow input) : (dictionary check input).Ends := by
  have hvalues : ∀ object : Entries Json,
      (∀ entry ∈ object, (check (some entry.2)).Ends) → (values check object).Ends := by
    intro object
    induction object with
    | nil => exact fun _ => Run.ends_ofOutcome _
    | cons entry rest ih =>
      intro hobject
      obtain ⟨hentry, hrest⟩ := List.forall_mem_cons.mp hobject
      exact (hentry.mapFault _).bind fun _ _ => (ih hrest).mapValue _
  unfold dictionary
  split
  · exact (hvalues _ fun entry hentry => h _ (Json.sizeOf_property hentry)).mapValue _
  · exact Run.ends_ofOutcome _

theorem ends_tuple {elements : List (Check Unit)}
    (h : ∀ element ∈ elements, EndsBelow element input) : (tuple elements input).Ends := by
  have hpositions : ∀ (values : List Json) (position : Nat),
      (∀ element ∈ elements, ∀ value ∈ values, (element (some value)).Ends) →
        (positions position elements values).Ends := by
    clear h
    induction elements with
    | nil => exact fun _ _ _ => Run.ends_ofOutcome _
    | cons element elements ih =>
      intro values position hends
      obtain ⟨helement, helements⟩ := List.forall_mem_cons.mp hends
      cases values with
      | nil => exact Run.ends_ofOutcome _
      | cons value values =>
        obtain ⟨hvalue, _⟩ := List.forall_mem_cons.mp helement
        refine (hvalue.mapFault _).bind fun _ _ => (ih values (position + 1) ?_).mapValue _
        intro other hother item hitem
        exact helements other hother item (List.mem_cons_of_mem _ hitem)
  unfold tuple
  split
  · split
    · exact (hpositions _ 0 fun element helement value hvalue =>
        h element helement _ (Json.sizeOf_item hvalue)).mapValue _
    · exact Run.ends_ofOutcome _
  · exact Run.ends_ofOutcome _

theorem ends_fields {declared : Entries (Check Unit)} {object : Entries Json}
    (h : ∀ entry ∈ declared, EndsBelow entry.2 (some (.object object))) :
    (fields object declared).Ends := by
  induction declared with
  | nil => exact Run.ends_ofOutcome _
  | cons entry declared ih =>
    obtain ⟨hentry, hdeclared⟩ := List.forall_mem_cons.mp h
    have hproperty := hentry _ (Json.sizeOf_get? object entry.1)
    exact (hproperty.mapFault _).bind fun _ _ => (ih hdeclared).mapValue _

theorem ends_record {declared : Entries (Check Unit)}
    (h : ∀ entry ∈ declared, EndsBelow entry.2 input) : (record declared input).Ends := by
  unfold record
  split
  · exact (ends_fields h).mapValue _
  · exact Run.ends_ofOutcome _

theorem ends_closedRecord {declared : Entries (Check Unit)}
    (h : ∀ entry ∈ declared, EndsBelow entry.2 input) : (closedRecord declared input).Ends := by
  unfold closedRecord
  split
  · refine (ends_fields h).bind fun _ _ => ?_
    split <;> exact Run.ends_ofOutcome _
  · exact Run.ends_ofOutcome _

theorem ends_optional (h : (check input).Ends) : (optional check input).Ends := by
  unfold optional
  split
  · exact Run.ends_ofOutcome _
  · exact h.mapValue _

theorem ends_firstOf {branches : List (Check Unit)}
    (h : ∀ branch ∈ branches, (branch input).Ends) : (firstOf branches input).Ends := by
  suffices halternatives : ∀ entries, (alternatives input entries branches).Ends from
    halternatives []
  induction branches with
  | nil => exact fun _ => Run.ends_ofOutcome _
  | cons branch branches ih =>
    obtain ⟨hbranch, hbranches⟩ := List.forall_mem_cons.mp h
    intro entries
    refine hbranch.settle ?_
    rintro (fault | output) _
    · exact ih hbranches _
    · exact Run.ends_ofOutcome _

theorem ends_intersection {members : List (Check Unit)}
    (h : ∀ member ∈ members, (member input).Ends) : (intersection members input).Ends := by
  have hparts : ∀ merged, (parts input merged members).Ends := by
    induction members with
    | nil => exact fun _ => Run.ends_ofOutcome _
    | cons member members ih =>
      obtain ⟨hmember, hmembers⟩ := List.forall_mem_cons.mp h
      exact fun merged => hmember.bind fun _ _ => ih hmembers _
  exact (hparts []).mapValue _

theorem ends_fallback (default : Output) (h : (check input).Ends) :
    (fallback default check input).Ends := h.settle fun _ _ => Run.ends_ofOutcome _

/-- A path without steps stays at the input; every other one leads further down. -/
theorem ends_follow (path : Path) (h : check.EndsBelow input)
    (hroot : path.isRoot → (check input).Ends) : (follow path check input).Ends := by
  unfold follow
  cases hwalk : walk Path.root path.segments input with
  | error fault => exact Run.ends_ofOutcome _
  | ok found =>
    refine Run.Ends.mapFault _ ?_
    cases hsegments : path.segments with
    | nil =>
      rw [hsegments] at hwalk
      cases hwalk
      exact hroot (by simp [Path.isRoot, hsegments])
    | cons segment rest =>
      rw [hsegments] at hwalk
      exact h found (sizeOf_walk hwalk)

theorem ends_ensure (accepts : Output → Bool) (reason : Reason) (h : (check input).Ends) :
    (ensure accepts reason check input).Ends := by
  refine h.bind fun output _ => ?_
  split <;> exact Run.ends_ofOutcome _

theorem ends_firstCase {otherwise : Check Unit} {cases : List ((Output → Bool) × Check Unit)}
    (output : Output) (hotherwise : (otherwise input).Ends)
    (h : ∀ entry ∈ cases, (entry.2 input).Ends) :
    (firstCase output otherwise cases input).Ends := by
  induction cases with
  | nil => exact hotherwise
  | cons entry cases ih =>
    obtain ⟨hentry, hcases⟩ := List.forall_mem_cons.mp h
    rw [firstCase]
    split
    · exact hentry
    · exact ih hcases

end Check

namespace Validator

section Exposed

variable (body : String → Validator)

/-- An expression refers to a definition at a place where it is checked with the same
value as the expression itself. -/
inductive Exposed (definition : String) : Validator → Prop
  | rebuilt : Exposed definition (rebuilt definition)
  | remembered : Exposed definition (remembered definition)
  | present {inner : Validator} : Exposed definition inner → Exposed definition (optional inner)
  | branch {branch : Validator} {branches : List Validator} :
      branch ∈ branches → Exposed definition branch → Exposed definition (firstOf branches)
  | conjunct {part : Validator} {parts : List Validator} :
      part ∈ parts → Exposed definition part → Exposed definition (intersection parts)
  | tried {default : Output} {inner : Validator} :
      Exposed definition inner → Exposed definition (fallback default inner)
  /-- A path without steps leads to the value itself. -/
  | found {path : Path} {inner : Validator} :
      path.isRoot → Exposed definition inner → Exposed definition (follow path inner)
  | changed {change : Output → Output} {inner : Validator} :
      Exposed definition inner → Exposed definition (map change inner)
  | restricted {accepts : Output → Bool} {reason : Reason} {inner : Validator} :
      Exposed definition inner → Exposed definition (ensure accepts reason inner)
  | selector {inner otherwise : Validator} {cases : List ((Output → Bool) × Validator)} :
      Exposed definition inner → Exposed definition (select inner cases otherwise)
  | case {inner otherwise : Validator} {cases : List ((Output → Bool) × Validator)}
      {entry : (Output → Bool) × Validator} :
      entry ∈ cases → Exposed definition entry.2 →
        Exposed definition (select inner cases otherwise)
  | otherwise {inner otherwise : Validator} {cases : List ((Output → Bool) × Validator)} :
      Exposed definition otherwise → Exposed definition (select inner cases otherwise)
  | continued {inner : Validator} {next : Output → Validator} :
      Exposed definition inner → Exposed definition (continueWith inner next)
  /-- Only continuations after an output that can be produced count. -/
  | continuation {inner : Validator} {next : Output → Validator} {output : Output}
      {stages : Nat} {input : Option Json} :
      inner.outcome? body stages input = some (.ok output) → Exposed definition (next output) →
        Exposed definition (continueWith inner next)
  | inUse {base : Nat} {inner : Validator} :
      Exposed definition inner → Exposed definition (shared base inner)

/-- Every reference stands below a place where a smaller value is checked. -/
def Guarded (validator : Validator) : Prop :=
  ∀ definition, ¬ Exposed body definition validator

/-- An expression ends on a value if all expressions end on smaller values, and if the
definitions that it exposes end on the value itself. -/
theorem ends_of_exposed {input : Option Json}
    (hbelow : ∀ validator : Validator, (validator.meaning body).EndsBelow input)
    (validator : Validator)
    (hexposed : ∀ definition, Exposed body definition validator →
      ((body definition).meaning body input).Ends) : (validator.meaning body input).Ends := by
  have hplaceless := Construction.unbounded_placeless body
  have hrow : ∀ {entries : List (String × Validator)},
      ∀ entry ∈ (entries.map fun entry => (entry.1, entry.2.meaning body)),
        entry.2.EndsBelow input := by
    intro entries entry hentry
    obtain ⟨declaration, _, rfl⟩ := List.mem_map.mp hentry
    exact hbelow declaration.2
  induction validator with
  | string => exact Check.string_immediate.ends input
  | number => exact Check.number_immediate.ends input
  | boolean => exact Check.boolean_immediate.ends input
  | undefined => exact Check.undefined_immediate.ends input
  | anything => exact Check.anything_immediate.ends input
  | array => exact Check.array_immediate.ends input
  | object => exact Check.object_immediate.ends input
  | constant literal accepts => exact (Check.constant_immediate literal accepts).ends input
  | always output => exact (Check.always_immediate output).ends input
  | never message => exact (Check.never_immediate message).ends input
  | record declarations =>
    rw [meaning, hplaceless.interpret_record]
    exact Check.ends_record hrow
  | closedRecord declarations =>
    rw [meaning, hplaceless.interpret_closedRecord]
    exact Check.ends_closedRecord hrow
  | dictionary value => exact Check.ends_dictionary (hbelow value)
  | list element => exact Check.ends_list (hbelow element)
  | tuple elements =>
    rw [meaning, hplaceless.interpret_tuple]
    refine Check.ends_tuple fun element helement => ?_
    obtain ⟨element, _, rfl⟩ := List.mem_map.mp helement
    exact hbelow element
  | optional inner ih =>
    exact Check.ends_optional (ih fun definition h => hexposed definition (.present h))
  | firstOf branches ih =>
    rw [meaning, hplaceless.interpret_firstOf]
    refine Check.ends_firstOf fun branch hbranch => ?_
    obtain ⟨branch, hmem, rfl⟩ := List.mem_map.mp hbranch
    exact ih branch hmem fun definition h => hexposed definition (.branch hmem h)
  | intersection parts ih =>
    rw [meaning, hplaceless.interpret_intersection]
    refine Check.ends_intersection fun part hpart => ?_
    obtain ⟨part, hmem, rfl⟩ := List.mem_map.mp hpart
    exact ih part hmem fun definition h => hexposed definition (.conjunct hmem h)
  | fallback default inner ih =>
    exact Check.ends_fallback default (ih fun definition h => hexposed definition (.tried h))
  | follow path inner ih =>
    refine Check.ends_follow path (hbelow inner) fun hroot => ?_
    exact ih fun definition h => hexposed definition (.found hroot h)
  | map change inner ih =>
    exact (ih fun definition h => hexposed definition (.changed h)).mapValue change
  | ensure accepts reason inner ih =>
    exact Check.ends_ensure accepts reason
      (ih fun definition h => hexposed definition (.restricted h))
  | select inner cases otherwise ihinner ihcases ihotherwise =>
    rw [meaning, hplaceless.interpret_select]
    refine Run.Ends.bind (ihinner fun definition h => hexposed definition (.selector h))
      fun output _ => ?_
    refine Check.ends_firstCase output
      (ihotherwise fun definition h => hexposed definition (.otherwise h)) fun entry hentry => ?_
    obtain ⟨entry, hmem, rfl⟩ := List.mem_map.mp hentry
    exact ihcases entry hmem fun definition h => hexposed definition (.case hmem h)
  | continueWith inner next ihinner ihnext =>
    rw [meaning, hplaceless.interpret_continueWith]
    refine Run.Ends.bind (ihinner fun definition h => hexposed definition (.continued h))
      fun output houtput => ?_
    -- The inner expression has produced the output, so its continuation counts.
    have hmeaning := meaning_eq body inner input
    rw [meaning, houtput] at hmeaning
    obtain ⟨_, hresult, heq⟩ := Option.map_eq_some_iff.mp hmeaning.symm
    obtain rfl : _ = Except.ok output := congrArg Prod.fst heq
    obtain ⟨stages, hstages⟩ := (result?_eq_some_iff body).mp hresult
    exact ihnext output fun definition h => hexposed definition (.continuation hstages h)
  | rebuilt definition =>
    rw [meaning_rebuilt]
    exact hexposed definition .rebuilt
  | remembered definition =>
    rw [meaning_remembered]
    exact hexposed definition .remembered
  | shared base inner ih =>
    rw [meaning, hplaceless.interpret_shared]
    exact ih fun definition h => hexposed definition (.inUse h)

/-- If all definitions are guarded, every expression ends on every value. A smaller
value comes first, then the definitions, and then the expression. -/
theorem ends_of_guarded (hguarded : ∀ definition, (body definition).Guarded body)
    (validator : Validator) (input : Option Json) : (validator.meaning body input).Ends := by
  have hbelow : ∀ validator : Validator, (validator.meaning body).EndsBelow input :=
    fun validator found _ => ends_of_guarded hguarded validator found
  refine ends_of_exposed body hbelow validator fun definition _ => ?_
  exact ends_of_exposed body hbelow (body definition)
    fun definition' hexposed => absurd hexposed (hguarded definition definition')
termination_by sizeOf input

end Exposed

end Validator

namespace Scenario

/-- If all definitions are guarded, every check ends, whatever has been checked before,
and references need not be followed deeper than some number of stages for it. -/
theorem check_ends_of_guarded {scenario : Scenario}
    (hguarded : ∀ definition, (scenario.body definition).Guarded scenario.body)
    {memory : Memory} (h : scenario.Reached memory) (number : Nat) (input : Option Json) :
    ∃ stages outcome memory', ∀ more, stages ≤ more →
      scenario.check more number input memory = some (outcome, memory') := by
  obtain ⟨outcome, hmeaning⟩ := Validator.ends_of_guarded scenario.body hguarded
    (scenario.live number).validator input
  have hresult := (Validator.meaning_eq_some_iff scenario.body).mp hmeaning
  obtain ⟨last, stages, hchecks⟩ := h.consistent.check_of_result hresult
  exact ⟨stages, _, last, hchecks⟩

/-- Trees with strings as leaves, by a definition that remembers itself. -/
def trees : Scenario :=
  ⟨fun _ => .firstOf [.string, .list (.remembered "tree")], [.remembered "tree"]⟩

theorem check_trees_ends : ∃ stages outcome memory', ∀ more, stages ≤ more →
    trees.check more 0 (some (.array [.string "a", .array [.null], .array []])) trees.memory =
      some (outcome, memory') := by
  have hguarded : ∀ definition, (trees.body definition).Guarded trees.body := by
    intro definition definition' hexposed
    change Validator.Exposed _ _ (.firstOf [.string, .list (.remembered "tree")]) at hexposed
    cases hexposed with
    | branch hmem hbranch =>
      rcases List.mem_cons.mp hmem with rfl | hmem
      · cases hbranch
      · obtain rfl := List.mem_singleton.mp hmem
        cases hbranch
  exact check_ends_of_guarded hguarded .start 0 _

end Scenario

end JsonValidators
