import JsonValidators.Proofs.Declarations
import JsonValidators.Session

/-!
The run that decides. Containers, fields and intersections are traversed up to the first run that
fails, alternatives up to the first that passes. No run is made after it, so neither what a check
says nor what it leaves behind depends on what would come next.
-/

namespace JsonValidators

/-- The validators in front have the checks that they have without those behind them. -/
theorem Validator.take_interpretList {σ : Type} (make : Construction σ)
    (validators : List Validator) (base count : Nat) :
    (interpretList make validators base).take count =
      interpretList make (validators.take count) base := by
  induction validators generalizing base count with
  | nil => simp [interpretList]
  | cons validator validators ih =>
    cases count with
    | zero => rfl
    | succ count => simp only [interpretList, List.take_succ_cons, ih]

theorem Validator.length_interpretList {σ : Type} (make : Construction σ)
    (validators : List Validator) (base : Nat) :
    (interpretList make validators base).length = validators.length := by
  induction validators generalizing base with
  | nil => rfl
  | cons validator validators ih => simp only [interpretList, List.length_cons, ih]

namespace Run

variable {σ α β δ ι : Type} {state last : σ} {fault : Fault} {place : Nat} {decision : δ}
  {decision? : Outcome Fault α → Option δ} {run : Run σ α} {runs runs' : List (Run σ α)}

/-- Of runs that are made in order, the one at a place is the first whose outcome settles the
matter. It is made from the state that the runs before it lead to. -/
inductive DecidedAt (decision? : Outcome Fault α → Option δ) :
    List (Run σ α) → σ → Nat → δ → σ → Prop
  | here {run : Run σ α} {runs : List (Run σ α)} {state last : σ} {outcome : Outcome Fault α}
      {decision : δ} :
      run state = some (outcome, last) → decision? outcome = some decision →
        DecidedAt decision? (run :: runs) state 0 decision last
  | later {run : Run σ α} {runs : List (Run σ α)} {state next last : σ}
      {outcome : Outcome Fault α} {place : Nat} {decision : δ} :
      run state = some (outcome, next) → decision? outcome = none →
        DecidedAt decision? runs next place decision last →
          DecidedAt decision? (run :: runs) state (place + 1) decision last

theorem not_decidedAt_nil : ¬ DecidedAt decision? [] state place decision last := nofun

theorem exists_decidedAt_cons :
    (∃ place, DecidedAt decision? (run :: runs) state place decision last) ↔
      ∃ outcome next, run state = some (outcome, next) ∧
        (decision? outcome = some decision ∧ next = last ∨
          decision? outcome = none ∧ ∃ place, DecidedAt decision? runs next place decision last) := by
  constructor
  · rintro ⟨place, hdecided⟩
    cases hdecided with
    | here hrun hdecision => exact ⟨_, _, hrun, .inl ⟨hdecision, rfl⟩⟩
    | later hrun hdecision hrest => exact ⟨_, _, hrun, .inr ⟨hdecision, _, hrest⟩⟩
  · rintro ⟨outcome, next, hrun, ⟨hdecision, rfl⟩ | ⟨hdecision, place, hrest⟩⟩
    · exact ⟨0, .here hrun hdecision⟩
    · exact ⟨place + 1, .later hrun hdecision hrest⟩

theorem DecidedAt.lt_length (h : DecidedAt decision? runs state place decision last) :
    place < runs.length := by
  induction h with
  | here _ _ => exact Nat.succ_pos _
  | later _ _ _ ih => exact Nat.succ_lt_succ ih

/-- The runs behind the one that decides may be any others. -/
theorem DecidedAt.of_take (h : DecidedAt decision? runs state place decision last)
    (hruns : runs'.take (place + 1) = runs.take (place + 1)) :
    DecidedAt decision? runs' state place decision last := by
  induction h generalizing runs' with
  | here hrun hdecision =>
    cases runs' with
    | nil => cases hruns
    | cons first runs' =>
      obtain ⟨rfl, _⟩ := List.cons.inj hruns
      exact .here hrun hdecision
  | later hrun hdecision _ ih =>
    cases runs' with
    | nil => cases hruns
    | cons first runs' =>
      obtain ⟨rfl, hrest⟩ := List.cons.inj hruns
      exact .later hrun hdecision (ih hrest)

theorem DecidedAt.map_of_take {run : ι → Run σ α} {items items' : List ι}
    (h : DecidedAt decision? (items.map run) state place decision last)
    (hitems : items'.take (place + 1) = items.take (place + 1)) :
    DecidedAt decision? (items'.map run) state place decision last := by
  refine h.of_take ?_
  rw [← List.map_take, ← List.map_take, hitems]

theorem mapValue_eq_error_iff {change : α → β} :
    run.mapValue change state = some (.error fault, last) ↔
      run state = some (.error fault, last) := by
  unfold mapValue settle
  rcases run state with - | ⟨other | value, next⟩ <;> simp [ofOutcome, Outcome.map]

/-- Runs that are made in order fail exactly if one of them is the first to fail. -/
theorem all_eq_error_iff : all runs state = some (.error fault, last) ↔
    ∃ place, DecidedAt Outcome.error? runs state place fault last := by
  induction runs generalizing state with
  | nil =>
    refine iff_of_false (by simp [all, ofValue, ofOutcome]) ?_
    rintro ⟨place, hdecided⟩
    exact not_decidedAt_nil hdecided
  | cons run runs ih =>
    rw [all, bind, settle, exists_decidedAt_cons]
    rcases run state with - | ⟨other | value, next⟩
    · simp
    · simp [ofFault, ofOutcome, Outcome.error?]
    · simpa [Outcome.error?] using mapValue_eq_error_iff.trans ih

theorem decidedAt_error_zero : DecidedAt Outcome.error? (run :: runs) state 0 fault last ↔
    run state = some (.error fault, last) := by
  constructor
  · intro hdecided
    cases hdecided with
    | @here _ _ _ _ outcome _ hrun hfault =>
      cases outcome with
      | ok value => cases hfault
      | error other =>
        cases hfault
        exact hrun
  · exact fun hrun => .here hrun rfl

theorem decidedAt_error_succ :
    DecidedAt Outcome.error? (run :: runs) state (place + 1) fault last ↔
      ∃ value next, run state = some (.ok value, next) ∧
        DecidedAt Outcome.error? runs next place fault last := by
  constructor
  · intro hdecided
    cases hdecided with
    | @later _ _ _ next _ outcome _ _ hrun hpasses hrest =>
      cases outcome with
      | ok value => exact ⟨value, next, hrun, hrest⟩
      | error other => cases hpasses
  · rintro ⟨value, next, hrun, hrest⟩
    exact .later hrun rfl hrest

/-- A run that passes where another does, and fails where it does with a label on the fault. -/
structure EndsLike (label : Fault → Fault) (raw : Run σ α) (run : Run σ β) : Prop where
  error_iff : ∀ state fault last, run state = some (.error fault, last) ↔
    ∃ inner, raw state = some (.error inner, last) ∧ label inner = fault
  ok_iff : ∀ state last, (∃ value, run state = some (.ok value, last)) ↔
    ∃ value, raw state = some (.ok value, last)

theorem endsLike_mapFault (run : Run σ α) (label : Fault → Fault) :
    EndsLike label run (run.mapFault label) := by
  constructor
  · intro state fault last
    unfold mapFault settle
    rcases run state with - | ⟨inner | value, next⟩ <;> simp [ofOutcome, Outcome.mapError, and_comm]
  · intro state last
    unfold mapFault settle
    rcases run state with - | ⟨inner | value, next⟩ <;> simp [ofOutcome, Outcome.mapError]

theorem EndsLike.mapValue {γ : Type} {label : Fault → Fault} {raw : Run σ α} {run : Run σ β}
    (h : EndsLike label raw run) (change : β → γ) : EndsLike label raw (run.mapValue change) := by
  constructor
  · exact fun state fault last => mapValue_eq_error_iff.trans (h.error_iff state fault last)
  · intro state last
    refine Iff.trans ?_ (h.ok_iff state last)
    unfold Run.mapValue settle
    rcases run state with - | ⟨inner | value, next⟩ <;> simp [ofOutcome, Outcome.map]

section Labelled

variable {label : ι → Fault → Fault} {raw : ι → Run σ α} {run : ι → Run σ β} {items : List ι}

/-- Labels do not change which run is the first to fail. -/
theorem decidedAt_labelled_iff (hlike : ∀ item, EndsLike (label item) (raw item) (run item)) :
    DecidedAt Outcome.error? (items.map run) state place fault last ↔
      ∃ item inner, items[place]? = some item ∧
        DecidedAt Outcome.error? (items.map raw) state place inner last ∧
          label item inner = fault := by
  -- On the items up to the place: those before it pass and leave the same states.
  induction items generalizing state place with
  | nil =>
    refine iff_of_false not_decidedAt_nil ?_
    rintro ⟨_, _, hitem, _⟩
    cases hitem
  | cons first items ih =>
    rw [List.map_cons, List.map_cons]
    cases place with
    | zero =>
      rw [decidedAt_error_zero, (hlike first).error_iff]
      simp only [decidedAt_error_zero, List.getElem?_cons_zero, Option.some.injEq,
        exists_and_left, exists_eq_left']
    | succ place =>
      simp only [decidedAt_error_succ, List.getElem?_cons_succ]
      constructor
      · rintro ⟨value, next, hrun, hrest⟩
        obtain ⟨value', hraw⟩ := ((hlike first).ok_iff state next).mp ⟨value, hrun⟩
        obtain ⟨item, inner, hitem, hdecided, hfault⟩ := ih.mp hrest
        exact ⟨item, inner, hitem, ⟨value', next, hraw, hdecided⟩, hfault⟩
      · rintro ⟨item, inner, hitem, ⟨value, next, hraw, hdecided⟩, hfault⟩
        obtain ⟨value', hrun⟩ := ((hlike first).ok_iff state next).mpr ⟨value, hraw⟩
        exact ⟨value', next, hrun, ih.mpr ⟨item, inner, hitem, hdecided, hfault⟩⟩

theorem all_labelled_eq_error_iff
    (hlike : ∀ item, EndsLike (label item) (raw item) (run item)) :
    all (items.map run) state = some (.error fault, last) ↔
      ∃ place item inner, items[place]? = some item ∧
        DecidedAt Outcome.error? (items.map raw) state place inner last ∧
          label item inner = fault :=
  all_eq_error_iff.trans (exists_congr fun _ => decidedAt_labelled_iff hlike)

/-- Of numbered runs, the fault tells the number of the one that fails. -/
theorem all_indexed_eq_error_iff (raw : ι → Run σ α) :
    all ((items.zipIdx 0).map fun item => (raw item.1).mapFault (Fault.underIndex item.2)) state =
        some (.error fault, last) ↔
      ∃ place inner, DecidedAt Outcome.error? (items.map raw) state place inner last ∧
        inner.underIndex place = fault := by
  have hraw : (items.zipIdx 0).map (fun item => raw item.1) = items.map raw := by
    conv_rhs => rw [← List.zipIdx_map_fst 0 items, List.map_map]
    rfl
  have hlike : ∀ item : ι × Nat, EndsLike (Fault.underIndex item.2) (raw item.1)
      ((raw item.1).mapFault (Fault.underIndex item.2)) := fun item => endsLike_mapFault _ _
  refine (all_labelled_eq_error_iff hlike).trans (exists_congr fun place => ?_)
  rw [hraw]
  simp only [List.getElem?_zipIdx, Nat.zero_add]
  constructor
  · rintro ⟨item, inner, hitem, hdecided, hfault⟩
    obtain ⟨value, _, rfl⟩ := Option.map_eq_some_iff.mp hitem
    exact ⟨inner, hdecided, hfault⟩
  · rintro ⟨inner, hdecided, hfault⟩
    have hlength := hdecided.lt_length
    rw [List.length_map] at hlength
    refine ⟨(items[place], place), inner, ?_, hdecided, hfault⟩
    rw [List.getElem?_eq_getElem hlength]
    rfl

end Labelled

end Run

namespace Check

open Run

variable {σ : Type} {state last : σ} {fault : Fault} {output : Output} {place : Nat}

theorem list_eq_error_iff {element : Check σ} {values : List Json} :
    list element (some (.array values)) state = some (.error fault, last) ↔
      ∃ place inner, DecidedAt Outcome.error? (values.map fun value => element (some value)) state
        place inner last ∧ inner.underIndex place = fault := by
  rw [list, mapValue_eq_error_iff, items_eq_all]
  exact all_indexed_eq_error_iff fun value => element (some value)

/-- The items behind the first that fails do not matter. -/
theorem list_fails_again {element : Check σ} {values values' : List Json}
    (h : DecidedAt Outcome.error? (values.map fun value => element (some value)) state place fault
      last) (hvalues : values'.take (place + 1) = values.take (place + 1)) :
    list element (some (.array values')) state = some (.error (fault.underIndex place), last) :=
  list_eq_error_iff.mpr ⟨place, fault, h.map_of_take hvalues, rfl⟩

/-- In a tuple, the length is looked at before the items. -/
theorem tuple_eq_error_iff {elements : List (Check σ)} {values : List Json}
    (hlength : values.length = elements.length) :
    tuple elements (some (.array values)) state = some (.error fault, last) ↔
      ∃ place inner, DecidedAt Outcome.error?
        ((elements.zip values).map fun item => item.1 (some item.2)) state place inner last ∧
          inner.underIndex place = fault := by
  rw [tuple, if_pos hlength, mapValue_eq_error_iff, positions_eq_all]
  exact all_indexed_eq_error_iff fun item : Check σ × Json => item.1 (some item.2)

theorem tuple_of_length_ne {elements : List (Check σ)} {values : List Json}
    (hlength : values.length ≠ elements.length) (state : σ) :
    tuple elements (some (.array values)) state =
      some (.error (Fault.here (.tupleLength elements.length values.length)), state) :=
  congrFun (if_neg hlength) state

theorem tuple_fails_again {elements : List (Check σ)} {values values' : List Json}
    (h : DecidedAt Outcome.error? ((elements.zip values).map fun item => item.1 (some item.2)) state
      place fault last) (hlength : values'.length = elements.length)
    (hvalues : values'.take (place + 1) = values.take (place + 1)) :
    tuple elements (some (.array values')) state =
      some (.error (fault.underIndex place), last) := by
  have hzip : (elements.zip values').take (place + 1) = (elements.zip values).take (place + 1) := by
    rw [List.zip_eq_zipWith, List.zip_eq_zipWith, List.take_zipWith, List.take_zipWith, hvalues]
  exact (tuple_eq_error_iff hlength).mpr ⟨place, fault, h.map_of_take hzip, rfl⟩

theorem dictionary_eq_error_iff {check : Check σ} {object : Entries Json} :
    dictionary check (some (.object object)) state = some (.error fault, last) ↔
      ∃ place entry inner, object[place]? = some entry ∧
        DecidedAt Outcome.error? (object.map fun entry => check (some entry.2)) state place inner
          last ∧ inner.underField entry.1 = fault := by
  rw [dictionary, mapValue_eq_error_iff, values_eq_all]
  exact all_labelled_eq_error_iff fun entry : String × Json =>
    (endsLike_mapFault (check (some entry.2)) (Fault.underField entry.1)).mapValue _

/-- The entries behind the first that fails do not matter. -/
theorem dictionary_fails_again {check : Check σ} {object : Entries Json}
    (h : DecidedAt Outcome.error? (object.map fun entry => check (some entry.2)) state place fault
      last) :
    ∃ key, (Entries.keys object)[place]? = some key ∧
      ∀ object', object'.take (place + 1) = object.take (place + 1) →
        dictionary check (some (.object object')) state =
          some (.error (fault.underField key), last) := by
  have hlength : place < object.length := List.length_map _ ▸ h.lt_length
  have hentry : object[place]? = some object[place] := List.getElem?_eq_getElem hlength
  refine ⟨object[place].1, ?_, fun object' hobject => ?_⟩
  · rw [Entries.keys, List.getElem?_map, hentry]
    rfl
  · have hentry' : object'[place]? = some object[place] := by
      rw [← List.getElem?_take_of_succ, hobject, List.getElem?_take_of_succ, hentry]
    exact dictionary_eq_error_iff.mpr ⟨place, _, fault, hentry', h.map_of_take hobject, rfl⟩

theorem record_eq_error_iff {declared : Entries (Check σ)} {object : Entries Json} :
    record declared (some (.object object)) state = some (.error fault, last) ↔
      ∃ place field inner, declared[place]? = some field ∧
        DecidedAt Outcome.error?
          (declared.map fun field => field.2 (Entries.get? object field.1)) state place inner last ∧
            fieldFault field.1 (Entries.get? object field.1) inner = fault := by
  rw [record, mapValue_eq_error_iff, fields_eq_outputs, mapValue_eq_error_iff, fieldOutputs]
  exact all_labelled_eq_error_iff fun field : String × Check σ =>
    (endsLike_mapFault (field.2 (Entries.get? object field.1)) _).mapValue _

/-- The properties of the fields behind the first that fails do not matter. -/
theorem record_fails_again {declared : Entries (Check σ)} {object : Entries Json}
    (h : DecidedAt Outcome.error?
      (declared.map fun field => field.2 (Entries.get? object field.1)) state place fault last) :
    ∃ name, (Entries.keys declared)[place]? = some name ∧
      ∀ object', (∀ other ∈ (Entries.keys declared).take (place + 1),
          Entries.get? object' other = Entries.get? object other) →
        record declared (some (.object object')) state =
          some (.error (fieldFault name (Entries.get? object name) fault), last) := by
  have hlength : place < declared.length := List.length_map _ ▸ h.lt_length
  have hfield : declared[place]? = some declared[place] := List.getElem?_eq_getElem hlength
  refine ⟨declared[place].1, ?_, fun object' hobject => ?_⟩
  · rw [Entries.keys, List.getElem?_map, hfield]
    rfl
  · have hshared : ∀ field ∈ declared.take (place + 1),
        Entries.get? object' field.1 = Entries.get? object field.1 := by
      intro field hmem
      refine hobject field.1 ?_
      rw [Entries.keys, ← List.map_take]
      exact List.mem_map_of_mem hmem
    -- The label looks at the property of the field that fails, which is one of those that agree.
    have hown : declared[place] ∈ declared.take (place + 1) :=
      List.mem_take_iff_getElem.mpr ⟨place, by omega, rfl⟩
    refine record_eq_error_iff.mpr ⟨place, _, fault, hfield, h.of_take ?_, ?_⟩
    · rw [← List.map_take, ← List.map_take]
      exact List.map_congr_left fun field hmem => congrArg field.2 (hshared field hmem)
    · rw [hshared _ hown]

theorem intersection_eq_error_iff {checks : List (Check σ)} {input : Option Json} :
    intersection checks input state = some (.error fault, last) ↔
      ∃ place, DecidedAt Outcome.error? (checks.map fun check => check input) state place fault
        last := by
  rw [intersection, parts_eq_all, mapValue_mapValue, mapValue_eq_error_iff]
  exact all_eq_error_iff

theorem alternatives_eq_ok_iff {input : Option Json} {entries : List String}
    {branches : List (Check σ)} :
    alternatives input entries branches state = some (.ok output, last) ↔
      ∃ place, DecidedAt Outcome.value? (branches.map fun branch => branch input) state place
        output last := by
  induction branches generalizing entries state with
  | nil =>
    refine iff_of_false (by simp [alternatives, ofReason, ofFault, ofOutcome]) ?_
    rintro ⟨place, hdecided⟩
    exact not_decidedAt_nil hdecided
  | cons branch branches ih =>
    rw [alternatives, settle, List.map_cons, exists_decidedAt_cons]
    rcases branch input state with - | ⟨other | value, next⟩
    · simp
    · simpa [Outcome.value?] using ih
    · simp [ofValue, ofOutcome, Outcome.value?]

theorem firstOf_eq_ok_iff {branches : List (Check σ)} {input : Option Json} :
    firstOf branches input state = some (.ok output, last) ↔
      ∃ place, DecidedAt Outcome.value? (branches.map fun branch => branch input) state place
        output last := alternatives_eq_ok_iff

end Check

namespace Live

variable {library : Library} {live : Live} {input : Option Json} {memory last : Memory}
  {fault : Fault} {failure : Failure} {output : Output}

theorem check_of_fault (h : live.interpret (.remembering library.body library.stages) input
      memory = some (.error fault, last)) :
    live.check library input memory = some (.error (fault.toFailure input), last) := by
  rw [check, h]
  rfl

theorem fault_of_check (h : live.check library input memory = some (.error failure, last)) :
    ∃ fault, live.interpret (.remembering library.body library.stages) input memory =
      some (.error fault, last) := by
  obtain ⟨⟨other | value, next⟩, hrun, hending⟩ := Option.map_eq_some_iff.mp h
  · cases hending
    exact ⟨other, hrun⟩
  · cases hending

theorem check_eq_ok_iff :
    live.check library input memory = some (.ok output, last) ↔
      live.interpret (.remembering library.body library.stages) input memory =
        some (.ok output, last) := by
  rw [check, Option.map_eq_some_iff]
  constructor
  · rintro ⟨⟨other | value, next⟩, hrun, hending⟩
    · cases hending
    · cases hending
      exact hrun
  · exact fun hrun => ⟨_, hrun, rfl⟩

open Run in
/-- Nothing behind the run that decides has a part in the answer or in what is left in the memory,
whatever the memory was. Lists, tuples, dictionaries and records fail exactly if there is a first
item, entry or field that fails, and then they fail with one path and message, and leave one
memory behind, on all inputs that agree with theirs so far. An intersection fails with the first
part that fails, whatever parts come next, and alternatives pass with the first branch that
passes, whatever branches come next. -/
theorem check_stops_at_decision (library : Library) (base : Nat) (memory : Memory) :
    let make := Construction.remembering library.body library.stages
    let check := fun validator input => (Live.mk validator base).check library input memory
    let failsWith := fun validator input (fault : Fault) last =>
      check validator input = some (.error (fault.toFailure input), last)
    (∀ element values,
      let runs := values.map fun value => element.interpret make base (some value)
      (∀ failure last,
        check (.list element) (some (.array values)) = some (.error failure, last) →
          ∃ place fault, DecidedAt Outcome.error? runs memory place fault last) ∧
      ∀ place fault last, DecidedAt Outcome.error? runs memory place fault last →
        ∀ values', values'.take (place + 1) = values.take (place + 1) →
          failsWith (.list element) (some (.array values')) (fault.underIndex place) last) ∧
    (∀ elements values,
      let runs := ((Validator.interpretList make elements base).zip values).map fun item =>
        item.1 (some item.2)
      (values.length ≠ elements.length → failsWith (.tuple elements) (some (.array values))
        (Fault.here (.tupleLength elements.length values.length)) memory) ∧
      (values.length = elements.length → ∀ failure last,
        check (.tuple elements) (some (.array values)) = some (.error failure, last) →
          ∃ place fault, DecidedAt Outcome.error? runs memory place fault last) ∧
      ∀ place fault last, DecidedAt Outcome.error? runs memory place fault last →
        values.length = elements.length → ∀ values', values'.length = values.length →
          values'.take (place + 1) = values.take (place + 1) →
            failsWith (.tuple elements) (some (.array values')) (fault.underIndex place) last) ∧
    (∀ value object,
      let runs := object.map fun entry => value.interpret make base (some entry.2)
      (∀ failure last,
        check (.dictionary value) (some (.object object)) = some (.error failure, last) →
          ∃ place fault, DecidedAt Outcome.error? runs memory place fault last) ∧
      ∀ place fault last, DecidedAt Outcome.error? runs memory place fault last →
        ∃ key, (Entries.keys object)[place]? = some key ∧
          ∀ object', object'.take (place + 1) = object.take (place + 1) →
            failsWith (.dictionary value) (some (.object object')) (fault.underField key) last) ∧
    (∀ declarations object,
      let names := (Fields.names declarations).eraseDups
      let runs := (Entries.ofList (Validator.interpretFields make declarations base)).map
        fun field => field.2 (Entries.get? object field.1)
      (∀ failure last,
        check (.record declarations) (some (.object object)) = some (.error failure, last) →
          ∃ place fault, DecidedAt Outcome.error? runs memory place fault last) ∧
      ∀ place fault last, DecidedAt Outcome.error? runs memory place fault last →
        ∃ name, names[place]? = some name ∧
          ∀ object', (∀ other ∈ names.take (place + 1),
              Entries.get? object' other = Entries.get? object other) →
            failsWith (.record declarations) (some (.object object'))
              (Check.fieldFault name (Entries.get? object name) fault) last) ∧
    (∀ parts input,
      let runs := (Validator.interpretList make parts base).map fun part => part input
      (∀ failure last, check (.intersection parts) input = some (.error failure, last) →
        ∃ place fault, DecidedAt Outcome.error? runs memory place fault last) ∧
      ∀ place fault last, DecidedAt Outcome.error? runs memory place fault last →
        ∀ parts', parts'.take (place + 1) = parts.take (place + 1) →
          failsWith (.intersection parts') input fault last) ∧
    ∀ branches input,
      let runs := (Validator.interpretList make branches base).map fun branch => branch input
      (∀ output last, check (.firstOf branches) input = some (.ok output, last) →
        ∃ place, DecidedAt Outcome.value? runs memory place output last) ∧
      ∀ place output last, DecidedAt Outcome.value? runs memory place output last →
        ∀ branches', branches'.take (place + 1) = branches.take (place + 1) →
          check (.firstOf branches') input = some (.ok output, last) := by
  intro make check failsWith
  refine ⟨?_, ?_, ?_, ?_, ?_, ?_⟩
  · intro element values runs
    refine ⟨fun failure last h => ?_, fun place fault last hdecided values' hvalues =>
      check_of_fault (Check.list_fails_again hdecided hvalues)⟩
    obtain ⟨_, hrun⟩ := fault_of_check h
    obtain ⟨place, fault, hdecided, _⟩ := Check.list_eq_error_iff.mp hrun
    exact ⟨place, fault, hdecided⟩
  · intro elements values runs
    have hchecks : (Validator.interpretList make elements base).length = elements.length :=
      Validator.length_interpretList make elements base
    refine ⟨fun hlength => ?_, fun hlength failure last h => ?_,
      fun place fault last hdecided hlength values' hsame hvalues => ?_⟩
    · rw [← hchecks] at hlength ⊢
      exact check_of_fault (Check.tuple_of_length_ne hlength memory)
    · obtain ⟨_, hrun⟩ := fault_of_check h
      obtain ⟨place, fault, hdecided, _⟩ :=
        (Check.tuple_eq_error_iff (hlength.trans hchecks.symm)).mp hrun
      exact ⟨place, fault, hdecided⟩
    · have hlength' := (hsame.trans hlength).trans hchecks.symm
      exact check_of_fault (Check.tuple_fails_again hdecided hlength' hvalues)
  · intro value object runs
    refine ⟨fun failure last h => ?_, fun place fault last hdecided => ?_⟩
    · obtain ⟨_, hrun⟩ := fault_of_check h
      obtain ⟨place, _, fault, _, hdecided, _⟩ := Check.dictionary_eq_error_iff.mp hrun
      exact ⟨place, fault, hdecided⟩
    · obtain ⟨key, hkey, hagain⟩ := Check.dictionary_fails_again hdecided
      exact ⟨key, hkey, fun object' hobject => check_of_fault (hagain object' hobject)⟩
  · intro declarations object names runs
    have hnames : Entries.keys (Entries.ofList (Validator.interpretFields make declarations base)) =
        names := by
      rw [Entries.keys_ofList, Validator.keys_interpretFields]
    refine ⟨fun failure last h => ?_, fun place fault last hdecided => ?_⟩
    · obtain ⟨_, hrun⟩ := fault_of_check h
      obtain ⟨place, _, fault, _, hdecided, _⟩ := Check.record_eq_error_iff.mp hrun
      exact ⟨place, fault, hdecided⟩
    · obtain ⟨name, hname, hagain⟩ := Check.record_fails_again hdecided
      rw [hnames] at hname hagain
      exact ⟨name, hname, fun object' hobject => check_of_fault (hagain object' hobject)⟩
  · intro parts input runs
    refine ⟨fun failure last h => ?_, fun place fault last hdecided parts' hparts => ?_⟩
    · obtain ⟨fault, hrun⟩ := fault_of_check h
      obtain ⟨place, hdecided⟩ := Check.intersection_eq_error_iff.mp hrun
      exact ⟨place, fault, hdecided⟩
    · refine check_of_fault (Check.intersection_eq_error_iff.mpr ⟨place, hdecided.map_of_take ?_⟩)
      rw [Validator.take_interpretList, Validator.take_interpretList, hparts]
  · intro branches input runs
    refine ⟨fun output last h => ?_, fun place output last hdecided branches' hbranches => ?_⟩
    · exact Check.firstOf_eq_ok_iff.mp (check_eq_ok_iff.mp h)
    · refine check_eq_ok_iff.mpr (Check.firstOf_eq_ok_iff.mpr ⟨place, hdecided.map_of_take ?_⟩)
      rw [Validator.take_interpretList, Validator.take_interpretList, hbranches]

/-- Words that are built once, in a list and before another branch. -/
def words : Library := ⟨fun _ => .string, 1⟩

open Run in
/-- A value that is no word ends the check of a list, and a word the check of alternatives, with
the definition built once in both of them. -/
theorem words_stop_at_decision :
    (Live.mk (.list (.remembered "word")) 0).check words
        (some (.array [.string "a", .null, .string "b"])) ⟨1, [], []⟩ =
      some (.error (.located (some (.array [.string "a", .null, .string "b"]))
          (Path.ofList [.index 1]) "expected a string, got null"),
        ⟨1, [(0, ⟨.string, 1⟩)], [⟨"word", some 0⟩]⟩) ∧
    (Live.mk (.firstOf [.remembered "word", .rebuilt "word"]) 0).check words
        (some (.string "a")) ⟨1, [], []⟩ =
      some (.ok (.json (.string "a")), ⟨1, [(0, ⟨.string, 1⟩)], [⟨"word", some 0⟩]⟩) := by
  obtain ⟨hlist, _, _, _, _, hfirst⟩ := check_stops_at_decision words 0 ⟨1, [], []⟩
  constructor
  · refine (hlist (.remembered "word") [.string "a", .null]).2 1
      (Fault.here (.kind .string .null)) _ ?_ [.string "a", .null, .string "b"] rfl
    exact decidedAt_error_succ.mpr ⟨.json (.string "a"), _, rfl, decidedAt_error_zero.mpr rfl⟩
  · exact (hfirst [.remembered "word"] (some (.string "a"))).2 0 _ _ (.here rfl rfl)
      [.remembered "word", .rebuilt "word"] rfl

end Live

end JsonValidators
