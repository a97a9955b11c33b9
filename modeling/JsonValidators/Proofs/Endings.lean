import JsonValidators.Check.Choice
import JsonValidators.Check.Location
import JsonValidators.Check.Record
import JsonValidators.Check.Sequence
import JsonValidators.Proofs.Runs

/-!
How checks end. Items, places, properties, fields and the parts of an intersection
are all traversed in one way: runs are made in order until one fails. From this comes
for every check when it produces an output and where its faults come from.
-/

namespace JsonValidators

open Run

/-- The kind of value that a step leads into. -/
def Segment.container : Segment → Kind
  | .field _ => .object
  | .index _ => .array

namespace Check

section Traversals

variable {σ : Type}

theorem items_eq_all (element : Check σ) (position : Nat) (values : List Json) :
    items element position values = Run.all ((values.zipIdx position).map fun (value, index) =>
      (element (some value)).mapFault (Fault.underIndex index)) := by
  induction values generalizing position with
  | nil => rfl
  | cons value values ih =>
    rw [items, List.zipIdx_cons, List.map_cons, Run.all, ih]

theorem positions_eq_all (position : Nat) (elements : List (Check σ)) (values : List Json) :
    positions position elements values =
      Run.all (((elements.zip values).zipIdx position).map fun ((element, value), index) =>
        (element (some value)).mapFault (Fault.underIndex index)) := by
  induction elements generalizing position values with
  | nil => rfl
  | cons element elements ih =>
    cases values with
    | nil => rfl
    | cons value values =>
      rw [positions, List.zip_cons_cons, List.zipIdx_cons, List.map_cons, Run.all, ih]

theorem values_eq_all (check : Check σ) (object : Entries Json) :
    values check object = Run.all (object.map fun (key, value) =>
      ((check (some value)).mapFault (Fault.underField key)).mapValue fun output =>
        (key, output)) := by
  induction object with
  | nil => rfl
  | cons entry rest ih => rw [values, List.map_cons, Run.all, bind_mapValue, ih]

/-- What the fields produce, with their names, before the undefined ones are dropped. -/
def fieldOutputs (object : Entries Json) (declared : List (String × Check σ)) :
    Run σ (List (String × Output)) :=
  Run.all (declared.map fun (name, check) =>
    ((check (Entries.get? object name)).mapFault
      (fieldFault name (Entries.get? object name))).mapValue fun output => (name, output))

theorem fields_eq_outputs (object : Entries Json) (declared : List (String × Check σ)) :
    fields object declared = (fieldOutputs object declared).mapValue Output.entriesJson := by
  induction declared with
  | nil => rfl
  | cons entry rest ih =>
    rw [fieldOutputs, List.map_cons, Run.all, bind_mapValue, mapValue_bind, fields, ih]
    refine congrArg _ (funext fun output => ?_)
    rw [mapValue_mapValue, mapValue_mapValue]
    rfl

theorem parts_eq_all (input : Option Json) (merged : Entries Json) (checks : List (Check σ)) :
    parts input merged checks = (Run.all (checks.map fun check => check input)).mapValue
      fun outputs => outputs.foldl (fun merged output => Entries.merge merged output.entries)
        merged := by
  induction checks generalizing merged with
  | nil => rfl
  | cons check checks ih =>
    rw [parts, List.map_cons, Run.all, mapValue_bind]
    simp only [ih, mapValue_mapValue, List.foldl_cons]

end Traversals

variable {check : Check Unit} {input : Option Json} {output : Output} {fault : Fault}

section Scalars

/-- A check that produces any value of one kind as it is. -/
def Passes (kind : Kind) (check : Check Unit) : Prop := ∀ input, check input =
  if Kind.of input = kind then Run.ofValue (.ofOption input)
  else Run.ofReason (wrongKind kind input)

theorem string_passes : Passes .string string := by rintro (_ | _ | _ | _ | _ | _ | _) <;> rfl

theorem boolean_passes : Passes .boolean boolean := by rintro (_ | _ | _ | _ | _ | _ | _) <;> rfl

theorem undefined_passes : Passes .undefined undefined := by
  rintro (_ | _ | _ | _ | _ | _ | _) <;> rfl

theorem array_passes : Passes .array array := by rintro (_ | _ | _ | _ | _ | _ | _) <;> rfl

theorem object_passes : Passes .object object := by rintro (_ | _ | _ | _ | _ | _ | _) <;> rfl

theorem Passes.yields_iff {kind : Kind} (h : Passes kind check) :
    (check input).Yields output ↔ Kind.of input = kind ∧ .ofOption input = output := by
  rw [h input]
  split <;> simp [*]

theorem Passes.fails_iff {kind : Kind} (h : Passes kind check) : (check input).Fails fault ↔
    Kind.of input ≠ kind ∧ Fault.here (wrongKind kind input) = fault := by
  rw [h input]
  split <;> simp [*]

theorem yields_number : (number input : Run Unit Output).Yields output ↔
    ∃ value, input = some (.number value) ∧ .float (.finite value.toBinary64) = output := by
  rcases input with _ | _ | _ | _ | _ | _ | _ <;> simp [number]

theorem fails_number : (number input : Run Unit Output).Fails fault ↔
    Kind.of input ≠ .number ∧ Fault.here (wrongKind .number input) = fault := by
  rcases input with _ | _ | _ | _ | _ | _ | _ <;> simp [number, Kind.of]

theorem yields_constant {literal : Literal} {accepts : Json → Json → Bool} :
    (constant literal accepts input : Run Unit Output).Yields output ↔
      (∃ value, input = some value ∧ accepts value literal.toJson) ∧ literal.toOutput = output := by
  cases input with
  | none => simp [constant]
  | some value =>
    rw [constant]
    split <;> simp [*]

theorem fails_constant {literal : Literal} {accepts : Json → Json → Bool} :
    (constant literal accepts input : Run Unit Output).Fails fault ↔
      (∀ value, input = some value → ¬ accepts value literal.toJson) ∧
        Fault.here (.differs literal.toJson input) = fault := by
  cases input with
  | none => simp [constant]
  | some value =>
    rw [constant]
    split <;> simp [*]

end Scalars

section Containers

/-- What an entry comes to if the value under its key passes. -/
def Produces (check : Check Unit) (entry : String × Json) (result : String × Output) : Prop :=
  entry.1 = result.1 ∧ (check (some entry.2)).Yields result.2

/-- What a declared field comes to if it passes. -/
def FieldProduces (object : Entries Json) (field : String × Check Unit)
    (result : String × Output) : Prop :=
  field.1 = result.1 ∧ (field.2 (Entries.get? object field.1)).Yields result.2

theorem yields_items {values : List Json} {outputs : List Output} :
    (items check 0 values).Yields outputs ↔
      List.Forall₂ (fun value output => (check (some value)).Yields output) values outputs := by
  rw [items_eq_all, yields_all, List.forall₂_map_left_iff]
  simp only [yields_mapFault]
  conv => rhs; rw [← List.zipIdx_map_fst 0 values, List.forall₂_map_left_iff]

theorem yields_positions {elements : List (Check Unit)} {values : List Json}
    {outputs : List Output} : (positions 0 elements values).Yields outputs ↔
      List.Forall₂ (fun place output => (place.1 (some place.2)).Yields output)
        (elements.zip values) outputs := by
  rw [positions_eq_all, yields_all, List.forall₂_map_left_iff]
  simp only [yields_mapFault]
  conv => rhs; rw [← List.zipIdx_map_fst 0 (elements.zip values), List.forall₂_map_left_iff]

theorem yields_values {object : Entries Json} {results : List (String × Output)} :
    (values check object).Yields results ↔ List.Forall₂ (Produces check) object results := by
  rw [values_eq_all, yields_all, List.forall₂_map_left_iff]
  have hentry : ∀ (entry : String × Json) (result : String × Output),
      (((check (some entry.2)).mapFault (Fault.underField entry.1)).mapValue
        fun output => (entry.1, output)).Yields result ↔ Produces check entry result := by
    rintro ⟨key, value⟩ ⟨key', output⟩
    simp [yields_mapValue, Produces, and_comm]
  simp only [hentry]

theorem yields_fieldOutputs {object : Entries Json} {declared : List (String × Check Unit)}
    {results : List (String × Output)} : (fieldOutputs object declared).Yields results ↔
      List.Forall₂ (FieldProduces object) declared results := by
  rw [fieldOutputs, yields_all, List.forall₂_map_left_iff]
  have hfield : ∀ (field : String × Check Unit) (result : String × Output),
      (((field.2 (Entries.get? object field.1)).mapFault
        (fieldFault field.1 (Entries.get? object field.1))).mapValue
          fun output => (field.1, output)).Yields result ↔ FieldProduces object field result := by
    rintro ⟨name, check⟩ ⟨name', output⟩
    simp [yields_mapValue, FieldProduces, and_comm]
  simp only [hfield]

theorem yields_fields {object entries : Entries Json} {declared : List (String × Check Unit)} :
    (fields object declared).Yields entries ↔
      ∃ results, List.Forall₂ (FieldProduces object) declared results ∧
        Output.entriesJson results = entries := by
  rw [fields_eq_outputs, yields_mapValue]
  simp only [yields_fieldOutputs]

theorem fields_fails {object : Entries Json} {declared : List (String × Check Unit)}
    (h : (fields object declared).Fails fault) : ∃ field ∈ declared, ∃ inner,
      (field.2 (Entries.get? object field.1)).Fails inner ∧
        fieldFault field.1 (Entries.get? object field.1) inner = fault := by
  rw [fields_eq_outputs, fails_mapValue] at h
  obtain ⟨run, hrun, hfails⟩ := exists_mem_of_fails_all h
  obtain ⟨field, hfield, rfl⟩ := List.mem_map.mp hrun
  obtain ⟨inner, hinner, hfault⟩ := fails_mapFault.mp ((fails_mapValue _ _).mp hfails)
  exact ⟨field, hfield, inner, hinner, hfault⟩

theorem yields_list : (list check input).Yields output ↔
    ∃ values outputs, input = some (.array values) ∧
      List.Forall₂ (fun value output => (check (some value)).Yields output) values outputs ∧
        .list outputs = output := by
  unfold list
  split
  · simp only [yields_mapValue, yields_items, Option.some.injEq, Json.array.injEq,
      exists_and_left, exists_eq_left']
  · next hother =>
    refine iff_of_false (not_yields_ofReason _ _) ?_
    rintro ⟨values, _, rfl, _⟩
    exact hother values rfl

theorem list_fails (h : (list check input).Fails fault) :
    Kind.of input ≠ .array ∧ Fault.here (wrongKind .array input) = fault ∨
      ∃ values position value inner, input = some (.array values) ∧
        values[position]? = some value ∧ (check (some value)).Fails inner ∧
          inner.underIndex position = fault := by
  unfold list at h
  split at h
  · next values =>
    rw [fails_mapValue, items_eq_all] at h
    obtain ⟨run, hrun, hfails⟩ := exists_mem_of_fails_all h
    obtain ⟨⟨value, position⟩, hplace, rfl⟩ := List.mem_map.mp hrun
    obtain ⟨inner, hinner, hfault⟩ := fails_mapFault.mp hfails
    exact .inr ⟨values, position, value, inner, rfl,
      List.mem_zipIdx_iff_getElem?.mp hplace, hinner, hfault⟩
  · next hother =>
    exact .inl ⟨fun hkind => (Kind.exists_array hkind).elim hother, (fails_ofReason _ _).mp h⟩

theorem yields_tuple {elements : List (Check Unit)} : (tuple elements input).Yields output ↔
    ∃ values outputs, input = some (.array values) ∧ values.length = elements.length ∧
      List.Forall₂ (fun place output => (place.1 (some place.2)).Yields output)
        (elements.zip values) outputs ∧ .list outputs = output := by
  unfold tuple
  split
  · next values =>
    split
    · next hlength =>
      simp [yields_mapValue, yields_positions, hlength]
    · next hlength =>
      refine iff_of_false (not_yields_ofReason _ _) ?_
      rintro ⟨values', _, hinput, hlength', _⟩
      obtain rfl := Json.array.inj (Option.some.inj hinput)
      exact hlength hlength'
  · next hother =>
    refine iff_of_false (not_yields_ofReason _ _) ?_
    rintro ⟨values, _, rfl, _⟩
    exact hother values rfl

theorem tuple_fails {elements : List (Check Unit)} (h : (tuple elements input).Fails fault) :
    (Kind.of input ≠ .array ∧
      Fault.here (.notTuple elements.length (Kind.of input)) = fault) ∨
    (∃ values, input = some (.array values) ∧ values.length ≠ elements.length ∧
      Fault.here (.tupleLength elements.length values.length) = fault) ∨
    ∃ (values : List Json) (position : Nat) (element : Check Unit) (value : Json) (inner : Fault),
      input = some (.array values) ∧ elements[position]? = some element ∧
        values[position]? = some value ∧ (element (some value)).Fails inner ∧
          inner.underIndex position = fault := by
  unfold tuple at h
  split at h
  · next values =>
    split at h
    · next hlength =>
      rw [fails_mapValue, positions_eq_all] at h
      obtain ⟨run, hrun, hfails⟩ := exists_mem_of_fails_all h
      obtain ⟨⟨⟨element, value⟩, position⟩, hplace, rfl⟩ := List.mem_map.mp hrun
      obtain ⟨helement, hvalue⟩ :=
        List.getElem?_zip_eq_some.mp (List.mem_zipIdx_iff_getElem?.mp hplace)
      obtain ⟨inner, hinner, hfault⟩ := fails_mapFault.mp hfails
      exact .inr (.inr ⟨values, position, element, value, inner, rfl, helement, hvalue, hinner,
        hfault⟩)
    · next hlength => exact .inr (.inl ⟨values, rfl, hlength, (fails_ofReason _ _).mp h⟩)
  · next hother =>
    exact .inl ⟨fun hkind => (Kind.exists_array hkind).elim hother, (fails_ofReason _ _).mp h⟩

theorem yields_dictionary : (dictionary check input).Yields output ↔
    ∃ object results, input = some (.object object) ∧
      List.Forall₂ (Produces check) object results ∧ .dictionary results = output := by
  unfold dictionary
  split
  · simp only [yields_mapValue, yields_values, Option.some.injEq, Json.object.injEq,
      exists_and_left, exists_eq_left']
  · next hother =>
    refine iff_of_false (not_yields_ofReason _ _) ?_
    rintro ⟨object, _, rfl, _⟩
    exact hother object rfl

theorem dictionary_fails (h : (dictionary check input).Fails fault) :
    Kind.of input ≠ .object ∧ Fault.here (wrongKind .object input) = fault ∨
      ∃ object, input = some (.object object) ∧ ∃ entry ∈ object, ∃ inner,
        (check (some entry.2)).Fails inner ∧ inner.underField entry.1 = fault := by
  unfold dictionary at h
  split at h
  · next object =>
    rw [fails_mapValue, values_eq_all] at h
    obtain ⟨run, hrun, hfails⟩ := exists_mem_of_fails_all h
    obtain ⟨entry, hentry, rfl⟩ := List.mem_map.mp hrun
    obtain ⟨inner, hinner, hfault⟩ := fails_mapFault.mp ((fails_mapValue _ _).mp hfails)
    exact .inr ⟨object, rfl, entry, hentry, inner, hinner, hfault⟩
  · next hother =>
    exact .inl ⟨fun hkind => (Kind.exists_object hkind).elim hother, (fails_ofReason _ _).mp h⟩

variable {declared : Entries (Check Unit)}

theorem yields_record : (record declared input).Yields output ↔
    ∃ object results, input = some (.object object) ∧
      List.Forall₂ (FieldProduces object) declared results ∧
        .json (.object (Output.entriesJson results)) = output := by
  unfold record
  split
  · next object =>
    simp only [yields_mapValue, yields_fields, Option.some.injEq, Json.object.injEq]
    constructor
    · rintro ⟨_, ⟨results, hresults, rfl⟩, rfl⟩
      exact ⟨object, results, rfl, hresults, rfl⟩
    · rintro ⟨_, results, rfl, hresults, rfl⟩
      exact ⟨_, ⟨results, hresults, rfl⟩, rfl⟩
  · next hother =>
    refine iff_of_false (not_yields_ofReason _ _) ?_
    rintro ⟨object, _, rfl, _⟩
    exact hother object rfl

theorem record_fails (h : (record declared input).Fails fault) :
    Kind.of input ≠ .object ∧ Fault.here (wrongKind .object input) = fault ∨
      ∃ object, input = some (.object object) ∧ ∃ field ∈ declared, ∃ inner,
        (field.2 (Entries.get? object field.1)).Fails inner ∧
          fieldFault field.1 (Entries.get? object field.1) inner = fault := by
  unfold record at h
  split at h
  · next object => exact .inr ⟨object, rfl, fields_fails ((fails_mapValue _ _).mp h)⟩
  · next hother =>
    exact .inl ⟨fun hkind => (Kind.exists_object hkind).elim hother, (fails_ofReason _ _).mp h⟩

theorem yields_closedRecord : (closedRecord declared input).Yields output ↔
    ∃ object results, input = some (.object object) ∧
      List.Forall₂ (FieldProduces object) declared results ∧
        undeclared? declared object = none ∧
          .json (.object (Output.entriesJson results)) = output := by
  unfold closedRecord
  split
  · next object =>
    rw [yields_bind]
    constructor
    · rintro ⟨entries, hentries, hlast⟩
      obtain ⟨results, hresults, rfl⟩ := yields_fields.mp hentries
      split at hlast
      · exact absurd hlast (not_yields_ofReason _ _)
      · next hnone => exact ⟨object, results, rfl, hresults, hnone, (yields_ofValue _ _).mp hlast⟩
    · rintro ⟨_, results, hinput, hresults, hnone, rfl⟩
      obtain rfl := Json.object.inj (Option.some.inj hinput)
      refine ⟨_, yields_fields.mpr ⟨results, hresults, rfl⟩, ?_⟩
      rw [hnone]
      exact (yields_ofValue _ _).mpr rfl
  · next hother =>
    refine iff_of_false (not_yields_ofReason _ _) ?_
    rintro ⟨object, _, rfl, _⟩
    exact hother object rfl

/-- A key that is not declared is reported after all fields have passed. -/
theorem closedRecord_fails (h : (closedRecord declared input).Fails fault) :
    (Kind.of input ≠ .object ∧ Fault.here (wrongKind .object input) = fault) ∨
    (∃ object, input = some (.object object) ∧ ∃ field ∈ declared, ∃ inner,
      (field.2 (Entries.get? object field.1)).Fails inner ∧
        fieldFault field.1 (Entries.get? object field.1) inner = fault) ∨
    ∃ object results key, input = some (.object object) ∧
      List.Forall₂ (FieldProduces object) declared results ∧
        undeclared? declared object = some key ∧ Fault.here (.undeclaredKey key) = fault := by
  unfold closedRecord at h
  split at h
  · next object =>
    rcases fails_bind.mp h with hfields | ⟨entries, hentries, hlast⟩
    · exact .inr (.inl ⟨object, rfl, fields_fails hfields⟩)
    · obtain ⟨results, hresults, _⟩ := yields_fields.mp hentries
      split at hlast
      · next key hkey =>
        exact .inr (.inr ⟨object, results, key, rfl, hresults, hkey, (fails_ofReason _ _).mp hlast⟩)
      · exact absurd hlast (not_fails_ofValue _ _)
  · next hother =>
    exact .inl ⟨fun hkind => (Kind.exists_object hkind).elim hother, (fails_ofReason _ _).mp h⟩

end Containers

section Choices

theorem yields_optional : (optional check input).Yields output ↔
    input = none ∧ .undefined = output ∨
      ∃ value inner, input = some value ∧ (check (some value)).Yields inner ∧
        .present inner = output := by
  cases input with
  | none => simp [optional]
  | some value => simp [optional, yields_mapValue]

theorem optional_fails (h : (optional check input).Fails fault) :
    ∃ value, input = some value ∧ (check (some value)).Fails fault := by
  cases input with
  | none => exact absurd h (not_fails_ofValue _ _)
  | some value => exact ⟨value, rfl, (fails_mapValue _ _).mp h⟩

theorem fails_alternatives {entries : List String} {branches : List (Check Unit)} :
    (alternatives input entries branches).Fails fault ↔
      ∃ faults, List.Forall₂ (fun branch fault => (branch input).Fails fault) branches faults ∧
        Fault.here (.noneMatched (entries ++ faults.map Fault.entry)) = fault := by
  induction branches generalizing entries with
  | nil => simp [alternatives]
  | cons branch branches ih =>
    simp only [alternatives, fails_settle, List.forall₂_cons_left_iff]
    constructor
    · rintro ⟨first | output, hrun, hrest⟩
      · obtain ⟨faults, hfaults, rfl⟩ := ih.mp hrest
        exact ⟨first :: faults, ⟨first, faults, hrun, hfaults, rfl⟩, by simp⟩
      · exact absurd hrest (not_fails_ofValue _ _)
    · rintro ⟨_, ⟨first, faults, hfirst, hfaults, rfl⟩, rfl⟩
      exact ⟨.error first, hfirst, ih.mpr ⟨faults, hfaults, by simp⟩⟩

/-- If all alternatives fail, there is an entry for each fault. -/
theorem fails_firstOf {branches : List (Check Unit)} : (firstOf branches input).Fails fault ↔
    ∃ faults, List.Forall₂ (fun branch fault => (branch input).Fails fault) branches faults ∧
      Fault.here (.noneMatched (faults.map Fault.entry)) = fault := fails_alternatives

theorem yields_alternatives {entries : List String} {branches : List (Check Unit)} :
    (alternatives input entries branches).Yields output ↔
      ∃ earlier branch later, branches = earlier ++ branch :: later ∧
        (∀ other ∈ earlier, ∃ fault, (other input).Fails fault) ∧
          (branch input).Yields output := by
  induction branches generalizing entries with
  | nil =>
    refine iff_of_false (not_yields_ofReason _ _) ?_
    rintro ⟨earlier, branch, later, hbranches, _⟩
    exact absurd hbranches (by simp)
  | cons branch branches ih =>
    rw [alternatives, yields_settle]
    constructor
    · rintro ⟨fault | value, hrun, hrest⟩
      · obtain ⟨earlier, chosen, later, rfl, hearlier, hchosen⟩ := ih.mp hrest
        refine ⟨branch :: earlier, chosen, later, rfl, ?_, hchosen⟩
        exact List.forall_mem_cons.mpr ⟨⟨fault, hrun⟩, hearlier⟩
      · obtain rfl := (yields_ofValue _ _).mp hrest
        exact ⟨[], branch, branches, rfl, nofun, hrun⟩
    · rintro ⟨earlier, chosen, later, hbranches, hearlier, hchosen⟩
      cases earlier with
      | nil =>
        obtain ⟨rfl, rfl⟩ := List.cons.inj hbranches
        exact ⟨.ok output, hchosen, (yields_ofValue _ _).mpr rfl⟩
      | cons first earlier =>
        obtain ⟨rfl, rfl⟩ := List.cons.inj hbranches
        obtain ⟨⟨fault, hfault⟩, hearlier⟩ := List.forall_mem_cons.mp hearlier
        exact ⟨.error fault, hfault, ih.mpr ⟨earlier, chosen, later, rfl, hearlier, hchosen⟩⟩

/-- The first alternative that passes decides. -/
theorem yields_firstOf {branches : List (Check Unit)} :
    (firstOf branches input).Yields output ↔
      ∃ earlier branch later, branches = earlier ++ branch :: later ∧
        (∀ other ∈ earlier, ∃ fault, (other input).Fails fault) ∧
          (branch input).Yields output := yields_alternatives

theorem firstOf_yields {branches : List (Check Unit)} (h : (firstOf branches input).Yields output) :
    ∃ branch ∈ branches, (branch input).Yields output := by
  obtain ⟨earlier, branch, later, rfl, _, hbranch⟩ := yields_firstOf.mp h
  exact ⟨branch, by simp, hbranch⟩

/-- If all alternatives end, one that passes is enough. -/
theorem exists_yields_firstOf {branches : List (Check Unit)}
    (hends : ∀ branch ∈ branches, ∃ outcome, branch input () = some (outcome, ())) :
    (∃ output, (firstOf branches input).Yields output) ↔
      ∃ branch ∈ branches, ∃ output, (branch input).Yields output := by
  constructor
  · rintro ⟨output, h⟩
    obtain ⟨branch, hbranch, hyields⟩ := firstOf_yields h
    exact ⟨branch, hbranch, output, hyields⟩
  · rintro ⟨branch, hbranch, output, hyields⟩
    suffices halternatives : ∀ entries, ∃ output,
        (alternatives input entries branches).Yields output from halternatives []
    induction branches with
    | nil => exact absurd hbranch List.not_mem_nil
    | cons first branches ih =>
      intro entries
      obtain ⟨⟨outcome, hfirst⟩, hrest⟩ := List.forall_mem_cons.mp hends
      cases outcome with
      | ok value => exact ⟨value, yields_settle.mpr ⟨_, hfirst, (yields_ofValue _ _).mpr rfl⟩⟩
      | error fault =>
        have hmem : branch ∈ branches := by
          rcases List.mem_cons.mp hbranch with rfl | hmem
          · exact absurd (hfirst.symm.trans hyields) nofun
          · exact hmem
        obtain ⟨last, hlast⟩ := ih hrest hmem (entries ++ [fault.entry])
        exact ⟨last, yields_settle.mpr ⟨_, hfirst, hlast⟩⟩

theorem yields_intersection {checks : List (Check Unit)} :
    (intersection checks input).Yields output ↔
      ∃ outputs, List.Forall₂ (fun check output => (check input).Yields output) checks outputs ∧
        .json (.object (outputs.foldl
          (fun merged output => Entries.merge merged output.entries) [])) = output := by
  simp only [intersection, parts_eq_all, mapValue_mapValue, yields_mapValue, yields_all,
    List.forall₂_map_left_iff, Function.comp_apply]

theorem intersection_fails {checks : List (Check Unit)}
    (h : (intersection checks input).Fails fault) :
    ∃ check ∈ checks, (check input).Fails fault := by
  rw [intersection, parts_eq_all, mapValue_mapValue, fails_mapValue] at h
  obtain ⟨run, hrun, hfails⟩ := exists_mem_of_fails_all h
  obtain ⟨check, hcheck, rfl⟩ := List.mem_map.mp hrun
  exact ⟨check, hcheck, hfails⟩

theorem fallback_not_fails (default : Output) : ¬ (fallback default check input).Fails fault := by
  intro h
  obtain ⟨outcome, _, hlast⟩ := fails_settle.mp h
  exact not_fails_ofValue _ _ hlast

theorem yields_map {change : Output → Output} : (map change check input).Yields output ↔
    ∃ inner, (check input).Yields inner ∧ change inner = output := yields_mapValue

theorem fails_map {change : Output → Output} :
    (map change check input).Fails fault ↔ (check input).Fails fault := fails_mapValue _ _

theorem yields_ensure {accepts : Output → Bool} {reason : Reason} :
    (ensure accepts reason check input).Yields output ↔
      (check input).Yields output ∧ accepts output := by
  rw [ensure, yields_bind]
  constructor
  · rintro ⟨middle, hmiddle, hlast⟩
    split at hlast
    · next haccepts =>
      obtain rfl := (yields_ofValue _ _).mp hlast
      exact ⟨hmiddle, haccepts⟩
    · exact absurd hlast (not_yields_ofReason _ _)
  · rintro ⟨houtput, haccepts⟩
    exact ⟨output, houtput, by rw [if_pos haccepts, yields_ofValue]⟩

theorem fails_ensure {accepts : Output → Bool} {reason : Reason} :
    (ensure accepts reason check input).Fails fault ↔
      (check input).Fails fault ∨
        ∃ output, (check input).Yields output ∧ ¬ accepts output ∧ Fault.here reason = fault := by
  rw [ensure, fails_bind]
  have hcondition : ∀ output, (if accepts output then (ofValue output : Run Unit Output)
      else ofReason reason).Fails fault ↔ ¬ accepts output ∧ Fault.here reason = fault := by
    intro output
    split <;> simp [*]
  simp only [hcondition]

theorem yields_continueWith {next : Output → Check Unit} :
    (continueWith check next input).Yields output ↔
      ∃ middle, (check input).Yields middle ∧ (next middle input).Yields output := yields_bind

theorem fails_continueWith {next : Output → Check Unit} :
    (continueWith check next input).Fails fault ↔
      (check input).Fails fault ∨
        ∃ middle, (check input).Yields middle ∧ (next middle input).Fails fault := fails_bind

theorem firstCase_eq (output : Output) (otherwise : Check Unit)
    (cases : List ((Output → Bool) × Check Unit)) : firstCase output otherwise cases = otherwise ∨
      ∃ entry ∈ cases, firstCase output otherwise cases = entry.2 := by
  induction cases with
  | nil => exact .inl rfl
  | cons entry cases ih =>
    rw [firstCase]
    split
    · exact .inr ⟨entry, List.mem_cons_self, rfl⟩
    · rcases ih with hotherwise | ⟨other, hother, heq⟩
      · exact .inl hotherwise
      · exact .inr ⟨other, List.mem_cons_of_mem _ hother, heq⟩

theorem walk_cons (walked : Path) (segment : Segment) (rest : List Segment) (value : Json) :
    walk walked (segment :: rest) (some value) =
      if Kind.of (some value) = segment.container then
        walk (walked.push segment) rest (Path.step value segment)
      else .error ⟨walked.push segment, wrongKind segment.container (some value)⟩ := by
  cases segment <;> cases value <;> rfl

theorem yields_follow {path : Path} : (follow path check input).Yields output ↔
    ∃ found, walk Path.root path.segments input = .ok found ∧ (check found).Yields output := by
  unfold follow
  split <;> simp [*]

theorem follow_fails {path : Path} (h : (follow path check input).Fails fault) :
    walk Path.root path.segments input = .error fault ∨
      ∃ found inner, walk Path.root path.segments input = .ok found ∧
        (check found).Fails inner ∧ locatedFault path found inner = fault := by
  unfold follow at h
  split at h
  · next found hfound =>
    obtain ⟨inner, hinner, hfault⟩ := fails_mapFault.mp h
    exact .inr ⟨found, inner, hfound, hinner, hfault⟩
  · next other hother =>
    obtain rfl := (fails_ofFault _ _).mp h
    exact .inl hother

end Choices

end Check

end JsonValidators
