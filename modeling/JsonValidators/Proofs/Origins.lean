import JsonValidators.Proofs.Endings
import JsonValidators.Proofs.Unfolding

/-!
Where faults come from. A check passes on to the checks of parts what it finds in its
input, and the fault that it ends in is what one part finds wrong by itself, behind the
path on which the input has been passed on to it. A part is never blamed for the
absence of a value in the input: what it says of that is replaced on the way out.
-/

namespace JsonValidators

namespace Validator

/-- The kind that a validator looks for before anything else. -/
def expectedKind? : Validator → Option Kind
  | string => some .string
  | number => some .number
  | boolean => some .boolean
  | undefined => some .undefined
  | array | list _ => some .array
  | object | record _ | closedRecord _ | dictionary _ => some .object
  | _ => none

/-- The fields that a validator declares, if it is one of objects by their fields. -/
def declarations? : Validator → Option Fields
  | record declarations | closedRecord declarations => some declarations
  | _ => none

variable (body : String → Validator)

/-- What an expression by itself finds wrong with what it looks at. -/
inductive Complaint : Validator → Option Json → Fault → Prop
  | kind {part : Validator} {expected : Kind} {found : Option Json} :
      part.expectedKind? = some expected → Kind.of found ≠ expected →
        Complaint part found (.here (Check.wrongKind expected found))
  | notTuple {elements : List Validator} {found : Option Json} : Kind.of found ≠ .array →
      Complaint (tuple elements) found (.here (.notTuple elements.length (Kind.of found)))
  | tupleLength {elements : List Validator} {values : List Json} :
      values.length ≠ elements.length → Complaint (tuple elements) (some (.array values))
        (.here (.tupleLength elements.length values.length))
  | differs {literal : Literal} {accepts : Json → Json → Bool} {found : Option Json} :
      (∀ value, found = some value → ¬ accepts value literal.toJson) →
        Complaint (constant literal accepts) found (.here (.differs literal.toJson found))
  /-- The validator of the field rejects the absence of a value. -/
  | missingKey {part : Validator} {declarations : Fields} {object : Entries Json}
      {field : String × Validator} {fault : Fault} :
      part.declarations? = some declarations → field ∈ Entries.ofList declarations →
        Entries.get? object field.1 = none → field.2.result? body none = some (.error fault) →
          Complaint part (some (.object object)) (.here (.missingKey field.1))
  /-- All fields pass, and the key is the first that is not declared. -/
  | undeclaredKey {declarations : Fields} {object : Entries Json} {before after : List String}
      {key : String} :
      (∀ field ∈ Entries.ofList declarations, ∃ output,
        field.2.result? body (Entries.get? object field.1) = some (.ok output)) →
          Entries.keys object = before ++ key :: after → key ∉ declarations.names →
            (∀ other ∈ before, other ∈ declarations.names) →
              Complaint (closedRecord declarations) (some (.object object))
                (.here (.undeclaredKey key))
  | noneMatched {branches : List Validator} {found : Option Json} {entries : List String} :
      Complaint (firstOf branches) found (.here (.noneMatched entries))
  | rejected {message : String} {found : Option Json} :
      Complaint (never message) found (.here (.custom message))
  | unmet {accepts : Output → Bool} {reason : Reason} {inner : Validator} {found : Option Json} :
      Complaint (ensure accepts reason inner) found (.here reason)
  | strayed {path : Path} {inner : Validator} {found : Option Json} {fault : Fault} :
      Check.walk Path.root path.segments found = .error fault →
        Complaint (follow path inner) found fault
  | nowhere {path : Path} {inner : Validator} {found : Option Json} :
      Check.walk Path.root path.segments found = .ok none →
        Complaint (follow path inner) found ⟨path, .nowhere⟩

/-- A validator passes what a path leads to in its input on to another one, and puts
the path in front of what that one finds wrong. -/
inductive PassesOn : Validator → Option Json → Path → Validator → Option Json → Prop
  | field {part : Validator} {declarations : Fields} {object : Entries Json}
      {field : String × Validator} {value : Json} :
      part.declarations? = some declarations → field ∈ Entries.ofList declarations →
        Entries.get? object field.1 = some value →
          PassesOn part (some (.object object)) (Path.ofList [.field field.1]) field.2 (some value)
  | property {inner : Validator} {object : Entries Json} {entry : String × Json} :
      entry ∈ object →
        PassesOn (dictionary inner) (some (.object object)) (Path.ofList [.field entry.1]) inner
          (some entry.2)
  | item {element : Validator} {values : List Json} {position : Nat} {value : Json} :
      values[position]? = some value →
        PassesOn (list element) (some (.array values)) (Path.ofList [.index position]) element
          (some value)
  | place {elements : List Validator} {element : Validator} {values : List Json} {position : Nat}
      {value : Json} : elements[position]? = some element → values[position]? = some value →
        PassesOn (tuple elements) (some (.array values)) (Path.ofList [.index position]) element
          (some value)
  | found {path : Path} {inner : Validator} {input : Option Json} {value : Json} :
      Check.walk Path.root path.segments input = .ok (some value) →
        PassesOn (follow path inner) input path inner (some value)
  | present {inner : Validator} {value : Json} :
      PassesOn (optional inner) (some value) Path.root inner (some value)
  | conjunct {parts : List Validator} {part : Validator} {input : Option Json} : part ∈ parts →
      PassesOn (intersection parts) input Path.root part input
  | changed {change : Output → Output} {inner : Validator} {input : Option Json} :
      PassesOn (map change inner) input Path.root inner input
  | restricted {accepts : Output → Bool} {reason : Reason} {inner : Validator}
      {input : Option Json} : PassesOn (ensure accepts reason inner) input Path.root inner input
  | selector {inner otherwise : Validator} {cases : List ((Output → Bool) × Validator)}
      {input : Option Json} : PassesOn (select inner cases otherwise) input Path.root inner input
  | case {inner otherwise : Validator} {cases : List ((Output → Bool) × Validator)}
      {entry : (Output → Bool) × Validator} {input : Option Json} : entry ∈ cases →
        PassesOn (select inner cases otherwise) input Path.root entry.2 input
  | otherwise {inner otherwise : Validator} {cases : List ((Output → Bool) × Validator)}
      {input : Option Json} :
      PassesOn (select inner cases otherwise) input Path.root otherwise input
  | continued {inner : Validator} {next : Output → Validator} {input : Option Json} :
      PassesOn (continueWith inner next) input Path.root inner input
  | continuation {inner : Validator} {next : Output → Validator} {input : Option Json}
      (output : Output) : PassesOn (continueWith inner next) input Path.root (next output) input
  | rebuilt {definition : String} {input : Option Json} :
      PassesOn (rebuilt definition) input Path.root (body definition) input
  | remembered {definition : String} {input : Option Json} :
      PassesOn (remembered definition) input Path.root (body definition) input
  | inUse {base : Nat} {inner : Validator} {input : Option Json} :
      PassesOn (shared base inner) input Path.root inner input

/-- The same over any number of validators. -/
inductive Reaches : Validator → Option Json → Path → Validator → Option Json → Prop
  | here {validator : Validator} {input : Option Json} :
      Reaches validator input Path.root validator input
  | next {whole middle part : Validator} {input between found : Option Json} {step path : Path} :
      PassesOn body whole input step middle between → Reaches middle between path part found →
        Reaches whole input (step ++ path) part found

/-- A fault is what some part finds wrong by itself, behind the path to it. -/
def Blamed (validator : Validator) (input : Option Json) (fault : Fault) : Prop :=
  ∃ path part found own, Reaches body validator input path part found ∧
    Complaint body part found own ∧ own.underPath path = fault

variable {body} {validator part : Validator} {input found : Option Json} {fault : Fault}

theorem Complaint.blamed (h : Complaint body validator input fault) :
    Blamed body validator input fault := ⟨Path.root, validator, input, fault, .here, h, rfl⟩

theorem Blamed.under {step : Path} (hpasses : PassesOn body validator input step part found)
    (h : Blamed body part found fault) : Blamed body validator input (fault.underPath step) := by
  obtain ⟨path, origin, reached, own, hreaches, hcomplaint, rfl⟩ := h
  exact ⟨step ++ path, origin, reached, own, .next hpasses hreaches, hcomplaint,
    (Fault.underPath_underPath step path own).symm⟩

/-- Whatever fault a check ends in, some part of the validator is to blame for it. -/
def Blames (body : String → Validator) (validator : Validator) (check : Check Unit) : Prop :=
  ∀ input fault, (check input).Fails fault → Blamed body validator input fault

namespace Blames

open Run

variable {check : Check Unit} {checks : Validator → Check Unit} {declarations : Fields}

theorem of_passes {expected : Kind} (hexpected : validator.expectedKind? = some expected)
    (hpasses : Check.Passes expected check) : Blames body validator check := by
  intro input fault hfails
  obtain ⟨hkind, rfl⟩ := hpasses.fails_iff.mp hfails
  exact (Complaint.kind hexpected hkind).blamed

theorem number : Blames body .number Check.number := by
  intro input fault hfails
  obtain ⟨hkind, rfl⟩ := Check.fails_number.mp hfails
  exact (Complaint.kind rfl hkind).blamed

theorem constant (literal : Literal) (accepts : Json → Json → Bool) :
    Blames body (.constant literal accepts) (Check.constant literal accepts) := by
  intro input fault hfails
  obtain ⟨hdiffers, rfl⟩ := Check.fails_constant.mp hfails
  exact (Complaint.differs hdiffers).blamed

/-- A field is to blame for what is wrong with a property. Without a property it is the
object that lacks the key. -/
theorem field (hdeclarations : validator.declarations? = some declarations)
    (hfaithful : Faithful body checks)
    (h : ∀ entry ∈ Entries.ofList declarations, Blames body entry.2 (checks entry.2))
    {object : Entries Json} {entry : String × Validator}
    (hentry : entry ∈ Entries.ofList declarations) {inner : Fault}
    (hfails : (checks entry.2 (Entries.get? object entry.1)).Fails inner) :
    Blamed body validator (some (.object object))
      (Check.fieldFault entry.1 (Entries.get? object entry.1) inner) := by
  cases hproperty : Entries.get? object entry.1 with
  | none =>
    rw [hproperty] at hfails
    have hrejects := hfaithful entry.2 none (.error inner) hfails
    exact (Complaint.missingKey hdeclarations hentry hproperty hrejects).blamed
  | some value =>
    rw [hproperty] at hfails
    exact (h entry hentry (some value) inner hfails).under (.field hdeclarations hentry hproperty)

theorem record (hfaithful : Faithful body checks)
    (h : ∀ entry ∈ Entries.ofList declarations, Blames body entry.2 (checks entry.2)) :
    Blames body (.record declarations) (Check.record
      ((Entries.ofList declarations).map fun entry => (entry.1, checks entry.2))) := by
  intro input fault hfails
  rcases Check.record_fails hfails with ⟨hkind, rfl⟩ | ⟨object, rfl, _, hmem, inner, hinner, rfl⟩
  · exact (Complaint.kind rfl hkind).blamed
  · obtain ⟨entry, hentry, rfl⟩ := List.mem_map.mp hmem
    exact field rfl hfaithful h hentry hinner

theorem closedRecord (hfaithful : Faithful body checks)
    (h : ∀ entry ∈ Entries.ofList declarations, Blames body entry.2 (checks entry.2)) :
    Blames body (.closedRecord declarations) (Check.closedRecord
      ((Entries.ofList declarations).map fun entry => (entry.1, checks entry.2))) := by
  intro input fault hfails
  rcases Check.closedRecord_fails hfails with ⟨hkind, rfl⟩ |
    ⟨object, rfl, _, hmem, inner, hinner, rfl⟩ | ⟨object, results, key, rfl, hresults, hkey, rfl⟩
  · exact (Complaint.kind rfl hkind).blamed
  · obtain ⟨entry, hentry, rfl⟩ := List.mem_map.mp hmem
    exact field rfl hfaithful h hentry hinner
  · have hcontains : ∀ other, Entries.contains
        ((Entries.ofList declarations).map fun entry => (entry.1, checks entry.2)) other ↔
          other ∈ declarations.names := by
      intro other
      rw [Entries.contains, Entries.isSome_get?_iff, Entries.keys, List.map_map]
      exact Entries.mem_keys_ofList
    obtain ⟨hnew, before, after, hsplit, hbefore⟩ := List.find?_eq_some_iff_append.mp hkey
    refine (Complaint.undeclaredKey ?_ hsplit ?_ ?_).blamed
    · intro entry hentry
      have hmem := List.mem_map_of_mem (f := fun entry => (entry.1, checks entry.2)) hentry
      obtain ⟨result, _, _, hyields⟩ := exists_right_of_forall₂ hresults hmem
      exact ⟨result.2, hfaithful entry.2 _ _ hyields⟩
    · rw [← hcontains]
      simpa using hnew
    · intro other hother
      rw [← hcontains]
      simpa using hbefore other hother

theorem dictionary (h : Blames body part check) :
    Blames body (.dictionary part) (Check.dictionary check) := by
  intro input fault hfails
  rcases Check.dictionary_fails hfails with ⟨hkind, rfl⟩ |
    ⟨object, rfl, entry, hentry, inner, hinner, rfl⟩
  · exact (Complaint.kind rfl hkind).blamed
  · rw [Fault.underField_eq_underPath]
    exact (h _ inner hinner).under (.property hentry)

theorem list (h : Blames body part check) : Blames body (.list part) (Check.list check) := by
  intro input fault hfails
  rcases Check.list_fails hfails with ⟨hkind, rfl⟩ |
    ⟨values, position, value, inner, rfl, hvalue, hinner, rfl⟩
  · exact (Complaint.kind rfl hkind).blamed
  · rw [Fault.underIndex_eq_underPath]
    exact (h _ inner hinner).under (.item hvalue)

theorem tuple {elements : List Validator}
    (h : ∀ element ∈ elements, Blames body element (checks element)) :
    Blames body (.tuple elements) (Check.tuple (elements.map checks)) := by
  intro input fault hfails
  have hfails := Check.tuple_fails hfails
  rw [List.length_map] at hfails
  rcases hfails with ⟨hkind, rfl⟩ | ⟨values, rfl, hlength, rfl⟩ |
    ⟨values, position, check, value, inner, rfl, hcheck, hvalue, hinner, rfl⟩
  · exact (Complaint.notTuple hkind).blamed
  · exact (Complaint.tupleLength hlength).blamed
  · rw [List.getElem?_map] at hcheck
    obtain ⟨element, helement, rfl⟩ := Option.map_eq_some_iff.mp hcheck
    rw [Fault.underIndex_eq_underPath]
    exact (h element (List.mem_of_getElem? helement) _ inner hinner).under (.place helement hvalue)

theorem optional (h : Blames body part check) :
    Blames body (.optional part) (Check.optional check) := by
  intro input fault hfails
  obtain ⟨value, rfl, hinner⟩ := Check.optional_fails hfails
  exact (h _ fault hinner).under .present

theorem firstOf {branches : List Validator} (checks : List (Check Unit)) :
    Blames body (.firstOf branches) (Check.firstOf checks) := by
  intro input fault hfails
  obtain ⟨faults, _, rfl⟩ := Check.fails_firstOf.mp hfails
  exact Complaint.noneMatched.blamed

theorem intersection {parts : List Validator}
    (h : ∀ part ∈ parts, Blames body part (checks part)) :
    Blames body (.intersection parts) (Check.intersection (parts.map checks)) := by
  intro input fault hfails
  obtain ⟨_, hmem, hinner⟩ := Check.intersection_fails hfails
  obtain ⟨part, hpart, rfl⟩ := List.mem_map.mp hmem
  exact (h part hpart input fault hinner).under (.conjunct hpart)

theorem follow (path : Path) (h : Blames body part check) :
    Blames body (.follow path part) (Check.follow path check) := by
  intro input fault hfails
  rcases Check.follow_fails hfails with hwalk | ⟨found, inner, hwalk, hinner, rfl⟩
  · exact (Complaint.strayed hwalk).blamed
  · cases found with
    | none => exact (Complaint.nowhere hwalk).blamed
    | some value => exact (h (some value) inner hinner).under (.found hwalk)

theorem ensure (accepts : Output → Bool) (reason : Reason) (h : Blames body part check) :
    Blames body (.ensure accepts reason part) (Check.ensure accepts reason check) := by
  intro input fault hfails
  rcases Check.fails_ensure.mp hfails with hinner | ⟨output, _, _, rfl⟩
  · exact (h input fault hinner).under .restricted
  · exact Complaint.unmet.blamed

theorem select {inner otherwise : Validator} {cases : List ((Output → Bool) × Validator)}
    (hinner : Blames body inner (checks inner))
    (hcases : ∀ entry ∈ cases, Blames body entry.2 (checks entry.2))
    (hotherwise : Blames body otherwise (checks otherwise)) :
    Blames body (.select inner cases otherwise) (Check.continueWith (checks inner) fun output =>
      Check.firstCase output (checks otherwise)
        (cases.map fun entry => (entry.1, checks entry.2))) := by
  intro input fault hfails
  rcases Check.fails_continueWith.mp hfails with hfirst | ⟨output, _, hlast⟩
  · exact (hinner input fault hfirst).under .selector
  · rcases Check.firstCase_eq output (checks otherwise)
      (cases.map fun entry => (entry.1, checks entry.2)) with heq | ⟨_, hmem, heq⟩
    · rw [heq] at hlast
      exact (hotherwise input fault hlast).under .otherwise
    · obtain ⟨entry, hentry, rfl⟩ := List.mem_map.mp hmem
      rw [heq] at hlast
      exact (hcases entry hentry input fault hlast).under (.case hentry)

theorem continueWith {inner : Validator} {next : Output → Validator}
    (hinner : Blames body inner (checks inner))
    (hnext : ∀ output, Blames body (next output) (checks (next output))) :
    Blames body (.continueWith inner next)
      (Check.continueWith (checks inner) fun output => checks (next output)) := by
  intro input fault hfails
  rcases Check.fails_continueWith.mp hfails with hfirst | ⟨output, _, hlast⟩
  · exact (hinner input fault hfirst).under .continued
  · exact (hnext output input fault hlast).under (.continuation output)

end Blames

theorem blames_compositional (body : String → Validator) :
    Compositional body (fun _ => True) (Blames body) where
  exhausted _ _ _ hfails := absurd hfails (by simp [Run.Fails, Run.exhausted])
  string := .of_passes rfl Check.string_passes
  number := .number
  boolean := .of_passes rfl Check.boolean_passes
  undefined := .of_passes rfl Check.undefined_passes
  anything _ _ hfails := absurd hfails (Run.not_fails_ofValue _ _)
  array := .of_passes rfl Check.array_passes
  object := .of_passes rfl Check.object_passes
  constant literal accepts _ := .constant literal accepts
  always _ _ _ _ hfails := absurd hfails (Run.not_fails_ofValue _ _)
  never message _ input fault hfails := by
    obtain rfl := (Run.fails_ofReason _ _).mp hfails
    exact Complaint.rejected.blamed
  record _ _ _ hfaithful h := .record hfaithful h
  closedRecord _ _ _ hfaithful h := .closedRecord hfaithful h
  dictionary _ _ _ h := h.dictionary
  list _ _ _ h := h.list
  tuple _ _ _ h := .tuple h
  optional _ _ _ h := h.optional
  firstOf _ _ _ _ := .firstOf _
  intersection _ _ _ _ h := .intersection h
  fallback default _ _ _ _ _ _ hfails := absurd hfails (Check.fallback_not_fails default)
  follow path _ _ _ h := h.follow path
  map _ _ _ _ h input fault hfails := (h input fault (Check.fails_map.mp hfails)).under .changed
  ensure accepts reason _ _ _ h := h.ensure accepts reason
  select _ _ _ _ _ hinner hcases hotherwise := .select hinner hcases hotherwise
  continueWith _ _ _ _ hinner hnext := .continueWith hinner hnext
  rebuilt _ _ h input fault hfails := (h input fault hfails).under .rebuilt
  remembered _ _ h input fault hfails := (h input fault hfails).under .remembered
  shared _ _ _ h input fault hfails := (h input fault hfails).under .inUse

/-- Some part is to blame for any fault, however deep references are followed. -/
theorem blamed_of_fails {stages : Nat}
    (h : (validator.interpret (.forgetful body stages) 0 input).Fails fault) :
    Blamed body validator input fault :=
  (blames_compositional body).forgetful stages validator (fun _ _ => trivial) input fault h

end Validator

end JsonValidators
