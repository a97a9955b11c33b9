import JsonValidators.Validator

/-!
The parts of an expression, and induction over expressions with one motive. Parts
that come in lists are reached by membership, and every validator that a
continuation can make counts as a part.
-/

namespace JsonValidators.Validator

/-- The first expression stands directly below the second. -/
inductive Part : Validator → Validator → Prop
  | field {declarations : List (String × Validator)} {entry : String × Validator} :
      entry ∈ declarations → Part entry.2 (record declarations)
  | closedField {declarations : List (String × Validator)} {entry : String × Validator} :
      entry ∈ declarations → Part entry.2 (closedRecord declarations)
  | value {value : Validator} : Part value (dictionary value)
  | element {element : Validator} : Part element (list element)
  | position {elements : List Validator} {element : Validator} :
      element ∈ elements → Part element (tuple elements)
  | present {inner : Validator} : Part inner (optional inner)
  | branch {branches : List Validator} {branch : Validator} :
      branch ∈ branches → Part branch (firstOf branches)
  | conjunct {parts : List Validator} {part : Validator} :
      part ∈ parts → Part part (intersection parts)
  | tried {default : Output} {inner : Validator} : Part inner (fallback default inner)
  | found {path : Path} {inner : Validator} : Part inner (follow path inner)
  | changed {change : Output → Output} {inner : Validator} : Part inner (map change inner)
  | restricted {accepts : Output → Bool} {reason : Reason} {inner : Validator} :
      Part inner (ensure accepts reason inner)
  | selector {inner otherwise : Validator} {cases : List ((Output → Bool) × Validator)} :
      Part inner (select inner cases otherwise)
  | case {inner otherwise : Validator} {cases : List ((Output → Bool) × Validator)}
      {entry : (Output → Bool) × Validator} :
      entry ∈ cases → Part entry.2 (select inner cases otherwise)
  | otherwise {inner otherwise : Validator} {cases : List ((Output → Bool) × Validator)} :
      Part otherwise (select inner cases otherwise)
  | continued {inner : Validator} {next : Output → Validator} :
      Part inner (continueWith inner next)
  | continuation {inner : Validator} {next : Output → Validator} (output : Output) :
      Part (next output) (continueWith inner next)
  | inUse {base : Nat} {inner : Validator} : Part inner (shared base inner)

/-- The first expression is the second or stands anywhere below it. -/
inductive Within (validator : Validator) : Validator → Prop
  | refl : Within validator validator
  | deeper {part whole : Validator} : Within validator part → Part part whole →
      Within validator whole

@[elab_as_elim, induction_eliminator]
theorem induction {P : Validator → Prop}
    (string : P .string) (number : P .number) (boolean : P .boolean)
    (undefined : P .undefined) (anything : P .anything) (array : P .array) (object : P .object)
    (constant : ∀ literal accepts, P (.constant literal accepts))
    (always : ∀ output, P (.always output))
    (never : ∀ message, P (.never message))
    (record : ∀ declarations, (∀ entry ∈ declarations, P entry.2) → P (.record declarations))
    (closedRecord : ∀ declarations, (∀ entry ∈ declarations, P entry.2) →
      P (.closedRecord declarations))
    (dictionary : ∀ value, P value → P (.dictionary value))
    (list : ∀ element, P element → P (.list element))
    (tuple : ∀ elements, (∀ element ∈ elements, P element) → P (.tuple elements))
    (optional : ∀ inner, P inner → P (.optional inner))
    (firstOf : ∀ branches, (∀ branch ∈ branches, P branch) → P (.firstOf branches))
    (intersection : ∀ parts, (∀ part ∈ parts, P part) → P (.intersection parts))
    (fallback : ∀ default inner, P inner → P (.fallback default inner))
    (follow : ∀ path inner, P inner → P (.follow path inner))
    (map : ∀ change inner, P inner → P (.map change inner))
    (ensure : ∀ accepts reason inner, P inner → P (.ensure accepts reason inner))
    (select : ∀ inner cases otherwise, P inner → (∀ entry ∈ cases, P entry.2) → P otherwise →
      P (.select inner cases otherwise))
    (continueWith : ∀ inner next, P inner → (∀ output, P (next output)) →
      P (.continueWith inner next))
    (rebuilt : ∀ definition, P (.rebuilt definition))
    (remembered : ∀ definition, P (.remembered definition))
    (shared : ∀ base inner, P inner → P (.shared base inner))
    (validator : Validator) : P validator :=
  @Validator.rec P (fun declarations => ∀ entry ∈ declarations, P entry.2)
    (fun validators => ∀ validator ∈ validators, P validator)
    (fun cases => ∀ entry ∈ cases, P entry.2) (fun entry => P entry.2) (fun entry => P entry.2)
    string number boolean undefined anything array object constant always never record
    closedRecord dictionary list tuple optional firstOf intersection fallback follow map ensure
    select continueWith rebuilt remembered shared
    (by simp) (fun _ _ head tail => List.forall_mem_cons.mpr ⟨head, tail⟩)
    (by simp) (fun _ _ head tail => List.forall_mem_cons.mpr ⟨head, tail⟩)
    (by simp) (fun _ _ head tail => List.forall_mem_cons.mpr ⟨head, tail⟩)
    (fun _ _ part => part) (fun _ _ part => part) validator

/-- Every expression below this one, itself included, is of a certain form. -/
def Throughout (Form : Validator → Prop) (validator : Validator) : Prop :=
  ∀ part, Within part validator → Form part

section Throughout

variable {Form Form' : Validator → Prop} {part validator : Validator}

theorem Throughout.self (h : Throughout Form validator) : Form validator := h validator .refl

theorem Throughout.parts (h : Throughout Form validator) (hpart : Part part validator) :
    Throughout Form part := fun inner hinner => h inner (.deeper hinner hpart)

theorem Throughout.imp (h : Throughout Form validator)
    (himp : ∀ part, Form part → Form' part) : Throughout Form' validator :=
  fun part hpart => himp part (h part hpart)

/-- A form is found throughout an expression if it is found there and throughout
all that stands directly below. -/
theorem throughout_iff : Throughout Form validator ↔
    Form validator ∧ ∀ part, Part part validator → Throughout Form part := by
  constructor
  · exact fun h => ⟨h.self, fun part hpart => h.parts hpart⟩
  · rintro ⟨hself, hparts⟩ part hwithin
    cases hwithin with
    | refl => exact hself
    | deeper hinner hpart => exact hparts _ hpart _ hinner

theorem throughout_iff_self (h : ∀ part, ¬ Part part validator) :
    Throughout Form validator ↔ Form validator :=
  ⟨Throughout.self, fun hself => throughout_iff.mpr ⟨hself, fun part hpart => absurd hpart (h part)⟩⟩

theorem throughout_iff_inner {inner : Validator} (h : ∀ part, Part part validator ↔ part = inner) :
    Throughout Form validator ↔ Form validator ∧ Throughout Form inner := by
  rw [throughout_iff]
  simp only [h, forall_eq]

/-- The expressions directly below are those that members of a list come with. -/
theorem throughout_iff_members {ι : Type} {members : List ι} {parts : ι → Validator}
    (h : ∀ part, Part part validator ↔ ∃ member ∈ members, parts member = part) :
    Throughout Form validator ↔
      Form validator ∧ ∀ member ∈ members, Throughout Form (parts member) := by
  rw [throughout_iff]
  refine and_congr_right fun _ => ⟨fun hparts member hmember => ?_, fun hmembers part hpart => ?_⟩
  · exact hparts _ ((h _).mpr ⟨member, hmember, rfl⟩)
  · obtain ⟨member, hmember, rfl⟩ := (h part).mp hpart
    exact hmembers member hmember

@[simp] theorem throughout_string : Throughout Form string ↔ Form string :=
  throughout_iff_self nofun

@[simp] theorem throughout_constant {literal : Literal} {accepts : Json → Json → Bool} :
    Throughout Form (constant literal accepts) ↔ Form (constant literal accepts) :=
  throughout_iff_self nofun

@[simp] theorem throughout_remembered {definition : String} :
    Throughout Form (remembered definition) ↔ Form (remembered definition) :=
  throughout_iff_self nofun

@[simp] theorem throughout_record {declarations : List (String × Validator)} :
    Throughout Form (record declarations) ↔
      Form (record declarations) ∧ ∀ entry ∈ declarations, Throughout Form entry.2 := by
  refine throughout_iff_members fun part => ⟨fun hpart => ?_, ?_⟩
  · cases hpart with
    | field hentry => exact ⟨_, hentry, rfl⟩
  · rintro ⟨entry, hentry, rfl⟩
    exact .field hentry

@[simp] theorem throughout_closedRecord {declarations : List (String × Validator)} :
    Throughout Form (closedRecord declarations) ↔
      Form (closedRecord declarations) ∧ ∀ entry ∈ declarations, Throughout Form entry.2 := by
  refine throughout_iff_members fun part => ⟨fun hpart => ?_, ?_⟩
  · cases hpart with
    | closedField hentry => exact ⟨_, hentry, rfl⟩
  · rintro ⟨entry, hentry, rfl⟩
    exact .closedField hentry

@[simp] theorem throughout_dictionary {value : Validator} :
    Throughout Form (dictionary value) ↔ Form (dictionary value) ∧ Throughout Form value := by
  refine throughout_iff_inner fun part => ⟨fun hpart => ?_, ?_⟩
  · cases hpart
    rfl
  · rintro rfl
    exact .value

@[simp] theorem throughout_list {element : Validator} :
    Throughout Form (list element) ↔ Form (list element) ∧ Throughout Form element := by
  refine throughout_iff_inner fun part => ⟨fun hpart => ?_, ?_⟩
  · cases hpart
    rfl
  · rintro rfl
    exact .element

@[simp] theorem throughout_optional {inner : Validator} :
    Throughout Form (optional inner) ↔ Form (optional inner) ∧ Throughout Form inner := by
  refine throughout_iff_inner fun part => ⟨fun hpart => ?_, ?_⟩
  · cases hpart
    rfl
  · rintro rfl
    exact .present

@[simp] theorem throughout_firstOf {branches : List Validator} :
    Throughout Form (firstOf branches) ↔
      Form (firstOf branches) ∧ ∀ branch ∈ branches, Throughout Form branch := by
  refine throughout_iff_members fun part => ⟨fun hpart => ?_, ?_⟩
  · cases hpart with
    | branch hbranch => exact ⟨_, hbranch, rfl⟩
  · rintro ⟨branch, hbranch, rfl⟩
    exact .branch hbranch

@[simp] theorem throughout_intersection {parts : List Validator} :
    Throughout Form (intersection parts) ↔
      Form (intersection parts) ∧ ∀ part ∈ parts, Throughout Form part := by
  refine throughout_iff_members fun part => ⟨fun hpart => ?_, ?_⟩
  · cases hpart with
    | conjunct hmem => exact ⟨_, hmem, rfl⟩
  · rintro ⟨part, hmem, rfl⟩
    exact .conjunct hmem

end Throughout

end JsonValidators.Validator
