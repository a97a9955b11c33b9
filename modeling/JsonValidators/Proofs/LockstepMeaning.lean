import JsonValidators.Proofs.Lockstep
import JsonValidators.Proofs.Parts

/-!
A lockstep between ways of building carries over to the meaning of expressions.
The cells of an expression are described by the definitions that they are for; a
seat says where a cell for a definition may stand on either side.
-/

namespace JsonValidators

namespace Validator

mutual

/-- The definitions that the memo cells of an expression are for, in order. -/
def cellNames : Validator → List String
  | remembered definition => [definition]
  | record declarations => fieldCellNames declarations
  | closedRecord declarations => fieldCellNames declarations
  | dictionary value => cellNames value
  | list element => cellNames element
  | tuple elements => listCellNames elements
  | optional inner => cellNames inner
  | firstOf branches => listCellNames branches
  | intersection parts => listCellNames parts
  | fallback _ inner => cellNames inner
  | follow _ inner => cellNames inner
  | map _ inner => cellNames inner
  | ensure _ _ inner => cellNames inner
  | select inner cases otherwise =>
    cellNames inner ++ (caseCellNames cases ++ cellNames otherwise)
  | continueWith inner _ => cellNames inner
  | _ => []

def listCellNames : List Validator → List String
  | [] => []
  | validator :: rest => cellNames validator ++ listCellNames rest

def fieldCellNames : List (String × Validator) → List String
  | [] => []
  | (_, validator) :: rest => cellNames validator ++ fieldCellNames rest

def caseCellNames : List ((Output → Bool) × Validator) → List String
  | [] => []
  | (_, validator) :: rest => cellNames validator ++ caseCellNames rest

end

mutual

@[simp] theorem length_cellNames (validator : Validator) :
    (cellNames validator).length = cells validator := by
  cases validator <;>
    simp [cellNames, cells, length_cellNames, length_listCellNames, length_fieldCellNames,
      length_caseCellNames]

@[simp] theorem length_listCellNames (validators : List Validator) :
    (listCellNames validators).length = listCells validators := by
  cases validators <;> simp [listCellNames, listCells, length_cellNames, length_listCellNames]

@[simp] theorem length_fieldCellNames (declarations : List (String × Validator)) :
    (fieldCellNames declarations).length = fieldCells declarations := by
  cases declarations <;>
    simp [fieldCellNames, fieldCells, length_cellNames, length_fieldCellNames]

@[simp] theorem length_caseCellNames (cases : List ((Output → Bool) × Validator)) :
    (caseCellNames cases).length = caseCells cases := by
  cases cases <;> simp [caseCellNames, caseCells, length_cellNames, length_caseCellNames]

end

end Validator

/-- Cells from two bases on, for definitions in order, stand in their seats. -/
def Seats (seat : Nat → Nat → String → Prop) (names : List String) (base base' : Nat) : Prop :=
  ∀ (place : Nat) (definition : String), names[place]? = some definition →
    seat (base + place) (base' + place) definition

theorem Seats.append {seat : Nat → Nat → String → Prop} {first second : List String}
    {base base' : Nat} (h : Seats seat (first ++ second) base base') :
    Seats seat first base base' ∧
      Seats seat second (base + first.length) (base' + first.length) := by
  constructor
  · intro place definition hplace
    refine h place definition ?_
    rw [List.getElem?_append_left (List.getElem?_eq_some_iff.mp hplace).1, hplace]
  · intro place definition hplace
    rw [Nat.add_assoc, Nat.add_assoc]
    refine h _ definition ?_
    rw [List.getElem?_append_right (by omega), Nat.add_sub_cancel_left, hplace]

theorem Seats.imp {seat seat' : Nat → Nat → String → Prop} {names : List String}
    {base base' : Nat} (h : Seats seat names base base')
    (himp : ∀ cell cell' definition, seat cell cell' definition → seat' cell cell' definition) :
    Seats seat' names base base' :=
  fun place definition hplace => himp _ _ definition (h place definition hplace)

/-- The cells of the validators in use that an expression mentions stand in their
seats. These cells have one place, whichever side they are seen from. -/
def Validator.Linked (seat : Nat → Nat → String → Prop) : Validator → Prop :=
  Validator.Throughout fun
    | .shared base inner => Seats seat inner.cellNames base base
    | _ => True

theorem Validator.Linked.imp {seat seat' : Nat → Nat → String → Prop} {validator : Validator}
    (h : validator.Linked seat)
    (himp : ∀ cell cell' definition, seat cell cell' definition → seat' cell cell' definition) :
    validator.Linked seat' := by
  refine Throughout.imp h fun part hpart => ?_
  cases part with
  | shared base inner => exact Seats.imp hpart himp
  | _ => trivial

theorem linked_of_seats {seat : Nat → Nat → String → Prop}
    (h : ∀ names base, Seats seat names base base) (validator : Validator) :
    validator.Linked seat := by
  intro part _
  cases part with
  | shared base inner => exact h inner.cellNames base
  | _ => trivial

namespace Lockstep

variable {σ τ ι : Type}

/-- Ways of building that keep step wherever a cell stands in its seat. -/
structure Builders (step : Lockstep σ τ ι) (seat : step.World → Nat → Nat → String → Prop)
    (make : Construction σ) (makes : ι → Construction τ) : Prop where
  seat_mono : ∀ {w w' : step.World} {cell cell' : Nat} {definition : String},
    step.Later w w' → seat w cell cell' definition → seat w' cell cell' definition
  build : ∀ (w : step.World) (definition : String),
    step.Checks w (make.build definition) fun i => (makes i).build definition
  remember : ∀ {w : step.World} {cell cell' : Nat} {definition : String},
    seat w cell cell' definition →
      step.Checks w (make.remember definition cell) fun i => (makes i).remember definition cell'
  place : ∀ (w : step.World) (names : List String) (next : Nat → Run σ Output)
    (nexts : ι → Nat → Run τ Output),
    (∀ w' base base', step.Later w w' → Seats (seat w') names base base' →
      step.Holds w' (next base) fun i => nexts i base') →
    step.Holds w (make.place names.length next) fun i => (makes i).place names.length (nexts i)

/-- Ways of building that keep step as far as expressions of a form ask for it. -/
structure BuildersFor (Form : Validator → Prop) (step : Lockstep σ τ ι)
    (seat : step.World → Nat → Nat → String → Prop) (make : Construction σ)
    (makes : ι → Construction τ) : Prop where
  seat_mono : ∀ {w w' : step.World} {cell cell' : Nat} {definition : String},
    step.Later w w' → seat w cell cell' definition → seat w' cell cell' definition
  build : ∀ {definition : String}, Form (.rebuilt definition) → ∀ w : step.World,
    step.Checks w (make.build definition) fun i => (makes i).build definition
  remember : ∀ {definition : String}, Form (.remembered definition) →
    ∀ {w : step.World} {cell cell' : Nat}, seat w cell cell' definition →
      step.Checks w (make.remember definition cell) fun i => (makes i).remember definition cell'
  place : ∀ {inner : Validator} {onward : Output → Validator}, Form (.continueWith inner onward) →
    ∀ (w : step.World) (names : List String) (next : Nat → Run σ Output)
      (nexts : ι → Nat → Run τ Output),
      (∀ w' base base', step.Later w w' → Seats (seat w') names base base' →
        step.Holds w' (next base) fun i => nexts i base') →
      step.Holds w (make.place names.length next)
        fun i => (makes i).place names.length (nexts i)

namespace Builders

variable {step : Lockstep σ τ ι} {seat : step.World → Nat → Nat → String → Prop}
  {make : Construction σ} {makes : ι → Construction τ}

/-- An expression keeps step with itself in two places. -/
def Keeps (step : Lockstep σ τ ι) (seat : step.World → Nat → Nat → String → Prop)
    (make : Construction σ) (makes : ι → Construction τ) (validator : Validator) : Prop :=
  ∀ (w : step.World) (base base' : Nat), Seats (seat w) validator.cellNames base base' →
    validator.Linked (seat w) →
      step.Checks w (validator.interpret make base) fun i => validator.interpret (makes i) base'

theorem keeps_list {w : step.World} {validators : List Validator} {base base' : Nat}
    (hkeeps : ∀ validator ∈ validators, Keeps step seat make makes validator)
    (hseats : Seats (seat w) (Validator.listCellNames validators) base base')
    (hlinked : ∀ validator ∈ validators, validator.Linked (seat w)) :
    step.Lists w (Validator.interpretList make validators base)
      fun i => Validator.interpretList (makes i) validators base' := by
  induction validators generalizing base base' with
  | nil => exact .nil
  | cons validator rest ih =>
    obtain ⟨hkeep, hkeeps⟩ := List.forall_mem_cons.mp hkeeps
    obtain ⟨hlink, hlinked⟩ := List.forall_mem_cons.mp hlinked
    obtain ⟨hhead, htail⟩ := Seats.append hseats
    rw [Validator.length_cellNames] at htail
    exact .cons (hkeep w base base' hhead hlink) (ih hkeeps htail hlinked)

theorem keeps_fields {w : step.World} {declarations : List (String × Validator)}
    {base base' : Nat}
    (hkeeps : ∀ entry ∈ declarations, Keeps step seat make makes entry.2)
    (hseats : Seats (seat w) (Validator.fieldCellNames declarations) base base')
    (hlinked : ∀ entry ∈ declarations, entry.2.Linked (seat w)) :
    step.Rows w (Validator.interpretFields make declarations base)
      fun i => Validator.interpretFields (makes i) declarations base' := by
  induction declarations generalizing base base' with
  | nil => exact .nil
  | cons entry rest ih =>
    obtain ⟨hkeep, hkeeps⟩ := List.forall_mem_cons.mp hkeeps
    obtain ⟨hlink, hlinked⟩ := List.forall_mem_cons.mp hlinked
    obtain ⟨hhead, htail⟩ := Seats.append hseats
    rw [Validator.length_cellNames] at htail
    exact .cons entry.1 (hkeep w base base' hhead hlink) (ih hkeeps htail hlinked)

theorem keeps_cases {w : step.World} {cases : List ((Output → Bool) × Validator)}
    {base base' : Nat}
    (hkeeps : ∀ entry ∈ cases, Keeps step seat make makes entry.2)
    (hseats : Seats (seat w) (Validator.caseCellNames cases) base base')
    (hlinked : ∀ entry ∈ cases, entry.2.Linked (seat w)) :
    step.Rows w (Validator.interpretCases make cases base)
      fun i => Validator.interpretCases (makes i) cases base' := by
  induction cases generalizing base base' with
  | nil => exact .nil
  | cons entry rest ih =>
    obtain ⟨hkeep, hkeeps⟩ := List.forall_mem_cons.mp hkeeps
    obtain ⟨hlink, hlinked⟩ := List.forall_mem_cons.mp hlinked
    obtain ⟨hhead, htail⟩ := Seats.append hseats
    rw [Validator.length_cellNames] at htail
    exact .cons entry.1 (hkeep w base base' hhead hlink) (ih hkeeps htail hlinked)

/-- An expression of the form keeps step, provided that its cells stand in their seats. -/
theorem keeps_of_form {Form : Validator → Prop} (b : step.BuildersFor Form seat make makes)
    (validator : Validator) (hform : validator.Throughout Form) :
    Keeps step seat make makes validator := by
  induction validator with
  | string => exact fun _ _ _ _ _ => immediate Check.string_immediate
  | number => exact fun _ _ _ _ _ => immediate Check.number_immediate
  | boolean => exact fun _ _ _ _ _ => immediate Check.boolean_immediate
  | undefined => exact fun _ _ _ _ _ => immediate Check.undefined_immediate
  | anything => exact fun _ _ _ _ _ => immediate Check.anything_immediate
  | array => exact fun _ _ _ _ _ => immediate Check.array_immediate
  | object => exact fun _ _ _ _ _ => immediate Check.object_immediate
  | constant literal accepts =>
    exact fun _ _ _ _ _ => immediate (Check.constant_immediate literal accepts)
  | always output => exact fun _ _ _ _ _ => immediate (Check.always_immediate output)
  | never message => exact fun _ _ _ _ _ => immediate (Check.never_immediate message)
  | record declarations ih =>
    intro w base base' hseats hlinked
    refine record (keeps_fields (fun _ h => ih _ h (hform.parts (.field h))) hseats ?_).ofList
    exact fun _ h => hlinked.parts (.field h)
  | closedRecord declarations ih =>
    intro w base base' hseats hlinked
    refine closedRecord
      (keeps_fields (fun _ h => ih _ h (hform.parts (.closedField h))) hseats ?_).ofList
    exact fun _ h => hlinked.parts (.closedField h)
  | dictionary value ih =>
    intro w base base' hseats hlinked
    exact dictionary (ih (hform.parts .value) w base base' hseats (hlinked.parts .value))
  | list element ih =>
    intro w base base' hseats hlinked
    exact list (ih (hform.parts .element) w base base' hseats (hlinked.parts .element))
  | tuple elements ih =>
    intro w base base' hseats hlinked
    refine tuple (keeps_list (fun _ h => ih _ h (hform.parts (.position h))) hseats ?_)
    exact fun _ h => hlinked.parts (.position h)
  | optional inner ih =>
    intro w base base' hseats hlinked
    exact optional (ih (hform.parts .present) w base base' hseats (hlinked.parts .present))
  | firstOf branches ih =>
    intro w base base' hseats hlinked
    refine firstOf (keeps_list (fun _ h => ih _ h (hform.parts (.branch h))) hseats ?_)
    exact fun _ h => hlinked.parts (.branch h)
  | intersection parts ih =>
    intro w base base' hseats hlinked
    refine intersection (keeps_list (fun _ h => ih _ h (hform.parts (.conjunct h))) hseats ?_)
    exact fun _ h => hlinked.parts (.conjunct h)
  | fallback default inner ih =>
    intro w base base' hseats hlinked
    exact fallback default (ih (hform.parts .tried) w base base' hseats (hlinked.parts .tried))
  | follow path inner ih =>
    intro w base base' hseats hlinked
    exact follow path (ih (hform.parts .found) w base base' hseats (hlinked.parts .found))
  | map change inner ih =>
    intro w base base' hseats hlinked
    exact map change (ih (hform.parts .changed) w base base' hseats (hlinked.parts .changed))
  | ensure accepts reason inner ih =>
    intro w base base' hseats hlinked
    exact ensure accepts reason
      (ih (hform.parts .restricted) w base base' hseats (hlinked.parts .restricted))
  | select inner cases otherwise ihinner ihcases ihotherwise =>
    intro w base base' hseats hlinked
    obtain ⟨hinner, hrest⟩ := Seats.append hseats
    obtain ⟨hcases, hotherwise⟩ := Seats.append hrest
    rw [Validator.length_cellNames] at hcases hotherwise
    rw [Validator.length_caseCellNames] at hotherwise
    refine continueWith (ihinner (hform.parts .selector) w base base' hinner
      (hlinked.parts .selector)) fun output => ?_
    refine firstCase output (ihotherwise (hform.parts .otherwise) w _ _ hotherwise
      (hlinked.parts .otherwise)) ?_
    refine keeps_cases (fun _ h => ihcases _ h (hform.parts (.case h))) hcases ?_
    exact fun _ h => hlinked.parts (.case h)
  | continueWith inner next ihinner ihnext =>
    intro w base base' hseats hlinked
    refine continueWith (ihinner (hform.parts .continued) w base base' hseats
      (hlinked.parts .continued)) fun output => ?_
    intro input
    -- What is made from the output takes new cells, which are in use only from here on.
    have hplace := b.place hform.self w (next output).cellNames
      (fun fresh => (next output).interpret make fresh input)
      (fun i fresh => (next output).interpret (makes i) fresh input)
      fun w' fresh fresh' hw hfresh => ihnext output (hform.parts (.continuation output)) w' fresh
        fresh' hfresh (Validator.Linked.imp (hlinked.parts (.continuation output))
          fun _ _ _ => b.seat_mono hw) input
    simpa only [Validator.length_cellNames] using hplace
  | rebuilt definition => exact fun w _ _ _ _ => b.build hform.self w
  | remembered definition =>
    intro w base base' hseats _
    exact b.remember hform.self (hseats 0 definition rfl)
  | shared base inner ih =>
    intro w _ _ _ hlinked
    exact ih (hform.parts .inUse) w base base hlinked.self (hlinked.parts .inUse)

/-- Every expression keeps step, provided that its cells stand in their seats. -/
theorem keeps (b : step.Builders seat make makes) (validator : Validator) :
    Keeps step seat make makes validator := by
  have bform : step.BuildersFor (fun _ => True) seat make makes :=
    ⟨b.seat_mono, fun {definition} _ w => b.build w definition, fun _ => b.remember,
      fun _ => b.place⟩
  exact keeps_of_form bform validator fun _ _ => trivial

end Builders

end Lockstep

end JsonValidators
