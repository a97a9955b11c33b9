import JsonValidators.Proofs.Meaning
import JsonValidators.Proofs.Runs

/-!
What an expression comes to be made of when the definitions that it refers to are
followed, and induction over it. A property of checks that carries over from the parts
of an expression to the expression, and from a definition to the references to it,
holds at every depth to which references are followed.
-/

namespace JsonValidators.Validator

variable (body : String → Validator)

/-- The expressions that an expression comes to be made of, definitions included. -/
inductive Unfolds (whole : Validator) : Validator → Prop
  | refl : Unfolds whole whole
  | part {part validator : Validator} :
      Unfolds whole validator → Part part validator → Unfolds whole part
  | rebuilt {definition : String} :
      Unfolds whole (rebuilt definition) → Unfolds whole (body definition)
  | remembered {definition : String} :
      Unfolds whole (remembered definition) → Unfolds whole (body definition)

/-- All that an expression comes to be made of is of a certain form. -/
def MadeOf (Form : Validator → Prop) (validator : Validator) : Prop :=
  ∀ part, Unfolds body validator part → Form part

variable {body} {Form : Validator → Prop} {validator : Validator}

theorem Unfolds.trans {whole part : Validator} (h : Unfolds body whole validator)
    (hpart : Unfolds body validator part) : Unfolds body whole part := by
  induction hpart with
  | refl => exact h
  | part _ hbelow ih => exact .part ih hbelow
  | rebuilt _ ih => exact .rebuilt ih
  | remembered _ ih => exact .remembered ih

theorem MadeOf.self (h : validator.MadeOf body Form) : Form validator := h validator .refl

theorem MadeOf.unfold {part : Validator} (h : validator.MadeOf body Form)
    (hunfolds : Unfolds body validator part) : part.MadeOf body Form :=
  fun inner hinner => h inner (hunfolds.trans hinner)

theorem MadeOf.parts {part : Validator} (h : validator.MadeOf body Form)
    (hpart : Part part validator) : part.MadeOf body Form := h.unfold (.part .refl hpart)

/-- All that stands below an expression is something that it comes to be made of. -/
theorem Unfolds.of_within {part : Validator} (h : Within part validator) :
    Unfolds body validator part := by
  induction h with
  | refl => exact .refl
  | deeper _ hpart ih => exact Unfolds.trans (.part .refl hpart) ih

theorem MadeOf.throughout (h : validator.MadeOf body Form) :
    validator.Throughout fun part => part.MadeOf body Form :=
  fun _ hpart => h.unfold (.of_within hpart)

/-- An expression that is no reference comes to be made of what its parts are made of. -/
theorem MadeOf.of_parts (hform : Form validator)
    (hparts : ∀ part, Part part validator → part.MadeOf body Form)
    (hrebuilt : ∀ definition, validator ≠ rebuilt definition)
    (hremembered : ∀ definition, validator ≠ remembered definition) :
    validator.MadeOf body Form := by
  have hunfolds : ∀ part, Unfolds body validator part →
      part = validator ∨ ∃ first, Part first validator ∧ Unfolds body first part := by
    intro part hpart
    induction hpart with
    | refl => exact .inl rfl
    | part _ hbelow ih =>
      rcases ih with rfl | ⟨first, hfirst, hrest⟩
      · exact .inr ⟨_, hbelow, .refl⟩
      · exact .inr ⟨first, hfirst, .part hrest hbelow⟩
    | rebuilt _ ih =>
      rcases ih with heq | ⟨first, hfirst, hrest⟩
      · exact absurd heq.symm (hrebuilt _)
      · exact .inr ⟨first, hfirst, .rebuilt hrest⟩
    | remembered _ ih =>
      rcases ih with heq | ⟨first, hfirst, hrest⟩
      · exact absurd heq.symm (hremembered _)
      · exact .inr ⟨first, hfirst, .remembered hrest⟩
  intro part hpart
  rcases hunfolds part hpart with rfl | ⟨first, hfirst, hrest⟩
  · exact hform
  · exact hparts first hfirst part hrest

/-- A form that is found throughout an expression and throughout all definitions. -/
theorem madeOf_of_throughout (hbody : ∀ definition, (body definition).Throughout Form)
    (h : validator.Throughout Form) : validator.MadeOf body Form := by
  intro part hunfolds
  refine Throughout.self ?_
  induction hunfolds with
  | refl => exact h
  | part _ hbelow ih => exact ih.parts hbelow
  | rebuilt _ _ => exact hbody _
  | remembered _ _ => exact hbody _

/-- Checks that say nothing else than what their expressions come to. -/
def Faithful (body : String → Validator) (checks : Validator → Check Unit) : Prop :=
  ∀ validator input outcome, checks validator input () = some (outcome, ()) →
    validator.result? body input = some outcome

theorem forgetful_faithful (body : String → Validator) (stages : Nat) :
    Faithful body fun validator => validator.interpret (.forgetful body stages) 0 := by
  intro validator input outcome hrun
  have houtcome : validator.outcome? body stages input = some outcome :=
    congrArg (Option.map Prod.fst) hrun
  exact result?_of_outcome? body houtcome

theorem yields_meaning {input : Option Json} {output : Output} :
    (validator.meaning body input).Yields output ↔
      validator.result? body input = some (.ok output) := meaning_eq_some_iff body

theorem fails_meaning {input : Option Json} {fault : Fault} :
    (validator.meaning body input).Fails fault ↔
      validator.result? body input = some (.error fault) := meaning_eq_some_iff body

/-- A relation between expressions of a form and their checks that carries over from
the parts of an expression, and from what a reference stands for. It also has to hold
of a check that never ends. -/
structure Compositional (body : String → Validator) (Form : Validator → Prop)
    (Holds : Validator → Check Unit → Prop) : Prop where
  exhausted : ∀ validator, Holds validator fun _ => Run.exhausted
  string : Holds .string Check.string
  number : Holds .number Check.number
  boolean : Holds .boolean Check.boolean
  undefined : Holds .undefined Check.undefined
  anything : Holds .anything Check.anything
  array : Holds .array Check.array
  object : Holds .object Check.object
  constant : ∀ literal accepts, Form (.constant literal accepts) →
    Holds (.constant literal accepts) (Check.constant literal accepts)
  always : ∀ output, Form (.always output) → Holds (.always output) (Check.always output)
  never : ∀ message, Form (.never message) → Holds (.never message) (Check.never message)
  record : ∀ declarations checks, Form (.record declarations) → Faithful body checks →
    (∀ entry ∈ Entries.ofList declarations, Holds entry.2 (checks entry.2)) →
      Holds (.record declarations)
        (Check.record ((Entries.ofList declarations).map fun entry => (entry.1, checks entry.2)))
  closedRecord : ∀ declarations checks, Form (.closedRecord declarations) →
    Faithful body checks →
      (∀ entry ∈ Entries.ofList declarations, Holds entry.2 (checks entry.2)) →
        Holds (.closedRecord declarations) (Check.closedRecord
          ((Entries.ofList declarations).map fun entry => (entry.1, checks entry.2)))
  dictionary : ∀ value check, Form (.dictionary value) → Holds value check →
    Holds (.dictionary value) (Check.dictionary check)
  list : ∀ element check, Form (.list element) → Holds element check →
    Holds (.list element) (Check.list check)
  tuple : ∀ elements checks, Form (.tuple elements) →
    (∀ element ∈ elements, Holds element (checks element)) →
      Holds (.tuple elements) (Check.tuple (elements.map checks))
  optional : ∀ inner check, Form (.optional inner) → Holds inner check →
    Holds (.optional inner) (Check.optional check)
  firstOf : ∀ branches checks, Form (.firstOf branches) →
    (∀ branch ∈ branches, Holds branch (checks branch)) →
      Holds (.firstOf branches) (Check.firstOf (branches.map checks))
  intersection : ∀ parts checks, Form (.intersection parts) → Faithful body checks →
    (∀ part ∈ parts, Holds part (checks part)) →
      Holds (.intersection parts) (Check.intersection (parts.map checks))
  fallback : ∀ default inner check, Form (.fallback default inner) → Holds inner check →
    Holds (.fallback default inner) (Check.fallback default check)
  follow : ∀ path inner check, Form (.follow path inner) → Holds inner check →
    Holds (.follow path inner) (Check.follow path check)
  map : ∀ change inner check, Form (.map change inner) → Holds inner check →
    Holds (.map change inner) (Check.map change check)
  ensure : ∀ accepts reason inner check, Form (.ensure accepts reason inner) →
    Holds inner check → Holds (.ensure accepts reason inner) (Check.ensure accepts reason check)
  select : ∀ inner cases otherwise (checks : Validator → Check Unit),
    Form (.select inner cases otherwise) → Holds inner (checks inner) →
      (∀ entry ∈ cases, Holds entry.2 (checks entry.2)) → Holds otherwise (checks otherwise) →
        Holds (.select inner cases otherwise)
          (Check.continueWith (checks inner) fun output =>
            Check.firstCase output (checks otherwise)
              (cases.map fun entry => (entry.1, checks entry.2)))
  continueWith : ∀ inner next (checks : Validator → Check Unit),
    Form (.continueWith inner next) → Holds inner (checks inner) →
      (∀ output, Holds (next output) (checks (next output))) → Holds (.continueWith inner next)
          (Check.continueWith (checks inner) fun output => checks (next output))
  rebuilt : ∀ definition check, Holds (body definition) check → Holds (.rebuilt definition) check
  remembered : ∀ definition check, Holds (body definition) check →
    Holds (.remembered definition) check
  shared : ∀ base inner check, Holds inner check → Holds (.shared base inner) check

namespace Compositional

variable {Holds : Validator → Check Unit → Prop}

/-- One more reference may be followed. -/
theorem step (h : Compositional body Form Holds) (stages : Nat)
    (hbuild : ∀ definition, (body definition).MadeOf body Form →
      Holds (body definition) ((Construction.forgetful body stages).build definition))
    (validator : Validator) (hform : validator.MadeOf body Form) :
    Holds validator (validator.interpret (.forgetful body stages) 0) := by
  have hplaceless := Construction.forgetful_placeless body stages
  have hfaithful := forgetful_faithful body stages
  induction validator with
  | string => exact h.string
  | number => exact h.number
  | boolean => exact h.boolean
  | undefined => exact h.undefined
  | anything => exact h.anything
  | array => exact h.array
  | object => exact h.object
  | constant literal accepts => exact h.constant _ _ hform.self
  | always output => exact h.always _ hform.self
  | never message => exact h.never _ hform.self
  | record declarations ih =>
    rw [hplaceless.interpret_record]
    refine h.record declarations _ hform.self hfaithful fun entry hentry => ?_
    have hmem := Entries.mem_ofList hentry
    exact ih entry hmem (hform.parts (.field hmem))
  | closedRecord declarations ih =>
    rw [hplaceless.interpret_closedRecord]
    refine h.closedRecord declarations _ hform.self hfaithful fun entry hentry => ?_
    have hmem := Entries.mem_ofList hentry
    exact ih entry hmem (hform.parts (.closedField hmem))
  | dictionary value ih => exact h.dictionary _ _ hform.self (ih (hform.parts .value))
  | list element ih => exact h.list _ _ hform.self (ih (hform.parts .element))
  | tuple elements ih =>
    rw [hplaceless.interpret_tuple]
    exact h.tuple _ _ hform.self fun element hmem => ih element hmem (hform.parts (.position hmem))
  | optional inner ih => exact h.optional _ _ hform.self (ih (hform.parts .present))
  | firstOf branches ih =>
    rw [hplaceless.interpret_firstOf]
    exact h.firstOf _ _ hform.self fun branch hmem => ih branch hmem (hform.parts (.branch hmem))
  | intersection parts ih =>
    rw [hplaceless.interpret_intersection]
    exact h.intersection _ _ hform.self hfaithful
      fun part hmem => ih part hmem (hform.parts (.conjunct hmem))
  | fallback default inner ih => exact h.fallback _ _ _ hform.self (ih (hform.parts .tried))
  | follow path inner ih => exact h.follow _ _ _ hform.self (ih (hform.parts .found))
  | map change inner ih => exact h.map _ _ _ hform.self (ih (hform.parts .changed))
  | ensure accepts reason inner ih =>
    exact h.ensure _ _ _ _ hform.self (ih (hform.parts .restricted))
  | select inner cases otherwise ihinner ihcases ihotherwise =>
    rw [hplaceless.interpret_select]
    exact h.select _ _ _ (fun validator => validator.interpret _ 0) hform.self
      (ihinner (hform.parts .selector))
      (fun entry hmem => ihcases entry hmem (hform.parts (.case hmem)))
      (ihotherwise (hform.parts .otherwise))
  | continueWith inner next ihinner ihnext =>
    rw [hplaceless.interpret_continueWith]
    exact h.continueWith _ _ (fun validator => validator.interpret _ 0) hform.self
      (ihinner (hform.parts .continued))
      fun output => ihnext output (hform.parts (.continuation output))
  | rebuilt definition =>
    exact h.rebuilt _ _ (hbuild definition (hform.unfold (.rebuilt .refl)))
  | remembered definition =>
    have hremember : (Construction.forgetful body stages).remember definition 0 =
        (Construction.forgetful body stages).build definition := by cases stages <;> rfl
    rw [interpret, hremember]
    exact h.remembered _ _ (hbuild definition (hform.unfold (.remembered .refl)))
  | shared base inner ih =>
    rw [hplaceless.interpret_shared]
    exact h.shared _ _ _ (ih (hform.parts .inUse))

theorem forgetful (h : Compositional body Form Holds) (stages : Nat) (validator : Validator)
    (hform : validator.MadeOf body Form) :
    Holds validator (validator.interpret (.forgetful body stages) 0) := by
  induction stages generalizing validator with
  | zero => exact h.step 0 (fun definition _ => h.exhausted (body definition)) validator hform
  | succ n ih =>
    exact h.step (n + 1) (fun definition hdefinition => ih _ hdefinition) validator hform

end Compositional

end JsonValidators.Validator
