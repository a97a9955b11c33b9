import JsonValidators.Proofs.Meaning

/-!
Expressions with other expressions in place of remembering references and of
validators in use. A validator without its memory, a validator written out, and a
validator with its clones put in are all made in this way.
-/

namespace JsonValidators.Validator

mutual

/-- Replace the references that remember and the validators in use. The inner
expression of a validator in use is replaced first. -/
def replace (reference : String → Validator) (clone : Nat → Validator → Validator) :
    Validator → Validator
  | remembered definition => reference definition
  | shared base inner => clone base (replace reference clone inner)
  | record declarations => record (replaceFields reference clone declarations)
  | closedRecord declarations => closedRecord (replaceFields reference clone declarations)
  | dictionary value => dictionary (replace reference clone value)
  | list element => list (replace reference clone element)
  | tuple elements => tuple (replaceList reference clone elements)
  | optional inner => optional (replace reference clone inner)
  | firstOf branches => firstOf (replaceList reference clone branches)
  | intersection parts => intersection (replaceList reference clone parts)
  | fallback default inner => fallback default (replace reference clone inner)
  | follow path inner => follow path (replace reference clone inner)
  | map change inner => map change (replace reference clone inner)
  | ensure accepts reason inner => ensure accepts reason (replace reference clone inner)
  | select inner cases otherwise =>
    select (replace reference clone inner) (replaceCases reference clone cases)
      (replace reference clone otherwise)
  | continueWith inner next =>
    continueWith (replace reference clone inner) fun output => replace reference clone (next output)
  | string => string
  | number => number
  | boolean => boolean
  | undefined => undefined
  | anything => anything
  | array => array
  | object => object
  | constant literal accepts => constant literal accepts
  | always output => always output
  | never message => never message
  | rebuilt definition => rebuilt definition

def replaceList (reference : String → Validator) (clone : Nat → Validator → Validator) :
    List Validator → List Validator
  | [] => []
  | validator :: rest => replace reference clone validator :: replaceList reference clone rest

def replaceFields (reference : String → Validator) (clone : Nat → Validator → Validator) :
    List (String × Validator) → List (String × Validator)
  | [] => []
  | (name, validator) :: rest =>
    (name, replace reference clone validator) :: replaceFields reference clone rest

def replaceCases (reference : String → Validator) (clone : Nat → Validator → Validator) :
    List ((Output → Bool) × Validator) → List ((Output → Bool) × Validator)
  | [] => []
  | (accepts, validator) :: rest =>
    (accepts, replace reference clone validator) :: replaceCases reference clone rest

end

section Replace

variable (reference : String → Validator) (clone : Nat → Validator → Validator)

theorem replaceList_eq (validators : List Validator) :
    replaceList reference clone validators = validators.map (replace reference clone) := by
  induction validators with
  | nil => rfl
  | cons validator rest ih => rw [replaceList, ih, List.map_cons]

theorem replaceFields_eq (declarations : List (String × Validator)) :
    replaceFields reference clone declarations =
      declarations.map fun entry => (entry.1, replace reference clone entry.2) := by
  induction declarations with
  | nil => rfl
  | cons entry rest ih => rw [replaceFields, ih, List.map_cons]

theorem replaceCases_eq (cases : List ((Output → Bool) × Validator)) :
    replaceCases reference clone cases =
      cases.map fun entry => (entry.1, replace reference clone entry.2) := by
  induction cases with
  | nil => rfl
  | cons entry rest ih => rw [replaceCases, ih, List.map_cons]

end Replace

/-- Two replacements that agree on what is in the places of references and clones
agree. -/
theorem replace_replace {reference reference' reference'' : String → Validator}
    {clone clone' clone'' : Nat → Validator → Validator}
    (href : ∀ definition, replace reference clone (reference' definition) = reference'' definition)
    (hclone : ∀ base inner inner', replace reference clone inner = inner' →
      replace reference clone (clone' base inner) = clone'' base inner')
    (validator : Validator) :
    replace reference clone (replace reference' clone' validator) =
      replace reference'' clone'' validator := by
  induction validator with
  | remembered definition => exact href definition
  | shared base inner ih => exact hclone base _ _ ih
  | record declarations ih =>
    simp only [replace, replaceFields_eq, List.map_map]
    congr 1
    exact List.map_congr_left fun entry h => congrArg (Prod.mk entry.1) (ih entry h)
  | closedRecord declarations ih =>
    simp only [replace, replaceFields_eq, List.map_map]
    congr 1
    exact List.map_congr_left fun entry h => congrArg (Prod.mk entry.1) (ih entry h)
  | tuple elements ih =>
    simp only [replace, replaceList_eq, List.map_map]
    congr 1
    exact List.map_congr_left ih
  | firstOf branches ih =>
    simp only [replace, replaceList_eq, List.map_map]
    congr 1
    exact List.map_congr_left ih
  | intersection parts ih =>
    simp only [replace, replaceList_eq, List.map_map]
    congr 1
    exact List.map_congr_left ih
  | select inner cases otherwise ihinner ihcases ihotherwise =>
    simp only [replace, replaceCases_eq, List.map_map, ihinner, ihotherwise]
    congr 1
    exact List.map_congr_left fun entry h => congrArg (Prod.mk entry.1) (ihcases entry h)
  | continueWith inner next ihinner ihnext => simp only [replace, ihinner, ihnext]
  | dictionary value ih => simp only [replace, ih]
  | list element ih => simp only [replace, ih]
  | optional inner ih => simp only [replace, ih]
  | fallback default inner ih => simp only [replace, ih]
  | follow path inner ih => simp only [replace, ih]
  | map change inner ih => simp only [replace, ih]
  | ensure accepts reason inner ih => simp only [replace, ih]
  | _ => simp only [replace]

/-- A form that can only fail at remembering references and at validators in use is
found throughout a replacement if it is found throughout what is put in. -/
theorem throughout_replace {Form : Validator → Prop} {reference : String → Validator}
    {clone : Nat → Validator → Validator}
    (hform : ∀ validator, (∀ definition, validator ≠ remembered definition) →
      (∀ base inner, validator ≠ shared base inner) → Form validator)
    (hreference : ∀ definition, Throughout Form (reference definition))
    (hclone : ∀ base inner, Throughout Form inner → Throughout Form (clone base inner))
    (validator : Validator) :
    Throughout Form (replace reference clone validator) := by
  induction validator with
  | remembered definition => exact hreference definition
  | shared base inner ih => exact hclone base _ ih
  | record declarations ih =>
    refine throughout_iff.mpr ⟨hform _ (by simp [replace]) (by simp [replace]), fun part hpart => ?_⟩
    rw [replace, replaceFields_eq] at hpart
    cases hpart with
    | field hentry =>
      obtain ⟨entry, hmem, rfl⟩ := List.mem_map.mp hentry
      exact ih entry hmem
  | closedRecord declarations ih =>
    refine throughout_iff.mpr ⟨hform _ (by simp [replace]) (by simp [replace]), fun part hpart => ?_⟩
    rw [replace, replaceFields_eq] at hpart
    cases hpart with
    | closedField hentry =>
      obtain ⟨entry, hmem, rfl⟩ := List.mem_map.mp hentry
      exact ih entry hmem
  | tuple elements ih =>
    refine throughout_iff.mpr ⟨hform _ (by simp [replace]) (by simp [replace]), fun part hpart => ?_⟩
    rw [replace, replaceList_eq] at hpart
    cases hpart with
    | position helement =>
      obtain ⟨element, hmem, rfl⟩ := List.mem_map.mp helement
      exact ih element hmem
  | firstOf branches ih =>
    refine throughout_iff.mpr ⟨hform _ (by simp [replace]) (by simp [replace]), fun part hpart => ?_⟩
    rw [replace, replaceList_eq] at hpart
    cases hpart with
    | branch hbranch =>
      obtain ⟨branch, hmem, rfl⟩ := List.mem_map.mp hbranch
      exact ih branch hmem
  | intersection parts ih =>
    refine throughout_iff.mpr ⟨hform _ (by simp [replace]) (by simp [replace]), fun part hpart => ?_⟩
    rw [replace, replaceList_eq] at hpart
    cases hpart with
    | conjunct hconjunct =>
      obtain ⟨conjunct, hmem, rfl⟩ := List.mem_map.mp hconjunct
      exact ih conjunct hmem
  | select inner cases otherwise ihinner ihcases ihotherwise =>
    refine throughout_iff.mpr ⟨hform _ (by simp [replace]) (by simp [replace]), fun part hpart => ?_⟩
    rw [replace, replaceCases_eq] at hpart
    cases hpart with
    | selector => exact ihinner
    | otherwise => exact ihotherwise
    | case hentry =>
      obtain ⟨entry, hmem, rfl⟩ := List.mem_map.mp hentry
      exact ihcases entry hmem
  | continueWith inner next ihinner ihnext =>
    refine throughout_iff.mpr ⟨hform _ (by simp [replace]) (by simp [replace]), fun part hpart => ?_⟩
    rw [replace] at hpart
    cases hpart with
    | continued => exact ihinner
    | continuation output => exact ihnext output
  | dictionary _ ih | list _ ih | optional _ ih | fallback _ _ ih | follow _ _ ih | map _ _ ih
  | ensure _ _ _ ih =>
    refine throughout_iff.mpr ⟨hform _ (by simp [replace]) (by simp [replace]), fun part hpart => ?_⟩
    rw [replace] at hpart
    cases hpart
    exact ih
  | _ =>
    refine throughout_iff.mpr ⟨hform _ (by simp [replace]) (by simp [replace]), fun part hpart => ?_⟩
    rw [replace] at hpart
    cases hpart

/-- Every reference builds its definition at each use. -/
def withoutMemory : Validator → Validator := replace rebuilt shared

/-- Nothing that remembers is left, not even in what continuations make. -/
theorem throughout_withoutMemory (validator : Validator) :
    Throughout (fun part => ∀ definition, part ≠ remembered definition)
      validator.withoutMemory := by
  refine throughout_replace (fun _ hreference _ => hreference) ?_ ?_ validator
  · intro definition
    refine throughout_iff.mpr ⟨fun _ => by simp, fun part hpart => ?_⟩
    cases hpart
  · intro base inner hinner
    refine throughout_iff.mpr ⟨fun _ => by simp, fun part hpart => ?_⟩
    cases hpart with
    | inUse => exact hinner

/-- No memory, and the validators in use written out. -/
def bare : Validator → Validator := replace rebuilt fun _ inner => inner

section Interpret

variable {make make' : Construction Unit}

/-- Two ways of building without places agree on an expression and its bare form, if
building is the same in both and remembering is building. -/
theorem interpret_bare_of (h : make.Placeless) (h' : make'.Placeless)
    (hbuild : ∀ definition, make'.build definition = make.build definition)
    (hremember : ∀ definition cell, make.remember definition cell = make.build definition)
    (validator : Validator) : validator.bare.interpret make' 0 = validator.interpret make 0 := by
  unfold bare
  have hlist : ∀ validators : List Validator,
      (∀ validator ∈ validators,
        (replace rebuilt (fun _ inner => inner) validator).interpret make' 0 =
          validator.interpret make 0) →
      (replaceList rebuilt (fun _ inner => inner) validators).map
          (fun validator => validator.interpret make' 0) =
        validators.map fun validator => validator.interpret make 0 := by
    intro validators ih
    rw [replaceList_eq, List.map_map]
    exact List.map_congr_left ih
  have hrows : ∀ {κ : Type} (entries : List (κ × Validator)),
      (∀ entry ∈ entries,
        (replace rebuilt (fun _ inner => inner) entry.2).interpret make' 0 =
          entry.2.interpret make 0) →
      (entries.map fun entry => (entry.1, replace rebuilt (fun _ inner => inner) entry.2)).map
          (fun entry => (entry.1, entry.2.interpret make' 0)) =
        entries.map fun entry => (entry.1, entry.2.interpret make 0) := by
    intro κ entries ih
    rw [List.map_map]
    exact List.map_congr_left fun entry hentry => congrArg (Prod.mk entry.1) (ih entry hentry)
  induction validator with
  | remembered definition =>
    rw [replace, interpret, interpret, hbuild, hremember]
  | shared base inner ih => rw [replace, h.interpret_shared, ih]
  | record declarations ih =>
    rw [replace, h'.interpret_record, h.interpret_record, replaceFields_eq, Entries.ofList_map,
      hrows _ fun entry hentry => ih entry (Entries.mem_ofList hentry)]
  | closedRecord declarations ih =>
    rw [replace, h'.interpret_closedRecord, h.interpret_closedRecord, replaceFields_eq,
      Entries.ofList_map, hrows _ fun entry hentry => ih entry (Entries.mem_ofList hentry)]
  | tuple elements ih => rw [replace, h'.interpret_tuple, h.interpret_tuple, hlist _ ih]
  | firstOf branches ih => rw [replace, h'.interpret_firstOf, h.interpret_firstOf, hlist _ ih]
  | intersection parts ih =>
    rw [replace, h'.interpret_intersection, h.interpret_intersection, hlist _ ih]
  | select inner cases otherwise ihinner ihcases ihotherwise =>
    rw [replace, h'.interpret_select, h.interpret_select, replaceCases_eq, hrows _ ihcases,
      ihinner, ihotherwise]
  | continueWith inner next ihinner ihnext =>
    rw [replace, h'.interpret_continueWith, h.interpret_continueWith, ihinner]
    simp only [ihnext]
  | dictionary value ih => simp only [replace, interpret, ih]
  | list element ih => simp only [replace, interpret, ih]
  | optional inner ih => simp only [replace, interpret, ih]
  | fallback default inner ih => simp only [replace, interpret, ih]
  | follow path inner ih => simp only [replace, interpret, ih]
  | map change inner ih => simp only [replace, interpret, ih]
  | ensure accepts reason inner ih => simp only [replace, interpret, ih]
  | rebuilt definition => rw [replace, interpret, interpret, hbuild]
  | _ => simp only [replace, interpret]

end Interpret

variable (body : String → Validator)

/-- Without memory it makes no difference whether references remember. -/
theorem interpret_bare (stages : Nat) (validator : Validator) :
    validator.bare.interpret (.forgetful (fun definition => (body definition).bare) stages) 0 =
      validator.interpret (.forgetful body stages) 0 := by
  induction stages generalizing validator with
  | zero =>
    exact interpret_bare_of (Construction.forgetful_placeless _ _)
      (Construction.forgetful_placeless _ _) (fun _ => rfl) (fun _ _ => rfl) validator
  | succ n ih =>
    refine interpret_bare_of (Construction.forgetful_placeless _ _)
      (Construction.forgetful_placeless _ _) ?_ (fun _ _ => rfl) validator
    exact fun definition => ih (body definition)

end JsonValidators.Validator
