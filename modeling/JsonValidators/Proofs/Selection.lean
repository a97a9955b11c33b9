import JsonValidators.Proofs.Endings
import JsonValidators.Proofs.Projection
import JsonValidators.Proofs.Scenario
import JsonValidators.Proofs.Unfolding

/-!
No invention. A validator that only selects what it looks at produces nothing from
nothing, and from a value a projection of it.
-/

namespace JsonValidators

namespace Check

/-- Whatever the check produces is a projection of its input. -/
def Projects (check : Check Unit) : Prop :=
  ∀ input output, (∀ value ∈ input, value.KeysDistinct) → (check input).Yields output →
    output.Projects input

/-- Whatever the check produces is an object. -/
def YieldsObjects (check : Check Unit) : Prop :=
  ∀ input output, (check input).Yields output → ∃ entries, output.toJson? = some (.object entries)

variable {check : Check Unit}

theorem Projects.value (h : check.Projects) {value : Json} {output : Output}
    (hvalue : value.KeysDistinct) (hyields : (check (some value)).Yields output) :
    output.Projects (some value) := by
  apply h (some value) output _ hyields
  intro found hfound
  cases hfound
  exact hvalue

theorem Passes.projects {kind : Kind} (h : Passes kind check) : check.Projects := by
  intro input output hinput hyields
  obtain ⟨_, rfl⟩ := h.yields_iff.mp hyields
  exact Output.projects_ofOption hinput

theorem anything_projects : Projects anything := by
  intro input output hinput hyields
  obtain rfl := (Run.yields_ofValue _ _).mp hyields
  exact Output.projects_ofOption hinput

/-- A number may change its kind, but it stays the same number. -/
theorem number_projects : Projects number := by
  intro input output _ hyields
  obtain ⟨value, rfl, rfl⟩ := yields_number.mp hyields
  exact .some (.scalar rfl rfl rfl (Number.agrees_toBinary64 value))

/-- A constant is produced as it is, also from a value that differs in the order of keys. -/
theorem constant_projects {literal : Literal} (h : literal.toOutput.Projects (some literal.toJson)) :
    Projects (constant literal Json.equivalent) := by
  intro input output hinput hyields
  obtain ⟨⟨value, rfl, haccepts⟩, rfl⟩ := yields_constant.mp hyields
  obtain ⟨produced, hproduced, hprojects⟩ := exists_left_of_rel h
  rw [Output.Projects, hproduced]
  exact .some (hprojects.of_equivalent (hinput value rfl) haccepts)

theorem list_projects (h : check.Projects) : Projects (list check) := by
  intro input output hinput hyields
  obtain ⟨values, outputs, rfl, houtputs, rfl⟩ := yields_list.mp hyields
  have hvalues := (hinput _ rfl).items
  have hboth := (List.forall₂_and_left _ _).mpr ⟨hvalues, houtputs⟩
  exact Output.projects_list (hboth.imp fun value output hpair => h.value hpair.1 hpair.2)

theorem tuple_projects {elements : List (Check Unit)} (h : ∀ element ∈ elements, element.Projects) :
    Projects (tuple elements) := by
  intro input output hinput hyields
  obtain ⟨values, outputs, rfl, hlength, houtputs, rfl⟩ := yields_tuple.mp hyields
  have hvalues := (hinput _ rfl).items
  have hplaces : ∀ place ∈ elements.zip values, place.1 ∈ elements ∧ place.2 ∈ values :=
    fun place hplace => List.of_mem_zip hplace
  have hboth := (List.forall₂_and_left _ _).mpr ⟨hplaces, houtputs⟩
  have hprojects : List.Forall₂ (fun place output => output.Projects (some place.2))
      (elements.zip values) outputs := by
    refine hboth.imp fun place output hpair => ?_
    obtain ⟨⟨helement, hvalue⟩, hplace⟩ := hpair
    exact (h place.1 helement).value (hvalues place.2 hvalue) hplace
  have hsnd : (elements.zip values).map Prod.snd = values := List.map_snd_zip (by omega)
  rw [← hsnd]
  exact Output.projects_list (List.forall₂_map_left_iff.mpr hprojects)

theorem dictionary_projects (h : check.Projects) : Projects (dictionary check) := by
  intro input output hinput hyields
  obtain ⟨object, results, rfl, hresults, rfl⟩ := yields_dictionary.mp hyields
  obtain ⟨hnodup, hvalues⟩ := (hinput _ rfl).entries
  refine Output.projects_dictionary fun result hresult => ?_
  obtain ⟨entry, hentry, hkey, hvalue⟩ := exists_left_of_forall₂ hresults hresult
  rw [← hkey, Entries.get?_of_mem hnodup hentry]
  exact h.value (hvalues entry hentry) hvalue

/-- A declared field projects what its name leads to in the object, be it nothing. -/
theorem projects_fields {declared : Entries (Check Unit)} {object : Entries Json}
    {results : List (String × Output)} (h : ∀ field ∈ declared, field.2.Projects)
    (hobject : (Json.object object).KeysDistinct)
    (hresults : List.Forall₂ (FieldProduces object) declared results) :
    (Output.dictionary results).Projects (some (.object object)) := by
  obtain ⟨_, hvalues⟩ := hobject.entries
  refine Output.projects_dictionary fun result hresult => ?_
  obtain ⟨field, hfield, hname, hvalue⟩ := exists_left_of_forall₂ hresults hresult
  rw [← hname]
  refine h field hfield _ _ (fun value hfound => ?_) hvalue
  exact hvalues _ (Entries.mem_of_get? hfound)

theorem record_projects {declared : Entries (Check Unit)}
    (h : ∀ field ∈ declared, field.2.Projects) : Projects (record declared) := by
  intro input output hinput hyields
  obtain ⟨object, results, rfl, hresults, rfl⟩ := yields_record.mp hyields
  exact projects_fields h (hinput _ rfl) hresults

theorem closedRecord_projects {declared : Entries (Check Unit)}
    (h : ∀ field ∈ declared, field.2.Projects) : Projects (closedRecord declared) := by
  intro input output hinput hyields
  obtain ⟨object, results, rfl, hresults, _, rfl⟩ := yields_closedRecord.mp hyields
  exact projects_fields h (hinput _ rfl) hresults

theorem optional_projects (h : check.Projects) : Projects (optional check) := by
  intro input output hinput hyields
  rcases yields_optional.mp hyields with ⟨rfl, rfl⟩ | ⟨value, inner, rfl, hinner, rfl⟩
  · exact .none
  · exact h _ inner hinput hinner

theorem firstOf_projects {branches : List (Check Unit)}
    (h : ∀ branch ∈ branches, branch.Projects) : Projects (firstOf branches) := by
  intro input output hinput hyields
  obtain ⟨branch, hbranch, hown⟩ := firstOf_yields hyields
  exact h branch hbranch input output hinput hown

/-- Merging projections of one object, key by key, gives a projection of it. It takes
one part to know that the input is an object, and parts that produce objects. -/
theorem intersection_projects {checks : List (Check Unit)} (hsome : checks ≠ [])
    (hobjects : ∀ check ∈ checks, check.YieldsObjects)
    (h : ∀ check ∈ checks, check.Projects) : Projects (intersection checks) := by
  intro input output hinput hyields
  obtain ⟨outputs, houtputs, rfl⟩ := yields_intersection.mp hyields
  have hparts : ∀ part ∈ outputs, ∃ entries object, part.entries = entries ∧
      input = some (.object object) ∧ (Json.object entries).Projects (.object object) := by
    intro part hpart
    obtain ⟨check, hcheck, hown⟩ := exists_left_of_forall₂ houtputs hpart
    obtain ⟨entries, hentries⟩ := hobjects check hcheck input part hown
    have hprojects := h check hcheck input part hinput hown
    rw [Output.Projects, hentries] at hprojects
    obtain ⟨value, rfl, hvalue⟩ := exists_right_of_rel hprojects
    obtain ⟨object, rfl⟩ := hvalue.of_object
    exact ⟨entries, object, by simp [Output.entries, hentries, Json.asObject?], rfl, hvalue⟩
  obtain ⟨first, hfirst⟩ := List.exists_mem_of_ne_nil checks hsome
  obtain ⟨part, hpart, _⟩ := exists_right_of_forall₂ houtputs hfirst
  obtain ⟨_, object, _, rfl, _⟩ := hparts part hpart
  refine .some (.of_get? fun entry hentry => ?_)
  obtain ⟨other, hother, hmem⟩ := (Output.mem_merged hentry).resolve_left List.not_mem_nil
  obtain ⟨entries, object', rfl, hobject, hprojects⟩ := hparts other hother
  obtain rfl := Json.object.inj (Option.some.inj hobject)
  exact hprojects.get? hmem

theorem map_projects {change : Output → Output}
    (hchange : ∀ output, (change output).toJson? = output.toJson?) (h : check.Projects) :
    Projects (map change check) := by
  intro input output hinput hyields
  obtain ⟨inner, hinner, rfl⟩ := yields_map.mp hyields
  rw [Output.Projects, hchange]
  exact h input inner hinput hinner

theorem ensure_projects (accepts : Output → Bool) (reason : Reason) (h : check.Projects) :
    Projects (ensure accepts reason check) := by
  intro input output hinput hyields
  obtain ⟨hinner, _⟩ := yields_ensure.mp hyields
  exact h input output hinput hinner

/-- A continuation looks at the same input again. -/
theorem continueWith_projects {next : Output → Check Unit} (h : ∀ output, (next output).Projects) :
    Projects (continueWith check next) := by
  intro input output hinput hyields
  obtain ⟨middle, _, hlast⟩ := yields_continueWith.mp hyields
  exact h middle input output hinput hlast

theorem firstCase_projects {otherwise : Check Unit} {cases : List ((Output → Bool) × Check Unit)}
    (hcases : ∀ entry ∈ cases, entry.2.Projects) (hotherwise : otherwise.Projects)
    (output : Output) : (firstCase output otherwise cases).Projects := by
  rcases firstCase_eq output otherwise cases with heq | ⟨entry, hentry, heq⟩
  · rw [heq]
    exact hotherwise
  · rw [heq]
    exact hcases entry hentry

end Check

namespace Validator

variable (body : String → Validator)

/-- Whatever the validator produces is an object. -/
def ProducesObjects (validator : Validator) : Prop :=
  ∀ input output, validator.result? body input = some (.ok output) →
    ∃ entries, output.toJson? = some (.object entries)

/-- The form of a validator of objects, if `Typed` holds of validators of objects: those
that give their own objects, and those that leave it to others to do so. -/
def OfObjects (Typed : Validator → Prop) : Validator → Prop
  | object | record _ | closedRecord _ | dictionary _ | intersection _ | never _ => True
  | constant literal _ => ∃ entries, literal.toOutput.toJson? = some (.object entries)
  | firstOf branches => ∀ branch ∈ branches, Typed branch
  | ensure _ _ inner => Typed inner
  | select _ cases otherwise => (∀ entry ∈ cases, Typed entry.2) ∧ Typed otherwise
  | continueWith _ next => ∀ output, Typed (next output)
  | rebuilt definition => Typed (body definition)
  | remembered definition => Typed (body definition)
  | shared _ inner => Typed inner
  | _ => False

section Objects

variable (Typed : Validator → Prop)
  (h : ∀ validator, Typed validator → validator.OfObjects body Typed)
include h

theorem objects_compositional : Compositional body (fun _ => True)
    fun validator check => Typed validator → check.YieldsObjects where
  exhausted _ _ _ _ hyields := by cases hyields
  string htyped := (h _ htyped).elim
  number htyped := (h _ htyped).elim
  boolean htyped := (h _ htyped).elim
  undefined htyped := (h _ htyped).elim
  anything htyped := (h _ htyped).elim
  array htyped := (h _ htyped).elim
  object _ input output hyields := by
    obtain ⟨hkind, rfl⟩ := Check.object_passes.yields_iff.mp hyields
    obtain ⟨entries, rfl⟩ := Kind.exists_object hkind
    exact ⟨entries, rfl⟩
  constant literal accepts _ htyped input output hyields := by
    obtain ⟨_, rfl⟩ := Check.yields_constant.mp hyields
    exact h _ htyped
  always _ _ htyped := (h _ htyped).elim
  never _ _ _ _ _ hyields := absurd hyields (Run.not_yields_ofReason _ _)
  record _ _ _ _ _ _ _ _ hyields := by
    obtain ⟨_, _, _, _, rfl⟩ := Check.yields_record.mp hyields
    exact ⟨_, rfl⟩
  closedRecord _ _ _ _ _ _ _ _ hyields := by
    obtain ⟨_, _, _, _, _, rfl⟩ := Check.yields_closedRecord.mp hyields
    exact ⟨_, rfl⟩
  dictionary _ _ _ _ _ _ _ hyields := by
    obtain ⟨_, _, _, _, rfl⟩ := Check.yields_dictionary.mp hyields
    exact ⟨_, rfl⟩
  list _ _ _ _ htyped := (h _ htyped).elim
  tuple _ _ _ _ htyped := (h _ htyped).elim
  optional _ _ _ _ htyped := (h _ htyped).elim
  firstOf branches checks _ hbranches htyped input output hyields := by
    obtain ⟨check, hcheck, hown⟩ := Check.firstOf_yields hyields
    obtain ⟨branch, hbranch, rfl⟩ := List.mem_map.mp hcheck
    exact hbranches branch hbranch (h _ htyped branch hbranch) input output hown
  intersection _ _ _ _ _ _ _ _ hyields := by
    obtain ⟨_, _, rfl⟩ := Check.yields_intersection.mp hyields
    exact ⟨_, rfl⟩
  fallback _ _ _ _ _ htyped := (h _ htyped).elim
  follow _ _ _ _ _ htyped := (h _ htyped).elim
  map _ _ _ _ _ htyped := (h _ htyped).elim
  ensure _ _ _ _ _ hinner htyped input output hyields :=
    hinner (h _ htyped) input output (Check.yields_ensure.mp hyields).1
  select _ cases otherwise checks _ _ hcases hotherwise htyped input output hyields := by
    obtain ⟨hcasesTyped, hotherwiseTyped⟩ := h _ htyped
    obtain ⟨middle, _, hlast⟩ := Check.yields_continueWith.mp hyields
    rcases Check.firstCase_eq middle (checks otherwise)
      (cases.map fun entry => (entry.1, checks entry.2)) with heq | ⟨chosen, hchosen, heq⟩
    · rw [heq] at hlast
      exact hotherwise hotherwiseTyped input output hlast
    · obtain ⟨entry, hentry, rfl⟩ := List.mem_map.mp hchosen
      rw [heq] at hlast
      exact hcases entry hentry (hcasesTyped entry hentry) input output hlast
  continueWith _ _ _ _ _ hnext htyped input output hyields := by
    obtain ⟨middle, _, hlast⟩ := Check.yields_continueWith.mp hyields
    exact hnext middle (h _ htyped middle) input output hlast
  rebuilt _ _ hbody htyped := hbody (h _ htyped)
  remembered _ _ hbody htyped := hbody (h _ htyped)
  shared _ _ _ hinner htyped := hinner (h _ htyped)

/-- Validators of objects produce objects. As with types, a definition may be taken to be
one of objects while it is looked into. -/
theorem producesObjects_of_typed {validator : Validator} (htyped : Typed validator) :
    validator.ProducesObjects body := by
  intro input output hresult
  obtain ⟨stages, hstages⟩ := (result?_eq_some_iff body).mp hresult
  exact (objects_compositional body Typed h).forgetful stages validator (fun _ _ => trivial) htyped
    input output (run_of_outcome? hstages)

end Objects

/-- A validator that selects from the value it looks at. It is neither made to produce
a value of its own nor looks elsewhere; a constant is produced as a projection of what it is
compared as, a change of an output is none to the JSON value, and an intersection is one of
objects, and of one at least. -/
def Selects : Validator → Prop
  | constant literal accepts =>
    accepts = Json.equivalent ∧ literal.toOutput.Projects (some literal.toJson)
  | intersection parts => parts ≠ [] ∧ ∀ part ∈ parts, part.ProducesObjects body
  | map change _ => ∀ output, (change output).toJson? = output.toJson?
  | always _ | fallback _ _ | follow _ _ => False
  | _ => True

/-- Selection carries over from the parts of a validator, at any depth. -/
theorem projects_compositional :
    Compositional body (Selects body) fun _ check => check.Projects where
  exhausted _ _ _ _ hyields := by cases hyields
  string := Check.string_passes.projects
  number := Check.number_projects
  boolean := Check.boolean_passes.projects
  undefined := Check.undefined_passes.projects
  anything := Check.anything_projects
  array := Check.array_passes.projects
  object := Check.object_passes.projects
  constant literal accepts hform := by
    obtain ⟨rfl, hprojects⟩ := hform
    exact Check.constant_projects hprojects
  always _ hform := hform.elim
  never _ _ _ _ _ hyields := absurd hyields (Run.not_yields_ofReason _ _)
  record declarations checks _ _ h := by
    apply Check.record_projects
    intro field hfield
    obtain ⟨entry, hentry, rfl⟩ := List.mem_map.mp hfield
    exact h entry hentry
  closedRecord declarations checks _ _ h := by
    apply Check.closedRecord_projects
    intro field hfield
    obtain ⟨entry, hentry, rfl⟩ := List.mem_map.mp hfield
    exact h entry hentry
  dictionary _ _ _ h := Check.dictionary_projects h
  list _ _ _ h := Check.list_projects h
  tuple elements checks _ h := Check.tuple_projects (List.forall_mem_map.mpr h)
  optional _ _ _ h := Check.optional_projects h
  firstOf branches checks _ h := Check.firstOf_projects (List.forall_mem_map.mpr h)
  intersection parts checks hform hfaithful h := by
    obtain ⟨hsome, hobjects⟩ := hform
    have hsome' : parts.map checks ≠ [] := by simpa using hsome
    apply Check.intersection_projects hsome' _ (List.forall_mem_map.mpr h)
    intro check hcheck input output hyields
    obtain ⟨part, hpart, rfl⟩ := List.mem_map.mp hcheck
    exact hobjects part hpart input output (hfaithful part input _ hyields)
  fallback _ _ _ hform := hform.elim
  follow _ _ _ hform := hform.elim
  map _ _ _ hform h := Check.map_projects hform h
  ensure accepts reason _ _ _ h := Check.ensure_projects accepts reason h
  select _ cases otherwise checks _ _ hcases hotherwise :=
    Check.continueWith_projects
      (Check.firstCase_projects (List.forall_mem_map.mpr hcases) hotherwise)
  continueWith _ _ _ _ _ h := Check.continueWith_projects h
  rebuilt _ _ h := h
  remembered _ _ h := h
  shared _ _ _ h := h

end Validator

namespace Scenario

/-- Whatever has been checked before, what a validator that selects produces is a
projection of the input: nothing for no input, and a value for a value. -/
theorem check_output_projects {scenario : Scenario} {memory memory' : Memory}
    (h : scenario.Reached memory) {stages number : Nat} {input : Option Json}
    (hinput : ∀ value ∈ input, value.KeysDistinct)
    (hselects : (scenario.live number).validator.MadeOf scenario.body
      (Validator.Selects scenario.body))
    {output : Output}
    (hcheck : scenario.check stages number input memory = some (.ok output, memory')) :
    Option.Rel Json.Projects output.toJson? input := by
  have hyields := h.consistent.yields_of_check hcheck
  exact (Validator.projects_compositional scenario.body).forgetful stages _ hselects input output
    hinput hyields

/-- No value or a string. -/
def absences : Scenario :=
  ⟨fun _ => .never "not defined",
    [.anyLiteral [.ofOption none, .ofOption (some (.json (.string "x")))]]⟩

/-- The constant for no value accepts null and is produced as nothing, which is no projection of
a value. -/
theorem check_absences_loses_value :
    (∃ memory', absences.check 0 0 (some .null) absences.memory =
      some (.ok .undefined, memory')) ∧
    ¬ Option.Rel Json.Projects Output.undefined.toJson? (some .null) := by
  refine ⟨⟨_, rfl⟩, fun hprojects => ?_⟩
  obtain ⟨value, hvalue, _⟩ := exists_left_of_rel hprojects
  cases hvalue

/-- Places with names in a chain, by a definition that remembers itself and looks at an object
twice. -/
def linkedNames : Scenario :=
  ⟨fun _ => .intersection
      [.record [("at", .literal (.json (.object [("x", .null), ("y", .null)]))), ("name", .string)],
        .record [("next", .optional (.remembered "node"))]],
    [.remembered "node"]⟩

/-- Keys that neither record declares are left out, of the inner object as well, and the keys of
the constant are put in its own order. -/
theorem check_linkedNames_projects :
    let input := Json.object [("size", .null), ("next", .object [("size", .null),
        ("name", .string "b"), ("at", .object [("y", .null), ("x", .null)])]),
      ("name", .string "a"), ("at", .object [("x", .null), ("y", .null)])]
    let output := Json.object [("at", .object [("x", .null), ("y", .null)]),
      ("name", .string "a"), ("next", .object [("at", .object [("x", .null), ("y", .null)]),
        ("name", .string "b")])]
    (∃ memory', linkedNames.check 2 0 (some input) linkedNames.memory =
      some (.ok (.json output), memory')) ∧ output.Projects input := by
  intro input output
  have hinput : ∀ value ∈ some input, value.KeysDistinct := by decide
  have hconstant : Output.Projects (.json (.object [("x", .null), ("y", .null)]))
      (some (.object [("x", .null), ("y", .null)])) := .some (.refl (by decide))
  have hrecord : ∀ body (declarations : Fields),
      (Validator.record declarations).ProducesObjects body := fun body declarations =>
    Validator.producesObjects_of_typed body (· = .record declarations) (by rintro _ rfl; trivial)
      rfl
  have hselects : (linkedNames.live 0).validator.MadeOf linkedNames.body
      (Validator.Selects linkedNames.body) := by
    refine Validator.madeOf_of_throughout (fun definition => ?_)
      (Validator.throughout_remembered.mpr trivial)
    show (linkedNames.definitions definition).Throughout _
    simp [linkedNames, Validator.Selects, Validator.literal, Literal.json, hconstant, hrecord]
  have hcheck : ∃ memory', linkedNames.check 2 0 (some input) linkedNames.memory =
      some (.ok (.json output), memory') := ⟨_, rfl⟩
  obtain ⟨memory', hcheck⟩ := hcheck
  obtain ⟨value, hvalue, hprojects⟩ :=
    exists_left_of_rel (check_output_projects .start hinput hselects hcheck)
  obtain rfl : output = value := Option.some.inj hvalue
  exact ⟨⟨memory', hcheck⟩, hprojects⟩

end Scenario

end JsonValidators
