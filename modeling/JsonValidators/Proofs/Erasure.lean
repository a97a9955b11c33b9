import JsonValidators.Proofs.Traversals

/-!
Turning outputs into JSON early or late. What a check of parts comes to as JSON depends on what its
parts come to as JSON only, so it makes no difference at which places inside an expression outputs
are turned into JSON, as long as that is done at the end.
-/

namespace JsonValidators

namespace Output

/-- A list comes to what its items come to, with null in place of nothing. -/
theorem toJson?_list (items : List Output) :
    (list items).toJson? = some (.array ((items.map toJson?).map Json.orNull)) := by
  have hitems : itemsJson items = (items.map toJson?).map Json.orNull := by
    induction items with
    | nil => rfl
    | cons item items ih => rw [itemsJson, ih, List.map_cons, List.map_cons]
  rw [toJson?, hitems]

/-- A dictionary comes to what its entries come to, without those that come to nothing. -/
theorem toJson?_dictionary (results : List (String × Output)) : (dictionary results).toJson? =
    some (.object ((results.map fun result => (result.1, result.2.toJson?)).filterMap
      fun result => result.2.map fun value => (result.1, value))) := by
  rw [toJson?, entriesJson_eq_filterMap, List.filterMap_map]
  rfl

end Output

namespace Check

open Run

variable {σ : Type}

/-- Checks that come to the same JSON value, or fail in the same way. -/
def SameJson (first second : Check σ) : Prop := ∀ input,
  (first input).mapValue Output.toJson? = (second input).mapValue Output.toJson?

/-- What a list of outputs comes to as JSON is made of what they come to. -/
theorem mapValue_list (run : Run σ (List Output)) :
    (run.mapValue Output.list).mapValue Output.toJson? =
      (run.mapValue (List.map Output.toJson?)).mapValue fun values =>
        some (Json.array (values.map Json.orNull)) := by
  simp only [mapValue_mapValue, Output.toJson?_list]

theorem mapValue_dictionary (run : Run σ (List (String × Output))) :
    (run.mapValue Output.dictionary).mapValue Output.toJson? =
      (run.mapValue (List.map fun result => (result.1, result.2.toJson?))).mapValue fun results =>
        some (Json.object (results.filterMap fun result =>
          result.2.map fun value => (result.1, value))) := by
  simp only [mapValue_mapValue, Output.toJson?_dictionary]

theorem fields_cons (object : Entries Json) (name : String) (check : Check σ)
    (rest : List (String × Check σ)) : fields object ((name, check) :: rest) =
      ((check (Entries.get? object name)).mapFault
        (fieldFault name (Entries.get? object name))).bind fun output =>
          (fields object rest).mapValue fun others =>
            output.toJson?.elim others fun value => (name, value) :: others := by
  rw [fields]
  refine congrArg _ (funext fun output => ?_)
  cases output.toJson? <;> rfl

variable {check check' : Check σ} {checks checks' : List (Check σ)}
  {declared declared' : Entries (Check σ)}

namespace SameJson

theorem of_eq (h : check = check') : SameJson check check' := fun _ => h ▸ rfl

/-- The same value under a label for failures, handed on as JSON. -/
theorem bind_toJson? {α : Type} (h : SameJson check check') (input : Option Json)
    (label : Fault → Fault) (next : Option Json → Run σ α) :
    (((check input).mapFault label).bind fun output => next output.toJson?) =
      ((check' input).mapFault label).bind fun output => next output.toJson? := by
  rw [← bind_mapValue _ Output.toJson?, ← bind_mapValue _ Output.toJson?, ← mapFault_mapValue,
    ← mapFault_mapValue, h input]

/-- To turn an output into JSON makes no difference to its JSON value. -/
theorem asJson (h : SameJson check check') :
    SameJson check (map (fun output => .ofOption output.toJson?) check') := by
  intro input
  rw [Check.map, mapValue_mapValue, h input]
  simp only [Output.toJson?_ofOption]

/-- Once both outputs are turned into JSON, nothing is left to tell the checks apart. -/
theorem map_eq (h : SameJson check check') :
    map (fun output => .ofOption output.toJson?) check =
      map (fun output => .ofOption output.toJson?) check' := by
  funext input
  rw [Check.map, Check.map, ← mapValue_mapValue _ Output.toJson?, h input, mapValue_mapValue]

theorem positions (h : List.Forall₂ SameJson checks checks') (position : Nat)
    (values : List Json) :
    (positions position checks values).mapValue (List.map Output.toJson?) =
      (Check.positions position checks' values).mapValue (List.map Output.toJson?) := by
  induction h generalizing position values with
  | nil => rfl
  | @cons check check' _ _ hcheck _ ih =>
    cases values with
    | nil => rfl
    | cons value values =>
      rw [Check.positions, Check.positions, mapValue_bind, mapValue_bind]
      simp only [mapValue_mapValue, List.map_cons]
      simp only [← mapValue_mapValue _ (List.map Output.toJson?), ih]
      exact hcheck.bind_toJson? (some value) _ fun value? => Run.mapValue (value? :: ·) _

theorem tuple (h : List.Forall₂ SameJson checks checks') :
    SameJson (tuple checks) (Check.tuple checks') := by
  intro input
  unfold Check.tuple
  rw [h.length_eq]
  split
  · split
    · rw [mapValue_list, mapValue_list, positions h]
    · rfl
  · rfl

theorem list (h : SameJson check check') : SameJson (list check) (Check.list check') := by
  intro input
  unfold Check.list
  split
  · rw [mapValue_list, mapValue_list, items_eq_positions, items_eq_positions,
      positions (forall₂_replicate h _)]
  · rfl

theorem values (h : SameJson check check') (object : Entries Json) :
    (values check object).mapValue (List.map fun result => (result.1, result.2.toJson?)) =
      (Check.values check' object).mapValue
        (List.map fun result => (result.1, result.2.toJson?)) := by
  induction object with
  | nil => rfl
  | cons entry object ih =>
    rw [Check.values, Check.values, mapValue_bind, mapValue_bind]
    simp only [mapValue_mapValue, List.map_cons]
    simp only [← mapValue_mapValue _ (List.map _), ih]
    exact h.bind_toJson? (some entry.2) _ fun value? => Run.mapValue ((entry.1, value?) :: ·) _

theorem dictionary (h : SameJson check check') :
    SameJson (dictionary check) (Check.dictionary check') := by
  intro input
  unfold Check.dictionary
  split
  · rw [mapValue_dictionary, mapValue_dictionary, h.values]
  · rfl

theorem optional (h : SameJson check check') :
    SameJson (optional check) (Check.optional check') := by
  intro input
  cases input with
  | none => rfl
  | some value =>
    rw [Check.optional, Check.optional, mapValue_mapValue, mapValue_mapValue]
    exact h (some value)

theorem alternatives (h : List.Forall₂ SameJson checks checks') (input : Option Json)
    (entries : List String) :
    (alternatives input entries checks).mapValue Output.toJson? =
      (Check.alternatives input entries checks').mapValue Output.toJson? := by
  induction h generalizing entries with
  | nil => rfl
  | cons hcheck _ ih =>
    rw [Check.alternatives, Check.alternatives, mapValue_settle, mapValue_settle]
    exact settle_congr (hcheck input) (fun _ _ hvalue => congrArg ofValue hvalue) fun _ => ih _

theorem firstOf (h : List.Forall₂ SameJson checks checks') :
    SameJson (firstOf checks) (Check.firstOf checks') := fun input => alternatives h input []

theorem fallback (h : SameJson check check') {default default' : Output}
    (hdefault : default.toJson? = default'.toJson?) :
    SameJson (fallback default check) (Check.fallback default' check') := by
  intro input
  rw [Check.fallback, Check.fallback, mapValue_settle, mapValue_settle]
  exact settle_congr (h input) (fun _ _ hvalue => congrArg ofValue hvalue)
    fun _ => congrArg ofValue hdefault

theorem follow (h : SameJson check check') (path : Path) :
    SameJson (follow path check) (Check.follow path check') := by
  intro input
  rw [Check.follow, Check.follow]
  cases walk Path.root path.segments input with
  | error fault => rfl
  | ok found => 
    simp only
    rw [← mapFault_mapValue, ← mapFault_mapValue, h found]

/-- A record keeps nothing of an output but its JSON value. -/
theorem fields (h : List.Forall₂ (fun field field' => field.1 = field'.1 ∧
    SameJson field.2 field'.2) declared declared') (object : Entries Json) :
    fields object declared = Check.fields object declared' := by
  induction h with
  | nil => rfl
  | @cons field field' _ rest hfield _ ih =>
    obtain ⟨name, check⟩ := field
    obtain ⟨_, check'⟩ := field'
    obtain ⟨rfl, hcheck⟩ := hfield
    rw [fields_cons, fields_cons, ih]
    exact hcheck.bind_toJson? (Entries.get? object name) _ fun value? =>
      (Check.fields object rest).mapValue fun others =>
        value?.elim others fun value => (name, value) :: others

theorem record (h : List.Forall₂ (fun field field' => field.1 = field'.1 ∧
    SameJson field.2 field'.2) declared declared') : record declared = Check.record declared' := by
  funext input
  unfold Check.record
  simp only [fields h]

theorem closedRecord (h : List.Forall₂ (fun field field' => field.1 = field'.1 ∧
    SameJson field.2 field'.2) declared declared') :
    closedRecord declared = Check.closedRecord declared' := by
  have hkeys : Entries.keys declared = Entries.keys declared' := by
    induction h with
    | nil => rfl
    | cons hfield _ ih => exact congrArg₂ List.cons hfield.1 ih
  have hcontains : Entries.contains declared = Entries.contains declared' := by
    funext key
    rw [Bool.eq_iff_iff, Entries.contains, Entries.contains, Entries.isSome_get?_iff, hkeys,
      Entries.isSome_get?_iff]
  funext input
  unfold Check.closedRecord undeclared?
  simp only [fields h, hcontains]

end SameJson

end Check

namespace Validator

/-- The second expression is the first one with outputs turned into JSON at more places inside it.
A default may be turned into JSON as well, and a reference may lead to a copy of its definition in
which outputs are turned into JSON. -/
inductive Erased (copies : String → String → Prop) : Validator → Validator → Prop
  | refl (validator : Validator) : Erased copies validator validator
  | erase {validator erased : Validator} :
      Erased copies validator erased → Erased copies validator erased.asJson
  | asJson {validator erased : Validator} :
      Erased copies validator erased → Erased copies validator.asJson erased.asJson
  | list {element erased : Validator} :
      Erased copies element erased → Erased copies (list element) (list erased)
  | tuple {elements : List (Validator × Validator)} :
      (∀ element ∈ elements, Erased copies element.1 element.2) →
        Erased copies (tuple (elements.map Prod.fst)) (tuple (elements.map Prod.snd))
  | dictionary {value erased : Validator} :
      Erased copies value erased → Erased copies (dictionary value) (dictionary erased)
  | optional {inner erased : Validator} :
      Erased copies inner erased → Erased copies (optional inner) (optional erased)
  | firstOf {branches : List (Validator × Validator)} :
      (∀ branch ∈ branches, Erased copies branch.1 branch.2) →
        Erased copies (firstOf (branches.map Prod.fst)) (firstOf (branches.map Prod.snd))
  | fallback {default default' : Output} {inner erased : Validator} :
      default.toJson? = default'.toJson? → Erased copies inner erased →
        Erased copies (fallback default inner) (fallback default' erased)
  | follow {path : Path} {inner erased : Validator} :
      Erased copies inner erased → Erased copies (follow path inner) (follow path erased)
  | record {fields : List (String × Validator × Validator)} :
      (∀ field ∈ fields, Erased copies field.2.1 field.2.2) →
        Erased copies (record (fields.map fun field => (field.1, field.2.1)))
          (record (fields.map fun field => (field.1, field.2.2)))
  | closedRecord {fields : List (String × Validator × Validator)} :
      (∀ field ∈ fields, Erased copies field.2.1 field.2.2) →
        Erased copies (closedRecord (fields.map fun field => (field.1, field.2.1)))
          (closedRecord (fields.map fun field => (field.1, field.2.2)))
  | rebuilt {definition copy : String} :
      copies definition copy → Erased copies (rebuilt definition) (rebuilt copy)
  | remembered {definition copy : String} :
      copies definition copy → Erased copies (remembered definition) (remembered copy)
  | shared {base base' : Nat} {inner erased : Validator} :
      Erased copies inner erased → Erased copies (shared base inner) (shared base' erased)

variable {copies : String → String → Prop} {validator erased : Validator}

open Check in
/-- Where outputs are turned into JSON makes no difference to the JSON value in the end, if it makes
none in the definitions. -/
theorem Erased.step {make : Construction Unit} (hmake : make.Placeless)
    (hbuild : ∀ definition copy, copies definition copy →
      SameJson (make.build definition) (make.build copy))
    (hremember : ∀ definition copy, copies definition copy →
      SameJson (make.remember definition 0) (make.remember copy 0))
    (h : Erased copies validator erased) :
    SameJson (interpret make validator 0) (interpret make erased 0) := by
  induction h with
  | refl validator => exact .of_eq rfl
  | erase _ ih => exact ih.asJson
  | asJson _ ih => exact .of_eq ih.map_eq
  | list _ ih => exact ih.list
  | tuple _ ih =>
    rw [hmake.interpret_tuple, hmake.interpret_tuple, List.map_map, List.map_map]
    exact .tuple (forall₂_map_map ih)
  | dictionary _ ih => exact ih.dictionary
  | optional _ ih => exact ih.optional
  | firstOf _ ih =>
    rw [hmake.interpret_firstOf, hmake.interpret_firstOf, List.map_map, List.map_map]
    exact .firstOf (forall₂_map_map ih)
  | fallback hdefault _ ih => exact ih.fallback hdefault
  | follow _ ih => exact ih.follow _
  | record _ ih =>
    rw [hmake.interpret_record, hmake.interpret_record, Entries.ofList_map Prod.fst,
      Entries.ofList_map Prod.snd, List.map_map, List.map_map]
    exact .of_eq (SameJson.record (forall₂_map_map fun field hfield =>
      ⟨rfl, ih field (Entries.mem_ofList hfield)⟩))
  | closedRecord _ ih =>
    rw [hmake.interpret_closedRecord, hmake.interpret_closedRecord, Entries.ofList_map Prod.fst,
      Entries.ofList_map Prod.snd, List.map_map, List.map_map]
    exact .of_eq (SameJson.closedRecord (forall₂_map_map fun field hfield =>
      ⟨rfl, ih field (Entries.mem_ofList hfield)⟩))
  | rebuilt hcopy => exact hbuild _ _ hcopy
  | remembered hcopy => exact hremember _ _ hcopy
  | shared _ ih =>
    rw [hmake.interpret_shared, hmake.interpret_shared]
    exact ih

/-- The definitions may be followed to any depth. -/
theorem Erased.sameJson {body : String → Validator}
    (hcopies : ∀ definition copy, copies definition copy →
      Erased copies (body definition) (body copy)) (stages : Nat)
    (h : Erased copies validator erased) :
    Check.SameJson (interpret (.forgetful body stages) validator 0)
      (interpret (.forgetful body stages) erased 0) := by
  induction stages generalizing validator erased with
  | zero =>
    exact h.step (Construction.forgetful_placeless body 0) (fun _ _ _ => .of_eq rfl)
      fun _ _ _ => .of_eq rfl
  | succ stages ih =>
    have hbuild : ∀ definition copy, copies definition copy → Check.SameJson
        (interpret (.forgetful body stages) (body definition) 0)
        (interpret (.forgetful body stages) (body copy) 0) :=
      fun definition copy hcopy => ih (hcopies definition copy hcopy)
    exact h.step (Construction.forgetful_placeless body (stages + 1)) hbuild hbuild

end Validator

namespace Scenario

open Validator

/-- Outputs may be turned into JSON early or late. Whatever has been checked before, an expression
whose output is turned into JSON says the same on every input, a missing one included, if outputs
are turned into JSON at any places inside it as well: the same JSON value or nothing, or the same
failure. References inside it may lead to definitions that are changed in the same way. -/
theorem answers_of_erased {scenario : Scenario} {memory later : Memory}
    (h : scenario.Reached memory) (hlater : scenario.Reached later)
    {copies : String → String → Prop} (hcopies : ∀ definition copy, copies definition copy →
      Erased copies (scenario.body definition) (scenario.body copy))
    {validator erased : Validator} (herased : Erased copies validator erased) {late early : Nat}
    (hlate : (scenario.live late).validator = validator.asJson)
    (hearly : (scenario.live early).validator = erased.asJson) (stages : Nat)
    (input : Option Json) :
    scenario.answer? stages late input memory = scenario.answer? stages early input later := by
  refine h.answer?_congr hlater ?_
  rw [hlate, hearly]
  exact congrFun (herased.sameJson hcopies stages).map_eq input

/-- Texts and lists of texts at any depth, with and without JSON inside. -/
def someTexts : List (Validator × Validator) :=
  [(filledText, .asJson filledText), (.remembered "plain", .asJson (.remembered "erased"))]

/-- The elements of a tuple. -/
def somePair : List (Validator × Validator) :=
  [(.boolean, .boolean), (.optional filledText, .asJson (.optional filledText))]

/-- Texts by name, next to a pair that may be replaced. -/
def someFields : List (String × Validator × Validator) :=
  [("texts", .dictionary (.firstOf (someTexts.map Prod.fst)),
      .asJson (.dictionary (.firstOf (someTexts.map Prod.snd)))),
    ("pair", .fallback (.list [.undefined]) (.tuple (somePair.map Prod.fst)),
      .fallback (.json (.array [.null])) (.tuple (somePair.map Prod.snd)))]

/-- One definition stands for the other, with JSON inside. -/
def someCopies (definition copy : String) : Prop := definition = "plain" ∧ copy = "erased"

/-- The fields with outputs turned into JSON at the end only, and inside as well. -/
def erasures : Scenario where
  definitions name :=
    if name = "plain" then .list (.firstOf (someTexts.map Prod.fst))
    else .asJson (.list (.asJson (.firstOf (someTexts.map Prod.snd))))
  validators :=
    [.asJson (.record (someFields.map fun field => (field.1, field.2.1))),
      .asJson (.record (someFields.map fun field => (field.1, field.2.2)))]

/-- A text that comes to nothing is null in a list and left out of a dictionary, also where it is
turned into JSON before the list or the dictionary is made. -/
theorem erasures_answers :
    erasures.answer? 3 1 (some (.object [("pair", .array [.bool true, .string ""]),
        ("texts", .object [("x", .string ""), ("y", .array [.string "", .array [.string ""]])])]))
        erasures.memory =
      some (.ok (.json (.object [("texts", .object [("y", .array [.null, .array [.null]])]),
        ("pair", .array [.bool true, .null])]))) ∧
    erasures.answer? 3 1 (some (.object [("pair", .null), ("texts", .object [])]))
        erasures.memory =
      some (.ok (.json (.object [("texts", .object []), ("pair", .array [.null])]))) ∧
    erasures.answer? 3 1 (some (.object [("texts", .null)])) erasures.memory =
      some (.error (.located (some (.object [("texts", .null)])) (Path.ofList [.field "texts"])
        "expected an object, got null")) := by
  have hstart : erasures.Reached erasures.memory := .start
  have htexts : Erased someCopies (.firstOf (someTexts.map Prod.fst))
      (.firstOf (someTexts.map Prod.snd)) :=
    .firstOf (List.forall_mem_cons.mpr ⟨.erase (.refl _),
      List.forall_mem_singleton.mpr (.erase (.remembered ⟨rfl, rfl⟩))⟩)
  have hpair : Erased someCopies (.tuple (somePair.map Prod.fst))
      (.tuple (somePair.map Prod.snd)) :=
    .tuple (List.forall_mem_cons.mpr ⟨.refl _, List.forall_mem_singleton.mpr (.erase (.refl _))⟩)
  have hfields : Erased someCopies (.record (someFields.map fun field => (field.1, field.2.1)))
      (.record (someFields.map fun field => (field.1, field.2.2))) :=
    .record (List.forall_mem_cons.mpr ⟨.erase (.dictionary htexts),
      List.forall_mem_singleton.mpr (.fallback rfl hpair)⟩)
  have hcopies : ∀ definition copy, someCopies definition copy →
      Erased someCopies (erasures.body definition) (erasures.body copy) := by
    rintro _ _ ⟨rfl, rfl⟩
    exact .erase (.list (.erase htexts))
  have hanswers := fun input => @answers_of_erased erasures _ _ hstart hstart someCopies hcopies _ _
    hfields 0 1 rfl rfl 3 input
  exact ⟨(hanswers _).symm.trans rfl, (hanswers _).symm.trans rfl, (hanswers _).symm.trans rfl⟩

end Scenario

end JsonValidators
