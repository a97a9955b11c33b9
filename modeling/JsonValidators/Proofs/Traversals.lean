import JsonValidators.Proofs.Splitting

/-!
Traversals against one another. On one array, a check of all items is a tuple of as many copies of
it; on one object, a check of all properties comes to the JSON value of a record with its keys; and
it makes no difference to a tuple whether its items are looked up or met one after another, or to
its JSON value whether its elements produce JSON already.
-/

namespace JsonValidators

namespace Output

theorem toJson?_ofOption (value : Option Json) : (ofOption value).toJson? = value := by
  cases value <;> rfl

theorem itemsJson_map {change : Output → Output}
    (h : ∀ output, (change output).toJson? = output.toJson?) (items : List Output) :
    itemsJson (items.map change) = itemsJson items := by
  induction items with
  | nil => rfl
  | cons item items ih => rw [List.map_cons, itemsJson, itemsJson, h, ih]

end Output

namespace Check

open Run

variable {σ : Type}

section Copies

variable (check : Check σ)

theorem items_eq_positions (position : Nat) (values : List Json) :
    items check position values =
      positions position (List.replicate values.length check) values := by
  induction values generalizing position with
  | nil => rfl
  | cons value values ih => rw [items, List.length_cons, List.replicate_succ, positions, ih]

/-- On an array, a check of all items is a tuple of as many copies. -/
theorem list_eq_tuple (values : List Json) : list check (some (.array values)) =
    tuple (List.replicate values.length check) (some (.array values)) := by
  rw [list, tuple, if_pos List.length_replicate.symm, items_eq_positions]

theorem fieldOutputs_keys {object : Entries Json} (h : (Entries.keys object).Nodup) :
    fieldOutputs object ((Entries.keys object).map fun key => (key, check)) =
      values check object := by
  rw [fieldOutputs, values_eq_all, Entries.keys, List.map_map, List.map_map]
  refine congrArg Run.all (List.map_congr_left fun entry hentry => ?_)
  have hvalue : Entries.get? object entry.1 = some entry.2 := Entries.get?_of_mem h hentry
  simp only [Function.comp_apply, hvalue]
  rfl

/-- On an object, a record with its keys comes to the JSON value of a check of all properties. -/
theorem record_keys {object : Entries Json} (h : (Entries.keys object).Nodup) :
    record ((Entries.keys object).map fun key => (key, check)) (some (.object object)) =
      (dictionary check (some (.object object))).mapValue fun output =>
        .ofOption output.toJson? := by
  rw [record, fields_eq_outputs, fieldOutputs_keys check h, dictionary, mapValue_mapValue,
    mapValue_mapValue]
  refine congrArg (mapValue · _) (funext fun entries => ?_)
  rw [Output.toJson?]
  rfl

end Copies

section Shapes

/-- While there are values for all of them, checks that look their values up are checks that meet
them in order. -/
theorem shapeItems_eq_positions {values : List Json} {position : Nat} {elements : List (Check σ)}
    (h : position + elements.length ≤ values.length) :
    shapeItems values position elements = positions position elements (values.drop position) := by
  induction elements generalizing position with
  | nil => rfl
  | cons element elements ih =>
    rw [List.length_cons] at h
    have hposition : position < values.length := by omega
    have hrest : position + 1 + elements.length ≤ values.length := by omega
    rw [shapeItems, List.getElem?_eq_getElem hposition, ih hrest,
      List.drop_eq_getElem_cons hposition, positions]

theorem tuple_of_kind {elements : List (Check σ)} {input : Option Json}
    (h : Kind.of input ≠ .array) :
    tuple elements input = Run.ofReason (.notTuple elements.length (Kind.of input)) := by
  rcases input with _ | _ | _ | _ | _ | _ | _
  case some.array => exact absurd rfl h
  all_goals rfl

theorem shape_of_kind {elements : List (Check σ)} {input : Option Json}
    (h : Kind.of input ≠ .array) :
    shape elements input = Run.ofReason (.notTuple elements.length (Kind.of input)) := by
  rcases input with _ | _ | _ | _ | _ | _ | _
  case some.array => exact absurd rfl h
  all_goals rfl

theorem shape_eq_tuple (elements : List (Check σ)) : shape elements = tuple elements := by
  funext input
  by_cases hkind : Kind.of input = .array
  · obtain ⟨values, rfl⟩ := Kind.exists_array hkind
    by_cases hlength : values.length = elements.length
    · have henough : 0 + elements.length ≤ values.length := by omega
      rw [shape, tuple, if_pos hlength, if_pos hlength, shapeItems_eq_positions henough,
        List.drop_zero]
    · rw [shape, tuple, if_neg hlength, if_neg hlength]
  · rw [shape_of_kind hkind, tuple_of_kind hkind]

variable (change : Output → Output)

theorem positions_map (position : Nat) (elements : List (Check σ)) (values : List Json) :
    positions position (elements.map (map change)) values =
      (positions position elements values).mapValue (List.map change) := by
  induction elements generalizing position values with
  | nil => rfl
  | cons element elements ih =>
    cases values with
    | nil => rfl
    | cons value values =>
      rw [List.map_cons, positions, map, mapFault_mapValue, bind_mapValue, ih, positions,
        mapValue_bind]
      simp only [mapValue_mapValue, List.map_cons]

variable {change}

/-- The JSON value of a tuple does not depend on what its elements produce beyond JSON. -/
theorem tuple_map (h : ∀ output, (change output).toJson? = output.toJson?)
    (elements : List (Check σ)) (input : Option Json) :
    (tuple (elements.map (map change)) input).mapValue Output.toJson? =
      (tuple elements input).mapValue Output.toJson? := by
  by_cases hkind : Kind.of input = .array
  · obtain ⟨values, rfl⟩ := Kind.exists_array hkind
    rw [tuple, tuple, List.length_map, positions_map]
    split
    · rw [mapValue_mapValue, mapValue_mapValue, mapValue_mapValue]
      refine congrArg (mapValue · _) (funext fun items => ?_)
      rw [Output.toJson?, Output.toJson?, Output.itemsJson_map h]
    · rfl
  · rw [tuple_of_kind hkind, tuple_of_kind hkind, List.length_map]

end Shapes

end Check

namespace Validator

/-- By themselves, validators with the same bare form do the same. -/
theorem interpret_of_bare {body : String → Validator} {stages : Nat} {first second : Validator}
    (h : first.bare = second.bare) : interpret (.forgetful body stages) first 0 =
      interpret (.forgetful body stages) second 0 := by
  rw [← interpret_bare body stages first, ← interpret_bare body stages second, h]

section Copies

variable {body : String → Validator} {stages : Nat}

/-- Without memory, copies are one and the same check. -/
theorem interpret_tuple_copies {copies : List Validator} {element : Validator}
    (h : ∀ copy ∈ copies, copy.bare = element.bare) :
    interpret (.forgetful body stages) (tuple copies) 0 = Check.tuple
      (List.replicate copies.length (interpret (.forgetful body stages) element 0)) := by
  rw [(Construction.forgetful_placeless body stages).interpret_tuple]
  refine congrArg Check.tuple (List.eq_replicate_iff.mpr ⟨List.length_map _, fun check hcheck => ?_⟩)
  obtain ⟨copy, hcopy, rfl⟩ := List.mem_map.mp hcheck
  exact interpret_of_bare (h copy hcopy)

theorem interpret_record_copies {declarations : Fields} {value : Validator}
    (hnames : declarations.names.Nodup)
    (h : ∀ declaration ∈ declarations, declaration.2.bare = value.bare) :
    interpret (.forgetful body stages) (record declarations) 0 = Check.record
      (declarations.names.map fun name =>
        (name, interpret (.forgetful body stages) value 0)) := by
  rw [(Construction.forgetful_placeless body stages).interpret_record,
    Entries.ofList_of_nodup hnames, Fields.names, Entries.keys, List.map_map]
  refine congrArg Check.record (List.map_congr_left fun declaration hdeclaration => ?_)
  exact congrArg _ (interpret_of_bare (h declaration hdeclaration))

/-- Elements as JSON, or copies of them as JSON, change what they produce in the same way. -/
theorem interpret_tuple_asJson {copies elements : List Validator}
    (h : copies.map bare = elements.map bare) :
    interpret (.forgetful body stages) (tuple (copies.map asJson)) 0 = Check.tuple
      ((elements.map fun element => interpret (.forgetful body stages) element 0).map
        (Check.map fun output => .ofOption output.toJson?)) := by
  have hbare : ∀ validators : List Validator,
      validators.map (fun validator => interpret (.forgetful body stages) validator 0) =
        (validators.map bare).map fun validator =>
          interpret (.forgetful (fun definition => (body definition).bare) stages) validator 0 := by
    intro validators
    rw [List.map_map]
    exact List.map_congr_left fun validator _ => (interpret_bare body stages validator).symm
  rw [(Construction.forgetful_placeless body stages).interpret_tuple, hbare elements, ← h,
    ← hbare copies, List.map_map, List.map_map]
  rfl

end Copies

end Validator

namespace Scenario

/-- Whatever has been checked before, the traversals of arrays and objects agree. On an array, a
list and a tuple of as many copies of its element produce the same items or fail in the same way;
on an object, so do the JSON value of a dictionary and a record that declares a copy of the value
under each key. For a tuple it makes no difference whether each of its elements looks its item up,
and on every input it comes to the JSON value of a tuple of copies of its elements as JSON, or fails
in the same way. A copy may have memo cells of its own. -/
theorem traversals_agree {scenario : Scenario} {memory later : Memory}
    (h : scenario.Reached memory) (hlater : scenario.Reached later) :
    (∀ {first second : Nat} {element : Validator} {copies : List Validator} {values : List Json},
      (scenario.live first).validator = .list element →
      (scenario.live second).validator = .tuple copies →
      copies.length = values.length → (∀ copy ∈ copies, copy.bare = element.bare) →
      ∀ stages, scenario.answer? stages first (some (.array values)) memory =
        scenario.answer? stages second (some (.array values)) later) ∧
    (∀ {first second : Nat} {value : Validator} {declarations : Fields} {object : Entries Json},
      (scenario.live first).validator = .dictionary value →
      (scenario.live second).validator = .record declarations →
      (Entries.keys object).Nodup → declarations.names = Entries.keys object →
      (∀ declaration ∈ declarations, declaration.2.bare = value.bare) →
      ∀ stages, scenario.answer? stages second (some (.object object)) later =
        (scenario.answer? stages first (some (.object object)) memory).map
          (Outcome.map fun output => .ofOption output.toJson?)) ∧
    ∀ {first second : Nat} {elements copies : List Validator},
      (scenario.live first).validator = .tuple elements →
      (scenario.live second).validator = .tuple (copies.map .asJson) →
      copies.map Validator.bare = elements.map Validator.bare →
      (∀ {σ} (make : Construction σ) base, Validator.interpret make (.tuple elements) base =
        Check.shape (Validator.interpretList make elements base)) ∧
      ∀ stages input,
        (scenario.answer? stages first input memory).map (Outcome.map Output.toJson?) =
          (scenario.answer? stages second input later).map (Outcome.map Output.toJson?) := by
  refine ⟨fun hfirst hsecond hlength hcopies stages => ?_,
    fun {_ _ _ declarations _} hfirst hsecond hnodup hkeys hcopies stages => ?_,
    fun hfirst hsecond hcopies => ⟨fun make base => ?_, fun stages input => ?_⟩⟩
  · refine h.answer?_congr hlater ?_
    rw [hfirst, hsecond, Validator.interpret, Validator.interpret_tuple_copies hcopies, hlength,
      Check.list_eq_tuple]
  · refine h.answer?_eq_map hlater ?_
    have hnames : declarations.names.Nodup := hkeys ▸ hnodup
    rw [hfirst, hsecond, Validator.interpret_record_copies hnames hcopies, hkeys,
      Check.record_keys _ hnodup, Validator.interpret]
  · rw [Validator.interpret, Check.shape_eq_tuple]
  · rw [h.map_answer?, hlater.map_answer?, hfirst, hsecond,
      Validator.interpret_tuple_asJson hcopies,
      (Construction.forgetful_placeless scenario.body stages).interpret_tuple,
      Check.tuple_map fun output => Output.toJson?_ofOption output.toJson?]

/-- A text, of which an empty one comes to nothing. -/
def filledText : Validator :=
  .map (fun output => if output.string? = some "" then .undefined else output) .string

/-- Texts in lists, tuples, dictionaries and records. -/
def traversed : Scenario :=
  ⟨fun _ => .never "not defined",
    [.list filledText, .tuple [filledText, filledText], .dictionary filledText,
      .record [("b", filledText), ("a", filledText)],
      .tuple [.asJson filledText, .asJson filledText]]⟩

/-- Texts that come to nothing are items without a value, and their keys are left out. The first
value that is no text is reported. -/
theorem traversed_answers :
    traversed.answer? 0 0 (some (.array [.string "", .string "x"])) traversed.memory =
      some (.ok (.list [.undefined, .json (.string "x")])) ∧
    traversed.answer? 0 3 (some (.object [("b", .string ""), ("a", .string "x")]))
        traversed.memory = some (.ok (.json (.object [("a", .string "x")]))) ∧
    traversed.answer? 0 3 (some (.object [("b", .null), ("a", .null)])) traversed.memory =
      some (.error (.located (some (.object [("b", .null), ("a", .null)]))
        (Path.ofList [.field "b"]) "expected a string, got null")) ∧
    (traversed.answer? 0 4 (some (.array [.string "", .string "x"])) traversed.memory).map
        (Outcome.map Output.toJson?) =
      some (.ok (some (.array [.null, .string "x"]))) ∧
    (traversed.answer? 0 4 (some (.array [.null])) traversed.memory).map
        (Outcome.map Output.toJson?) =
      some (.error (.located (some (.array [.null])) Path.root
        "expected a tuple of length 2, got one of length 1")) := by
  have hstart : traversed.Reached traversed.memory := .start
  obtain ⟨hlist, hdictionary, hshape⟩ := traversals_agree hstart hstart
  have hitems := fun values hlength => @hlist 0 1 filledText [filledText, filledText] values rfl rfl
    hlength (by simp) 0
  have hfields := fun object hnodup hkeys => @hdictionary 2 3 filledText
    [("b", filledText), ("a", filledText)] object rfl rfl hnodup hkeys (by simp) 0
  obtain ⟨_, hjson⟩ := @hshape 1 4 [filledText, filledText] _ rfl rfl rfl
  exact ⟨(hitems _ rfl).trans rfl, (hfields _ (by decide) rfl).trans rfl,
    (hfields _ (by decide) rfl).trans rfl, (hjson 0 _).symm.trans rfl, (hjson 0 _).symm.trans rfl⟩

end Scenario

end JsonValidators
