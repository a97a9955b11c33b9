import JsonValidators.Proofs.PathComposition
import JsonValidators.Proofs.Splitting

/-!
Paths of keys and records in one another. Both accept what is found behind the keys, with the
objects on the way rebuilt by the records; where the keys lead to a value, they also end in the
same faults. Elsewhere they still fail on the same inputs, each in its own words.
-/

namespace JsonValidators

/-- A path through objects. -/
def Path.ofKeys (keys : List String) : Path := ofList (keys.map .field)

/-- Records in one another: each key has a record with the next one, and the last key has the
validator. -/
def Validator.nest (keys : List String) (inner : Validator) : Validator :=
  keys.foldr (fun key value => record [(key, value)]) inner

namespace Output

/-- An object with an output under a key. It is empty if the output comes to nothing. -/
def under (key : String) (output : Output) : Output :=
  .json (.object (output.toJson?.elim [] fun value => [(key, value)]))

/-- Objects in one another, each with the next one under its key and the last with the output. -/
def nest (keys : List String) (output : Output) : Output := keys.foldr under output

end Output

namespace Check

open Run

variable {σ : Type} {input : Option Json} {value found : Json} {check : Check σ}

/-- Records in one another, as checks. -/
def nest (keys : List String) (check : Check σ) : Check σ :=
  keys.foldr (fun key value => record [(key, value)]) check

theorem record_single (key : String) (check : Check σ) (object : Entries Json) :
    record [(key, check)] (some (.object object)) =
      ((check (Entries.get? object key)).mapFault
        (fieldFault key (Entries.get? object key))).mapValue (Output.under key) := by
  rw [record, fields, mapValue_bind, ← bind_ofValue]
  refine congrArg _ (funext fun output => ?_)
  unfold Output.under
  cases output.toJson? <;> rfl

/-- Only an object has something behind a key. -/
theorem follow_of_kind {path : Path} {key : String} {rest : List Segment} (check : Check σ)
    (hpath : path.segments = .field key :: rest) (h : Kind.of input ≠ .object) :
    ∃ fault, follow path check input = ofFault fault := by
  have hwalk : ∃ fault, walk Path.root path.segments input = .error fault := by
    rw [hpath]
    cases input with
    | none => exact ⟨_, rfl⟩
    | some value => exact ⟨_, (walk_cons _ _ _ _).trans (if_neg h)⟩
  obtain ⟨fault, hfault⟩ := hwalk
  exact ⟨fault, follow_of_strayed hfault⟩

/-- Records in one another produce what is found behind the keys, with the keys around it. -/
theorem value?_nest (keys : List String) (check : Check σ) (input : Option Json) :
    (nest keys check input).value? = (follow (Path.ofKeys keys) check input).value?.mapValue
      (Option.map (Output.nest keys)) := by
  -- The first key is taken as a path by itself, which the record around the others stands for.
  -- Faults are left out, since the two need not report a missing value at the same place.
  induction keys generalizing input with
  | nil =>
    have hroot : walk Path.root (Path.ofKeys []).segments input = .ok input := rfl
    rw [follow_of_found hroot, value?_mapFault]
    refine (mapValue_eq_self fun _ value _ _ => ?_).symm
    cases value <;> rfl
  | cons key keys ih =>
    have hnest : nest (key :: keys) check = record [(key, nest keys check)] := rfl
    have hpath : Path.ofKeys (key :: keys) = Path.ofKeys [key] ++ Path.ofKeys keys := rfl
    by_cases hkind : Kind.of input = .object
    · obtain ⟨object, rfl⟩ := Kind.exists_object hkind
      have hstep : walk Path.root (Path.ofKeys [key]).segments (some (.object object)) =
          .ok (Entries.get? object key) := rfl
      rw [hnest, record_single, value?_mapValue, value?_mapFault, ih, mapValue_mapValue,
        hpath, value?_follow_append, follow_of_found hstep, value?_mapFault]
      refine congrArg (mapValue · _) (funext fun value => ?_)
      cases value <;> rfl
    · obtain ⟨fault, hfault⟩ := follow_of_kind check (congrArg Path.segments hpath) hkind
      rw [hnest, record_of_kind hkind, hfault]
      rfl

theorem nest_eq_ok_iff {keys : List String} {state last : σ} {output : Output} :
    nest keys check input state = some (.ok output, last) ↔
      ∃ produced, follow (Path.ofKeys keys) check input state = some (.ok produced, last) ∧
        Output.nest keys produced = output := by
  rw [← value?_eq_some_iff, value?_nest, mapValue_eq_ok_iff]
  constructor
  · rintro ⟨value, hvalue, hmap⟩
    obtain ⟨produced, rfl, hnest⟩ := Option.map_eq_some_iff.mp hmap
    exact ⟨produced, value?_eq_some_iff.mp hvalue, hnest⟩
  · rintro ⟨produced, hproduced, hnest⟩
    exact ⟨some produced, value?_eq_some_iff.mpr hproduced, congrArg some hnest⟩

theorem exists_nest_eq_error_iff {keys : List String} {state last : σ} :
    (∃ fault, nest keys check input state = some (.error fault, last)) ↔
      ∃ fault, follow (Path.ofKeys keys) check input state = some (.error fault, last) := by
  rw [← value?_eq_none_iff, ← value?_eq_none_iff, value?_nest, mapValue_eq_ok_iff]
  constructor
  · rintro ⟨value, hvalue, hmap⟩
    obtain rfl := Option.map_eq_none_iff.mp hmap
    exact hvalue
  · exact fun hnone => ⟨none, hnone, rfl⟩

/-- The state that is left behind is the same. -/
theorem map_snd_nest (keys : List String) (check : Check σ) (input : Option Json) (state : σ) :
    (nest keys check input state).map Prod.snd =
      (follow (Path.ofKeys keys) check input state).map Prod.snd := by
  rw [← map_snd_value?, value?_nest, map_snd_mapValue, map_snd_value?]

/-- Behind keys that lead to a value, faults are the same as well. -/
theorem nest_of_found {keys : List String} (check : Check σ)
    (h : (Path.ofKeys keys).resolve value = some found) :
    nest keys check (some value) =
      (follow (Path.ofKeys keys) check (some value)).mapValue (Output.nest keys) := by
  induction keys generalizing value with
  | nil =>
    have hroot : walk Path.root (Path.ofKeys []).segments (some value) = .ok (some value) := rfl
    have hlocated : ∀ fault, locatedFault (Path.ofKeys []) (some value) fault = fault :=
      Fault.underPath_root
    rw [follow_of_found hroot, mapFault_eq_self hlocated]
    exact (mapValue_eq_self fun _ _ _ _ => rfl).symm
  | cons key keys ih =>
    have hnest : nest (key :: keys) check = record [(key, nest keys check)] := rfl
    have hpath : Path.ofKeys (key :: keys) = Path.ofKeys [key] ++ Path.ofKeys keys := rfl
    obtain ⟨next, hnext, hrest⟩ := Option.bind_eq_some_iff.mp
      ((Path.resolve_cons value (.field key) (Path.ofKeys keys)).symm.trans h)
    obtain ⟨object, rfl⟩ : ∃ object, value = .object object := by
      obtain ⟨object, hobject⟩ := Kind.exists_object (Path.kind_of_step hnext)
      exact ⟨object, Option.some.inj hobject⟩
    have hproperty : Entries.get? object key = some next := hnext
    have hstep : walk Path.root (Path.ofKeys [key]).segments (some (.object object)) =
        .ok (some next) := congrArg Except.ok hproperty
    rw [hnest, record_single, hproperty, ih hrest, mapFault_mapValue, mapValue_mapValue, hpath,
      follow_append_of_found check hstep]
    rfl

end Check

namespace Validator

variable {σ : Type}

theorem interpret_nest (make : Construction σ) (keys : List String) (inner : Validator)
    (base : Nat) : interpret make (nest keys inner) base =
      Check.nest keys (interpret make inner base) := by
  induction keys with
  | nil => rfl
  | cons key keys ih =>
    have hnest : nest (key :: keys) inner = record [(key, nest keys inner)] := rfl
    have hfields : Entries.ofList (interpretFields make [(key, nest keys inner)] base) =
        [(key, interpret make (nest keys inner) base)] := rfl
    rw [hnest, interpret, hfields, ih]
    rfl

end Validator

namespace Scenario

/-- A validator may follow a path of keys or be the last of records in one another. Whatever has
been checked before, both pass on the same inputs, and the records produce what is found behind the
keys inside the objects that lead there. They also fail on the same inputs, and if the keys lead to
a value, in the same way. In the same memory cells they leave the same behind. -/
theorem answers_of_nest {scenario : Scenario} {memory later : Memory}
    (h : scenario.Reached memory) (hlater : scenario.Reached later) {keys : List String}
    {inner : Validator} {walk nested : Nat}
    (hwalk : (scenario.live walk).validator = .follow (Path.ofKeys keys) inner)
    (hnested : (scenario.live nested).validator = .nest keys inner) :
    (∀ stages input output, scenario.answer? stages nested input later = some (.ok output) ↔
      ∃ produced, scenario.answer? stages walk input memory = some (.ok produced) ∧
        Output.nest keys produced = output) ∧
    (∀ stages input, (∃ failure,
        scenario.answer? stages nested input later = some (.error failure)) ↔
      ∃ failure, scenario.answer? stages walk input memory = some (.error failure)) ∧
    (∀ stages value found, (Path.ofKeys keys).resolve value = some found →
      scenario.answer? stages nested (some value) later =
        (scenario.answer? stages walk (some value) memory).map
          (Outcome.map (Output.nest keys))) ∧
    ∀ library base input memory,
      ((Live.mk (.nest keys inner) base).check library input memory).map Prod.snd =
        ((Live.mk (.follow (Path.ofKeys keys) inner) base).check library input memory).map
          Prod.snd := by
  refine ⟨fun stages input output => ?_, fun stages input => ?_,
    fun stages value found hfound => ?_, fun library base input memory => ?_⟩
  · rw [hlater.answer?_ok_iff, hnested, Validator.outcome?_eq_some_iff, Validator.interpret_nest,
      Check.nest_eq_ok_iff]
    refine exists_congr fun produced => and_congr_left fun _ => ?_
    rw [h.answer?_ok_iff, hwalk, Validator.outcome?_eq_some_iff, Validator.interpret]
  · rw [hlater.exists_failure_iff, h.exists_failure_iff, hwalk, hnested, Validator.interpret_nest,
      Validator.interpret]
    exact Check.exists_nest_eq_error_iff
  · refine h.answer?_eq_map hlater ?_
    rw [hwalk, hnested, Validator.interpret_nest, Validator.interpret, Check.nest_of_found _ hfound]
  · rw [Live.check, Live.check, Live.interpret, Live.interpret, Validator.interpret_nest,
      Validator.interpret, Option.map_map, Option.map_map]
    exact Check.map_snd_nest keys _ input memory

/-- An optional string behind two keys, and in records that lead there. -/
def burrowed : Scenario :=
  ⟨fun _ => .never "not defined",
    [.follow (Path.ofKeys ["a", "b"]) (.optional .string), .nest ["a", "b"] (.optional .string)]⟩

/-- A string is found behind both keys, or nothing behind the second one, or something else. There
is nothing behind both keys where an array stands behind the first. -/
theorem burrowed_answers :
    burrowed.answer? 0 1 (some (.object [("c", .null), ("a", .object [("b", .string "x")])]))
        burrowed.memory =
      some (.ok (.json (.object [("a", .object [("b", .string "x")])]))) ∧
    burrowed.answer? 0 1 (some (.object [("a", .object [])])) burrowed.memory =
      some (.ok (.json (.object [("a", .object [])]))) ∧
    burrowed.answer? 0 1 (some (.object [("a", .object [("b", .null)])])) burrowed.memory =
      some (.error (.located (some (.object [("a", .object [("b", .null)])]))
        (Path.ofKeys ["a", "b"]) "expected a string, got null")) ∧
    ∃ failure, burrowed.answer? 0 1 (some (.object [("a", .array [])])) burrowed.memory =
      some (.error failure) := by
  have hstart : burrowed.Reached burrowed.memory := .start
  have hwalk : (burrowed.live 0).validator = .follow (Path.ofKeys ["a", "b"]) (.optional .string) :=
    rfl
  have hnested : (burrowed.live 1).validator = .nest ["a", "b"] (.optional .string) := rfl
  obtain ⟨hproduce, hfail, hfound, _⟩ := answers_of_nest hstart hstart hwalk hnested
  refine ⟨(hproduce 0 _ _).mpr ⟨.present (.json (.string "x")), rfl, rfl⟩,
    (hproduce 0 _ _).mpr ⟨.undefined, rfl, rfl⟩, ?_, (hfail 0 _).mpr ⟨_, rfl⟩⟩
  exact (hfound 0 _ .null rfl).trans rfl

end Scenario

end JsonValidators
