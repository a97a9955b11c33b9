import JsonValidators.Proofs.Endings
import JsonValidators.Proofs.Outputs
import JsonValidators.Proofs.Scenario
import Mathlib.Data.List.Induction

/-!
What object validators make of their declarations. Of several declarations of a name the first
gives the place and the last the validator. The fields that are left are looked at in order, up
to the first that rejects its property, and only then the other keys of the object.
-/

namespace JsonValidators

open Run

namespace Entries

variable {α : Type}

theorem ofList_concat (pairs : List (String × α)) (pair : String × α) :
    ofList (pairs ++ [pair]) = insert (ofList pairs) pair.1 pair.2 := List.foldl_append

/-- Every key stands where it occurs first. -/
theorem keys_ofList (pairs : List (String × α)) :
    keys (ofList pairs) = (keys pairs).eraseDups := by
  -- From the end: the last pair is stored into what the pairs before it come to.
  induction pairs using List.reverseRecOn with
  | nil => rfl
  | append_singleton pairs pair ih =>
    have hkeys : keys (pairs ++ [pair]) = keys pairs ++ [pair.1] := List.map_append
    rw [ofList_concat, keys_insert, hkeys, List.eraseDups_append, ← ih]
    by_cases hmem : pair.1 ∈ keys pairs
    · rw [if_pos (mem_keys_ofList.mpr hmem)]
      simp [List.removeAll, hmem]
    · rw [if_neg (mt mem_keys_ofList.mp hmem)]
      simp [List.removeAll, hmem, List.eraseDups_cons]

/-- Every key has the value that comes last for it. -/
theorem last_of_get?_ofList {pairs : List (String × α)} {key : String} {value : α}
    (h : get? (ofList pairs) key = some value) :
    ∃ before after, pairs = before ++ (key, value) :: after ∧ key ∉ keys after := by
  induction pairs using List.reverseRecOn with
  | nil => cases h
  | append_singleton pairs pair ih =>
    rw [ofList_concat, get?_insert] at h
    split at h
    · next heq =>
      obtain rfl := heq
      obtain rfl := Option.some.inj h
      exact ⟨pairs, [], rfl, List.not_mem_nil⟩
    · next hne =>
      obtain ⟨before, after, rfl, hlast⟩ := ih h
      refine ⟨before, after ++ [pair], by simp, ?_⟩
      rw [keys, List.map_append, List.mem_append, not_or]
      exact ⟨hlast, fun hmem => hne (List.mem_singleton.mp hmem).symm⟩

theorem last_of_mem_ofList {pairs : List (String × α)} {entry : String × α}
    (h : entry ∈ ofList pairs) :
    ∃ before after, pairs = before ++ entry :: after ∧ entry.1 ∉ keys after :=
  last_of_get?_ofList (get?_of_mem (nodup_keys_ofList pairs) h)

end Entries

namespace Check

variable {object : Entries Json} {input : Option Json} {output : Output} {fault : Fault}
  {declared : Entries (Check Unit)}

/-- The fields pass up to the first that rejects its property. -/
theorem fails_fields : (fields object declared).Fails fault ↔
    ∃ before field after inner, declared = before ++ field :: after ∧
      (∀ earlier ∈ before, ∃ output, (earlier.2 (Entries.get? object earlier.1)).Yields output) ∧
        (field.2 (Entries.get? object field.1)).Fails inner ∧
          fieldFault field.1 (Entries.get? object field.1) inner = fault := by
  rw [fields_eq_outputs, fails_mapValue, fieldOutputs, fails_all]
  constructor
  · rintro ⟨before, run, after, hsplit, hbefore, hrun⟩
    obtain ⟨earlier, rest, rfl, rfl, hrest⟩ := List.map_eq_append_iff.mp hsplit
    obtain ⟨field, later, rfl, rfl, rfl⟩ := List.map_eq_cons_iff.mp hrest
    obtain ⟨inner, hinner, hfault⟩ := fails_mapFault.mp ((fails_mapValue _ _).mp hrun)
    refine ⟨earlier, field, later, inner, rfl, fun other hother => ?_, hinner, hfault⟩
    obtain ⟨result, hresult⟩ := hbefore _ (List.mem_map_of_mem hother)
    obtain ⟨output, houtput, _⟩ := yields_mapValue.mp hresult
    exact ⟨output, (yields_mapFault _ _).mp houtput⟩
  · rintro ⟨before, field, after, inner, rfl, hbefore, hinner, hfault⟩
    refine ⟨_, _, _, by rw [List.map_append, List.map_cons], ?_,
      (fails_mapValue _ _).mpr (fails_mapFault.mpr ⟨inner, hinner, hfault⟩)⟩
    intro run hrun
    obtain ⟨earlier, hearlier, rfl⟩ := List.mem_map.mp hrun
    obtain ⟨output, houtput⟩ := hbefore earlier hearlier
    exact ⟨_, yields_mapValue.mpr ⟨output, (yields_mapFault _ _).mpr houtput, rfl⟩⟩

theorem record_of_kind {σ : Type} {declared : Entries (Check σ)} (h : Kind.of input ≠ .object) :
    record declared input = ofReason (wrongKind .object input) := by
  unfold record
  split
  · exact absurd rfl h
  · rfl

/-- Without other keys a record looks at the same fields, and then at the keys. -/
theorem closedRecord_eq_bind {σ : Type} (declared : Entries (Check σ)) (object : Entries Json) :
    closedRecord declared (some (.object object)) =
      (record declared (some (.object object))).bind fun output =>
        (undeclared? declared object).elim (ofValue output)
          fun key => ofReason (.undeclaredKey key) := by
  rw [record, bind_mapValue]
  refine congrArg (Run.bind (fields object declared)) (funext fun validated => ?_)
  cases undeclared? declared object <;> rfl

theorem closedRecord_fails_of_record (h : (record declared input).Fails fault) :
    (closedRecord declared input).Fails fault := by
  by_cases hkind : Kind.of input = .object
  · obtain ⟨object, rfl⟩ := Kind.exists_object hkind
    rw [closedRecord_eq_bind]
    exact fails_bind.mpr (.inl h)
  · rcases record_fails h with ⟨_, rfl⟩ | ⟨object, rfl, _⟩
    · unfold closedRecord
      split
      · exact absurd rfl hkind
      · exact (fails_ofReason _ _).mpr rfl
    · exact absurd rfl hkind

/-- No key is undeclared exactly if all are declared. -/
theorem undeclared?_eq_none_iff :
    undeclared? declared object = none ↔
      ∀ key ∈ Entries.keys object, key ∈ Entries.keys declared := by
  rw [undeclared?, List.find?_eq_none]
  refine forall₂_congr fun key _ => ?_
  rw [← Entries.isSome_get?_iff, Entries.contains, Bool.not_eq_true', Bool.not_eq_false]

/-- The key that is reported is the first in the order of the object. -/
theorem undeclared?_of_split {before after : List String} {key : String}
    (hkeys : Entries.keys object = before ++ key :: after)
    (hbefore : ∀ other ∈ before, other ∈ Entries.keys declared)
    (hkey : key ∉ Entries.keys declared) : undeclared? declared object = some key := by
  rw [undeclared?, hkeys, List.find?_eq_some_iff_append]
  refine ⟨?_, before, after, rfl, fun other hother => ?_⟩
  · simpa [Entries.contains] using mt (Entries.isSome_get?_iff declared key).mp hkey
  · simpa [Entries.contains] using (Entries.isSome_get?_iff declared other).mpr
      (hbefore other hother)

theorem yields_closedRecord_iff_record :
    (closedRecord declared (some (.object object))).Yields output ↔
      (record declared (some (.object object))).Yields output ∧
        ∀ key ∈ Entries.keys object, key ∈ Entries.keys declared := by
  rw [closedRecord_eq_bind, yields_bind, ← undeclared?_eq_none_iff]
  cases undeclared? declared object <;> simp

theorem closedRecord_fails_of_undeclared {key : String}
    (h : (record declared (some (.object object))).Yields output)
    (hkey : undeclared? declared object = some key) :
    (closedRecord declared (some (.object object))).Fails (Fault.here (.undeclaredKey key)) := by
  rw [closedRecord_eq_bind]
  refine fails_bind.mpr (.inr ⟨output, h, ?_⟩)
  rw [hkey]
  exact (fails_ofReason _ _).mpr rfl

end Check

namespace Fields

/-- The validators of the fields accept the properties of an object, and the results are what
they produce, under the names of the fields. -/
def Produce (body : String → Validator) (stages : Nat) (object : Entries Json) (fields : Fields)
    (results : List (String × Output)) : Prop :=
  List.Forall₂ (fun field result => field.1 = result.1 ∧
    field.2.outcome? body stages (Entries.get? object field.1) = some (.ok result.2)) fields results

/-- The fields accept their properties up to the one with a name, whose validator ends in a
fault. -/
def RejectFirst (body : String → Validator) (stages : Nat) (object : Entries Json)
    (fields : Fields) (name : String) (fault : Fault) : Prop :=
  ∃ before validator after, fields = before ++ (name, validator) :: after ∧
    (∀ field ∈ before, ∃ output,
      field.2.outcome? body stages (Entries.get? object field.1) = some (.ok output)) ∧
    validator.outcome? body stages (Entries.get? object name) = some (.error fault)

end Fields

namespace Validator

theorem keys_interpretFields {σ : Type} (make : Construction σ) (declarations : Fields)
    (base : Nat) :
    Entries.keys (interpretFields make declarations base) = declarations.names := by
  induction declarations generalizing base with
  | nil => rfl
  | cons field declarations ih =>
    rw [interpretFields, Entries.keys_cons, ih]
    rfl

variable {body : String → Validator} {stages : Nat} {declarations : Fields} {input : Option Json}
  {object : Entries Json} {output : Output} {fault : Fault}

theorem outcome?_record_ok_iff :
    (record declarations).outcome? body stages (some (.object object)) = some (.ok output) ↔
      ∃ results, Fields.Produce body stages object (Entries.ofList declarations) results ∧
        .json (.object (Output.entriesJson results)) = output := by
  rw [outcome?_eq_some_iff, (Construction.forgetful_placeless body stages).interpret_record]
  refine Check.yields_record.trans ?_
  simp only [List.forall₂_map_left_iff, Fields.Produce, outcome?_eq_some_iff]
  constructor
  · rintro ⟨_, results, hinput, hresults, houtput⟩
    cases hinput
    exact ⟨results, hresults, houtput⟩
  · rintro ⟨results, hresults, houtput⟩
    exact ⟨object, results, rfl, hresults, houtput⟩

theorem outcome?_record_error_iff :
    (record declarations).outcome? body stages (some (.object object)) = some (.error fault) ↔
      ∃ name inner,
        Fields.RejectFirst body stages object (Entries.ofList declarations) name inner ∧
          Check.fieldFault name (Entries.get? object name) inner = fault := by
  rw [outcome?_eq_some_iff, (Construction.forgetful_placeless body stages).interpret_record]
  refine (Run.fails_mapValue _ _).trans (Check.fails_fields.trans ?_)
  constructor
  · rintro ⟨before, field, after, inner, hsplit, hbefore, hfails, hfault⟩
    obtain ⟨earlier, rest, hfields, rfl, hrest⟩ := List.map_eq_append_iff.mp hsplit
    obtain ⟨entry, later, rfl, rfl, _⟩ := List.map_eq_cons_iff.mp hrest
    refine ⟨entry.1, inner, ⟨earlier, entry.2, later, hfields, fun other hother => ?_, ?_⟩, hfault⟩
    · obtain ⟨output, houtput⟩ := hbefore _ (List.mem_map_of_mem hother)
      exact ⟨output, outcome?_eq_some_iff.mpr houtput⟩
    · exact outcome?_eq_some_iff.mpr hfails
  · rintro ⟨name, inner, ⟨before, validator, after, hsplit, hbefore, hfails⟩, hfault⟩
    rw [hsplit, List.map_append, List.map_cons]
    refine ⟨_, _, _, inner, rfl, fun other hother => ?_, outcome?_eq_some_iff.mp hfails, hfault⟩
    obtain ⟨entry, hentry, rfl⟩ := List.mem_map.mp hother
    obtain ⟨output, houtput⟩ := hbefore entry hentry
    exact ⟨output, outcome?_eq_some_iff.mp houtput⟩

theorem outcome?_record_of_kind (h : Kind.of input ≠ .object) :
    (record declarations).outcome? body stages input =
      some (.error (Fault.here (.kind .object (Kind.of input)))) := by
  rw [outcome?_eq_some_iff, (Construction.forgetful_placeless body stages).interpret_record,
    Check.record_of_kind h]
  rfl

/-- Where a record fails, it fails in the same way without other keys. -/
theorem outcome?_closedRecord_of_error
    (h : (record declarations).outcome? body stages input = some (.error fault)) :
    (closedRecord declarations).outcome? body stages input = some (.error fault) := by
  have hplaceless := Construction.forgetful_placeless body stages
  rw [outcome?_eq_some_iff, hplaceless.interpret_record] at h
  rw [outcome?_eq_some_iff, hplaceless.interpret_closedRecord]
  exact Check.closedRecord_fails_of_record h

/-- The names that are declared are those of the checks that the declarations come to. -/
theorem mem_keys_checks (make : Construction Unit) {key : String} :
    key ∈ Entries.keys ((Entries.ofList declarations).map
      fun entry => (entry.1, entry.2.interpret make 0)) ↔ key ∈ declarations.names := by
  rw [Entries.keys_map fun validator => interpret make validator 0]
  exact Entries.mem_keys_ofList

theorem outcome?_closedRecord_ok_iff :
    (closedRecord declarations).outcome? body stages (some (.object object)) = some (.ok output) ↔
      (record declarations).outcome? body stages (some (.object object)) = some (.ok output) ∧
        ∀ key ∈ Entries.keys object, key ∈ declarations.names := by
  have hplaceless := Construction.forgetful_placeless body stages
  rw [outcome?_eq_some_iff, outcome?_eq_some_iff, hplaceless.interpret_record,
    hplaceless.interpret_closedRecord]
  refine Check.yields_closedRecord_iff_record.trans (and_congr_right fun _ => ?_)
  exact forall₂_congr fun key _ => mem_keys_checks _

theorem outcome?_closedRecord_of_undeclared {before after : List String} {key : String}
    (h : (record declarations).outcome? body stages (some (.object object)) = some (.ok output))
    (hkeys : Entries.keys object = before ++ key :: after)
    (hbefore : ∀ other ∈ before, other ∈ declarations.names) (hkey : key ∉ declarations.names) :
    (closedRecord declarations).outcome? body stages (some (.object object)) =
      some (.error (Fault.here (.undeclaredKey key))) := by
  have hplaceless := Construction.forgetful_placeless body stages
  rw [outcome?_eq_some_iff, hplaceless.interpret_record] at h
  rw [outcome?_eq_some_iff, hplaceless.interpret_closedRecord]
  refine Check.closedRecord_fails_of_undeclared h (Check.undeclared?_of_split hkeys ?_ ?_)
  · exact fun other hother => (mem_keys_checks _).mpr (hbefore other hother)
  · exact mt (mem_keys_checks _).mp hkey

end Validator

namespace Scenario

/-- The fields of an object validator are the names that are declared, in the order of their
first declarations, each with the validator of its last one. Whatever has been checked before,
an object passes if all fields accept their properties, and what they produce makes up the
output; otherwise the first field that rejects its property is reported, and at the object if
the property is missing. Without other keys the fields come first: where they fail, the answer
is the same, and where they pass, all keys of the object have to be declared. -/
theorem answers_follow_declarations {scenario : Scenario} {memory later : Memory}
    (h : scenario.Reached memory) (hlater : scenario.Reached later) (stages : Nat)
    {number strict : Nat} {declarations : Fields}
    (hnumber : (scenario.live number).validator = .record declarations)
    (hstrict : (scenario.live strict).validator = .closedRecord declarations) :
    let fields := declarations.foldl (fun fields field => Fields.declare fields field.1 field.2) []
    let answer? := fun input => scenario.answer? stages number input memory
    let strictAnswer? := fun input => scenario.answer? stages strict input later
    (Fields.names fields = declarations.names.eraseDups ∧ (Fields.names fields).Nodup ∧
      ∀ field ∈ fields, ∃ before after,
        declarations = before ++ field :: after ∧ field.1 ∉ Fields.names after) ∧
    (∀ input, Kind.of input ≠ .object → answer? input = some (.error
      (.located input Path.root ("expected an object, got " ++ (Kind.of input).description)))) ∧
    (∀ object output, answer? (some (.object object)) = some (.ok output) ↔
      ∃ results, Fields.Produce scenario.body stages object fields results ∧
        output = .json (.object (results.filterMap fun result =>
          result.2.toJson?.map fun value => (result.1, value)))) ∧
    (∀ object failure, answer? (some (.object object)) = some (.error failure) ↔
      ∃ name fault, Fields.RejectFirst scenario.body stages object fields name fault ∧
        failure = if (Entries.get? object name).isSome then
          .located (some (.object object)) (Path.cons (.field name) fault.path) fault.message
        else .located (some (.object object)) Path.root
          ("the key '" ++ name ++ "' is required but was not present")) ∧
    (∀ input failure, answer? input = some (.error failure) →
      strictAnswer? input = some (.error failure)) ∧
    (∀ object output, strictAnswer? (some (.object object)) = some (.ok output) ↔
      answer? (some (.object object)) = some (.ok output) ∧
        ∀ key ∈ Entries.keys object, key ∈ declarations.names) ∧
    ∀ object output before key after, answer? (some (.object object)) = some (.ok output) →
      Entries.keys object = before ++ key :: after →
      (∀ other ∈ before, other ∈ declarations.names) → key ∉ declarations.names →
        strictAnswer? (some (.object object)) = some (.error (.located (some (.object object))
          Path.root ("an undefined key '" ++ key ++ "' is present in the object"))) := by
  intro fields answer? strictAnswer?
  have hok : ∀ {input output}, answer? input = some (.ok output) ↔
      (Validator.record declarations).outcome? scenario.body stages input = some (.ok output) := by
    intro input output
    rw [← hnumber]
    exact h.answer?_ok_iff
  have herror : ∀ {input failure}, answer? input = some (.error failure) ↔
      ∃ fault, (Validator.record declarations).outcome? scenario.body stages input =
        some (.error fault) ∧ fault.toFailure input = failure := by
    intro input failure
    rw [← hnumber]
    exact h.answer?_error_iff
  have hstrictError : ∀ {input fault}, (Validator.closedRecord declarations).outcome? scenario.body
      stages input = some (.error fault) →
        strictAnswer? input = some (.error (fault.toFailure input)) := by
    intro input fault hfault
    rw [← hstrict] at hfault
    exact hlater.answer?_error_iff.mpr ⟨fault, hfault, rfl⟩
  refine ⟨⟨Entries.keys_ofList declarations, Entries.nodup_keys_ofList declarations,
    fun field hfield => Entries.last_of_mem_ofList hfield⟩, ?_, ?_, ?_, ?_, ?_, ?_⟩
  · intro input hkind
    exact herror.mpr ⟨_, Validator.outcome?_record_of_kind hkind, rfl⟩
  · intro object output
    rw [hok, Validator.outcome?_record_ok_iff]
    refine exists_congr fun results => and_congr_right fun _ => ?_
    rw [Output.entriesJson_eq_filterMap, eq_comm]
  · intro object failure
    rw [herror]
    simp only [Validator.outcome?_record_error_iff]
    constructor
    · rintro ⟨_, ⟨name, inner, hrejects, rfl⟩, rfl⟩
      refine ⟨name, inner, hrejects, ?_⟩
      cases Entries.get? object name <;> rfl
    · rintro ⟨name, inner, hrejects, rfl⟩
      refine ⟨_, ⟨name, inner, hrejects, rfl⟩, ?_⟩
      cases Entries.get? object name <;> rfl
  · intro input failure hfailure
    obtain ⟨fault, hfault, rfl⟩ := herror.mp hfailure
    exact hstrictError (Validator.outcome?_closedRecord_of_error hfault)
  · intro object output
    rw [hok, ← Validator.outcome?_closedRecord_ok_iff, ← hstrict]
    exact hlater.answer?_ok_iff
  · intro object output before key after houtput hkeys hbefore hkey
    exact hstrictError (Validator.outcome?_closedRecord_of_undeclared (hok.mp houtput) hkeys
      hbefore hkey)

/-- Two fields, of which the first is declared again, with and without other keys. -/
def redeclared : Scenario :=
  ⟨fun _ => .never "not defined",
    [.record [("b", .number), ("a", .string), ("b", .optional .boolean)],
      .closedRecord [("b", .number), ("a", .string), ("b", .optional .boolean)]]⟩

/-- The field that is declared again keeps its place and need not be there, but null is not one
of its values. -/
theorem redeclared_answers :
    redeclared.answer? 0 0 (some (.object [("x", .null), ("a", .string "s"), ("b", .bool true)]))
        redeclared.memory = some (.ok (.json (.object [("b", .bool true), ("a", .string "s")]))) ∧
    redeclared.answer? 0 1 (some (.object [("x", .null), ("a", .string "s"), ("b", .bool true)]))
        redeclared.memory = some (.error (.located
          (some (.object [("x", .null), ("a", .string "s"), ("b", .bool true)])) Path.root
            "an undefined key 'x' is present in the object")) ∧
    redeclared.answer? 0 0 (some (.object [])) redeclared.memory =
      some (.error (.located (some (.object [])) Path.root
        "the key 'a' is required but was not present")) ∧
    redeclared.answer? 0 0 (some (.object [("a", .null), ("b", .null)])) redeclared.memory =
      some (.error (.located (some (.object [("a", .null), ("b", .null)]))
        (Path.ofList [.field "b"]) "expected a boolean, got null")) := by
  have hstart : redeclared.Reached redeclared.memory := .start
  have hopen : (redeclared.live 0).validator =
      .record [("b", .number), ("a", .string), ("b", .optional .boolean)] := rfl
  have hclosed : (redeclared.live 1).validator =
      .closedRecord [("b", .number), ("a", .string), ("b", .optional .boolean)] := rfl
  obtain ⟨_, _, hok, herror, _, _, hundeclared⟩ :=
    answers_follow_declarations hstart hstart 0 hopen hclosed
  have hpasses := (hok [("x", .null), ("a", .string "s"), ("b", .bool true)] _).mpr
    ⟨[("b", .present (.json (.bool true))), ("a", .json (.string "s"))],
      .cons ⟨rfl, rfl⟩ (.cons ⟨rfl, rfl⟩ .nil), rfl⟩
  refine ⟨hpasses, ?_, ?_, ?_⟩
  · exact hundeclared _ _ [] "x" ["a", "b"] hpasses rfl nofun (by decide)
  · refine (herror [] _).mpr ⟨"a", Fault.here (.kind .string .undefined), ?_, rfl⟩
    refine ⟨[("b", .optional .boolean)], .string, [], rfl, fun field hfield => ?_, rfl⟩
    obtain rfl := List.mem_singleton.mp hfield
    exact ⟨.undefined, rfl⟩
  · refine (herror _ _).mpr ⟨"b", Fault.here (.kind .boolean .null), ?_, rfl⟩
    exact ⟨[], .optional .boolean, [("a", .string)], rfl, nofun, rfl⟩

end Scenario

end JsonValidators
