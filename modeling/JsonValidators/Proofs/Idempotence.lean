import JsonValidators.Proofs.Rereading
import JsonValidators.Proofs.Scenario
import JsonValidators.Proofs.Unfolding

/-!
Idempotence. An expression that only selects and normalizes, definitions included,
accepts the JSON value of what it has produced and produces the same again. The
induction is on how deep references have been followed, and inside a definition on
the expression; the second check may follow references as deep as it takes.
-/

namespace JsonValidators

open Run

namespace Validator

section Stable

variable (body : String → Validator)

/-- What an expression that selects and normalizes may itself be. A constant is compared by
equivalence and accepts what it is produced as, a condition looks at the JSON value of an output
only, and a fallback is rejected by what it stands in for, or left as it is. -/
def Normalizes : Validator → Prop
  | constant literal accepts => accepts = Json.equivalent ∧ literal.AcceptsItself
  | always output => output.toJson?.isSome
  | ensure accepts _ _ => ∀ output output' : Output, output.toJson? = output'.toJson? →
      accepts output = accepts output'
  | fallback default inner => default.toJson?.isSome ∧
      ∃ outcome, inner.result? body default.toJson? = some outcome ∧
        ∀ output, outcome = .ok output → output.toJson? = default.toJson?
  | firstOf _ | intersection _ | follow _ _ | map _ _ | select _ _ _ | continueWith _ _ => False
  | _ => True

/-- An expression that selects and normalizes, to any depth. -/
def Stable (validator : Validator) : Prop :=
  ∀ part, Unfolds body validator part → Normalizes body part

variable {body}

theorem Stable.self {validator : Validator} (h : validator.Stable body) :
    validator.Normalizes body := h validator .refl

theorem Stable.unfold {validator validator' : Validator} (h : validator.Stable body)
    (hunfolds : Unfolds body validator validator') : validator'.Stable body := by
  exact fun part hpart => h part (hunfolds.trans hpart)

theorem Stable.parts {validator part : Validator} (h : validator.Stable body)
    (hpart : Part part validator) : part.Stable body := h.unfold (.part .refl hpart)

/-- If the outputs of stable definitions are read again as they are, so are those of
all stable expressions. -/
theorem rereads_of_stable {make : Construction Unit} (hplaceless : make.Placeless)
    (hbuild : ∀ definition, (body definition).Stable body →
      Rereads (make.build definition) ((body definition).meaning body))
    (hremember : ∀ definition cell, make.remember definition cell = make.build definition)
    (validator : Validator) (h : validator.Stable body) :
    Rereads (validator.interpret make 0) (validator.meaning body) := by
  have hunbounded := Construction.unbounded_placeless body
  induction validator with
  | string => exact Rereads.of_passes Check.string_passes
  | number => exact Rereads.number
  | boolean => exact Rereads.of_passes Check.boolean_passes
  | undefined => exact Rereads.of_passes Check.undefined_passes
  | anything => exact Rereads.anything
  | array => exact Rereads.of_passes Check.array_passes
  | object => exact Rereads.of_passes Check.object_passes
  | constant literal accepts =>
    obtain ⟨rfl, haccepts⟩ := h.self
    exact Rereads.constant haccepts
  | always output => exact Rereads.always h.self
  | never message =>
    refine Rereads.of_same fun input output hyields => ?_
    exact absurd hyields (not_yields_ofReason _ _)
  | record declarations ih =>
    rw [meaning, hplaceless.interpret_record, hunbounded.interpret_record]
    refine Rereads.record (fun inner => interpret make inner 0) (fun inner => meaning body inner)
      (Entries.nodup_keys_ofList declarations) fun entry hentry => ?_
    have hmem := Entries.mem_ofList hentry
    exact ih entry hmem (h.parts (.field hmem))
  | closedRecord declarations ih =>
    rw [meaning, hplaceless.interpret_closedRecord, hunbounded.interpret_closedRecord]
    refine Rereads.closedRecord (fun inner => interpret make inner 0)
      (fun inner => meaning body inner) (Entries.nodup_keys_ofList declarations)
      fun entry hentry => ?_
    have hmem := Entries.mem_ofList hentry
    exact ih entry hmem (h.parts (.closedField hmem))
  | dictionary value ih => exact (ih (h.parts .value)).dictionary
  | list element ih => exact (ih (h.parts .element)).list
  | tuple elements ih =>
    rw [meaning, hplaceless.interpret_tuple, hunbounded.interpret_tuple]
    exact Rereads.tuple fun element hmem => ih element hmem (h.parts (.position hmem))
  | optional inner ih => exact (ih (h.parts .present)).optional
  | fallback default inner ih =>
    obtain ⟨hdefault, outcome, hresult, hkept⟩ := h.self
    have hmeaning := meaning_eq body inner default.toJson?
    rw [hresult] at hmeaning
    exact (ih (h.parts .tried)).fallback hdefault ⟨outcome, hmeaning, hkept⟩
  | ensure accepts reason inner ih =>
    exact (ih (h.parts .restricted)).ensure reason h.self
  | rebuilt definition =>
    rw [meaning_rebuilt]
    exact hbuild definition (h.unfold (.rebuilt .refl))
  | remembered definition =>
    rw [meaning_remembered, interpret, hremember]
    exact hbuild definition (h.unfold (.remembered .refl))
  | shared base inner ih =>
    rw [meaning, hplaceless.interpret_shared, hunbounded.interpret_shared]
    exact ih (h.parts .inUse)
  | firstOf | intersection | follow | map | select | continueWith => exact h.self.elim

theorem forgetful_rereads (stages : Nat) (validator : Validator) (h : validator.Stable body) :
    Rereads (validator.interpret (.forgetful body stages) 0) (validator.meaning body) := by
  induction stages generalizing validator with
  | zero =>
    have hnever : ∀ (input : Option Json) output definition,
        ¬ ((Construction.forgetful body 0).build definition input).Yields output := by
      simp [Run.Yields, Construction.forgetful, Run.exhausted]
    refine rereads_of_stable (Construction.forgetful_placeless body 0) (fun definition _ => ?_)
      (fun _ _ => rfl) validator h
    exact ⟨fun input output hyields => absurd hyields (hnever input output definition),
      fun value output hyields => absurd hyields (hnever (some value) output definition)⟩
  | succ n ih =>
    exact rereads_of_stable (Construction.forgetful_placeless body (n + 1))
      (fun definition hdefinition => ih (body definition) hdefinition) (fun _ _ => rfl) validator h

/-- What a stable validator produces it produces again from what it has produced. -/
theorem Stable.result?_again {validator : Validator} (h : validator.Stable body)
    {input : Option Json} {output : Output}
    (hresult : validator.result? body input = some (.ok output)) :
    ∃ again, validator.result? body output.toJson? = some (.ok again) ∧
      again.toJson? = output.toJson? := by
  obtain ⟨stages, hstages⟩ := (result?_eq_some_iff body).mp hresult
  obtain ⟨again, hagain, hjson⟩ :=
    (forgetful_rereads stages validator h).again input output (run_of_outcome? hstages)
  exact ⟨again, yields_meaning.mp hagain, hjson⟩

end Stable

end Validator

namespace Scenario

/-- If a stable validator passes a value, it passes the JSON value of its output, and
the output then has the same JSON value, whatever has been checked in between. Constants in it
are those that accept what they are produced as. -/
theorem check_output_again {scenario : Scenario} {number : Nat}
    (hstable : (scenario.live number).validator.Stable scenario.body)
    {memory memory' later : Memory} (h : scenario.Reached memory) (hlater : scenario.Reached later)
    {stages : Nat} {input : Option Json} {output : Output}
    (hcheck : scenario.check stages number input memory = some (.ok output, memory')) :
    ∃ again last stages', again.toJson? = output.toJson? ∧ ∀ more, stages' ≤ more →
      scenario.check more number output.toJson? later = some (.ok again, last) := by
  obtain ⟨again, hagain, hjson⟩ := hstable.result?_again (h.consistent.result_of_check hcheck)
  obtain ⟨last, stages', hchecks⟩ := hlater.consistent.check_of_result hagain
  exact ⟨again, last, stages', hjson, hchecks⟩

/-- A constant that stands for no value. -/
def nothings : Scenario := ⟨fun _ => .never "not defined", [.literal (.ofOption none)]⟩

/-- The constant for no value accepts null and is produced as nothing, which it rejects, however
deep references are followed. -/
theorem check_nothings_differs :
    ∃ memory', nothings.check 0 0 (some .null) nothings.memory = some (.ok .undefined, memory') ∧
      Output.undefined.toJson? = none ∧
      ∀ more, nothings.check more 0 none memory' =
        some (.error (.located none Path.root "expected null, got undefined"), memory') :=
  ⟨_, rfl, rfl, fun _ => rfl⟩

/-- Names in a chain, each with a word and a number that is not finite, by a definition that
remembers itself. -/
def chains : Scenario :=
  ⟨fun _ => .record [("kind", .literal (.ofOption (some (.json (.string "link"))))),
      ("weight", .literal (.float .nan)), ("name", .string),
      ("next", .optional (.remembered "chain"))],
    [.remembered "chain"]⟩

/-- A key that is not declared is dropped at the first check, and nothing at the second. -/
theorem check_chains_again :
    let input := Json.object [("extra", .null), ("name", .string "a"), ("kind", .string "link"),
      ("next", .object [("weight", .null), ("kind", .string "link"), ("name", .string "b")]),
      ("weight", .null)]
    let output := Json.object [("kind", .string "link"), ("weight", .null), ("name", .string "a"),
      ("next", .object [("kind", .string "link"), ("weight", .null), ("name", .string "b")])]
    (∃ memory', chains.check 2 0 (some input) chains.memory = some (.ok (.json output), memory')) ∧
    ∃ again last stages', again.toJson? = some output ∧ ∀ more, stages' ≤ more →
      chains.check more 0 (some output) chains.memory = some (.ok again, last) := by
  intro input output
  have hword : (Literal.ofOption (some (.json (.string "link")))).AcceptsItself :=
    Literal.acceptsItself_ofOption.mpr ⟨_, rfl, Literal.acceptsItself_json (.string "link")⟩
  have hstable : (chains.live 0).validator.Stable chains.body := by
    refine Validator.madeOf_of_throughout (fun definition => ?_)
      (Validator.throughout_remembered.mpr trivial)
    show (chains.definitions definition).Throughout _
    simp [chains, Validator.Normalizes, Validator.literal, hword, Literal.acceptsItself_float]
  have hcheck : ∃ memory', chains.check 2 0 (some input) chains.memory =
      some (.ok (.json output), memory') := ⟨_, rfl⟩
  obtain ⟨memory', hcheck⟩ := hcheck
  exact ⟨⟨memory', hcheck⟩, check_output_again hstable .start .start hcheck⟩

end Scenario

end JsonValidators
