import JsonValidators.Proofs.Denotation
import JsonValidators.Proofs.Endings
import JsonValidators.Proofs.Scenario

/-!
What constants accept. A constant accepts a value that denotes the same up to the rounding of
numbers, so it accepts exactly what denotes the same wherever rounding makes no difference.
Of an integer beyond 53 bits it also accepts neighbours.
-/

namespace JsonValidators

namespace Check

variable {input : Option Json}

theorem constant_ends (literal : Literal) (accepts : Json → Json → Bool) (input : Option Json) :
    ∃ outcome, (constant literal accepts input : Run Unit Output) () = some (outcome, ()) := by
  cases input with
  | none => exact ⟨_, rfl⟩
  | some value =>
    rw [constant]
    split <;> exact ⟨_, rfl⟩

/-- Of several constants one that is equivalent to the value is enough. -/
theorem exists_yields_literals {literals : List Literal} :
    (∃ output, (firstOf (literals.map fun literal => constant literal Json.equivalent) input :
      Run Unit Output).Yields output) ↔
        ∃ value, input = some value ∧
          ∃ literal ∈ literals, Json.equivalent value literal.toJson := by
  have hends : ∀ branch ∈ literals.map fun literal =>
      (constant literal Json.equivalent : Check Unit),
        ∃ outcome, branch input () = some (outcome, ()) := by
    intro branch hbranch
    obtain ⟨literal, _, rfl⟩ := List.mem_map.mp hbranch
    exact constant_ends _ _ input
  rw [exists_yields_firstOf hends]
  constructor
  · rintro ⟨branch, hbranch, output, hyields⟩
    obtain ⟨literal, hliteral, rfl⟩ := List.mem_map.mp hbranch
    obtain ⟨⟨value, hinput, hequivalent⟩, _⟩ := yields_constant.mp hyields
    exact ⟨value, hinput, literal, hliteral, hequivalent⟩
  · rintro ⟨value, hinput, literal, hliteral, hequivalent⟩
    refine ⟨_, List.mem_map_of_mem hliteral, literal.toOutput, ?_⟩
    exact yields_constant.mpr ⟨⟨value, hinput, hequivalent⟩, rfl⟩

end Check

namespace Scenario

variable {scenario : Scenario} {memory : Memory} {number : Nat} {input : Option Json}

/-- The check of the input passes. -/
def Accepts (scenario : Scenario) (stages number : Nat) (input : Option Json) (memory : Memory) :
    Prop :=
  ∃ output memory', scenario.check stages number input memory = some (.ok output, memory')

theorem Reached.accepts_iff (h : scenario.Reached memory) (stages : Nat) :
    scenario.Accepts stages number input memory ↔ ∃ output,
      ((scenario.live number).validator.interpret (.forgetful scenario.body stages) 0 input).Yields
        output := by
  constructor
  · rintro ⟨output, memory', hcheck⟩
    exact ⟨output, h.consistent.yields_of_check hcheck⟩
  · rintro ⟨output, hyields⟩
    exact ⟨output, h.consistent.check_of_yields hyields⟩

theorem Reached.accepts_literal (h : scenario.Reached memory) (stages : Nat) {literal : Literal}
    (hvalidator : (scenario.live number).validator = .literal literal) :
    scenario.Accepts stages number input memory ↔
      ∃ value, input = some value ∧ Json.equivalent value literal.toJson := by
  rw [h.accepts_iff, hvalidator]
  constructor
  · rintro ⟨output, hyields⟩
    exact (Check.yields_constant.mp hyields).1
  · intro hvalue
    exact ⟨literal.toOutput, Check.yields_constant.mpr ⟨hvalue, rfl⟩⟩

theorem Reached.accepts_anyLiteral (h : scenario.Reached memory) (stages : Nat)
    {literals : List Literal}
    (hvalidator : (scenario.live number).validator = .anyLiteral literals) :
    scenario.Accepts stages number input memory ↔
      ∃ value, input = some value ∧
        ∃ literal ∈ literals, Json.equivalent value literal.toJson := by
  rw [h.accepts_iff, hvalidator, Validator.anyLiteral,
    (Construction.forgetful_placeless scenario.body stages).interpret_firstOf, List.map_map]
  exact Check.exists_yields_literals

/-- Equivalence is equality of what is denoted up to rounding, which leads to a nearest number
of the binary64 format, and a constant accepts what is equivalent to it. What denotes the same
is always equivalent, and nothing else is where the format has all the numbers. -/
theorem literals_accept_data (scenario : Scenario) :
    (∀ (number : Number) (other : Binary64), |number.nearest.value - number.value| ≤
      |(Number.float other).value - number.value|) ∧
    (∀ x y : Json, x.KeysDistinct → y.KeysDistinct →
      (Json.equivalent x y ↔ x.roundedData = y.roundedData) ∧
      (x.data = y.data → Json.equivalent x y) ∧
      (x.EveryNumber Number.Exact → y.EveryNumber Number.Exact →
        (Json.equivalent x y ↔ x.data = y.data))) ∧
    (∀ memory stages number literal (value : Json), scenario.Reached memory →
      (scenario.live number).validator = .literal literal →
      literal.toJson.KeysDistinct → value.KeysDistinct →
        (scenario.Accepts stages number (some value) memory ↔
          value.roundedData = literal.toJson.roundedData) ∧
        ¬ scenario.Accepts stages number none memory) ∧
    ∀ memory stages number literals (value : Json), scenario.Reached memory →
      (scenario.live number).validator = .anyLiteral literals →
      (∀ literal ∈ literals, literal.toJson.KeysDistinct) → value.KeysDistinct →
        (scenario.Accepts stages number (some value) memory ↔
          ∃ literal ∈ literals, value.roundedData = literal.toJson.roundedData) ∧
        ¬ scenario.Accepts stages number none memory := by
  refine ⟨Number.nearest_le, fun x y hx hy => ⟨?_, ?_, ?_⟩, ?_, ?_⟩
  · exact Json.equivalent_iff_roundedData hx hy
  · exact Json.equivalent_of_data hx hy
  · exact Json.equivalent_iff_data hx hy
  · intro memory stages number literal value h hvalidator hliteral hvalue
    rw [h.accepts_literal stages hvalidator, h.accepts_literal stages hvalidator]
    simp [Json.equivalent_iff_roundedData hvalue hliteral]
  · intro memory stages number literals value h hvalidator hliterals hvalue
    rw [h.accepts_anyLiteral stages hvalidator, h.accepts_anyLiteral stages hvalidator]
    refine ⟨?_, by simp⟩
    simp only [Option.some.injEq, exists_eq_left']
    refine exists_congr fun literal => and_congr_right fun hmem => ?_
    exact Json.equivalent_iff_roundedData hvalue (hliterals literal hmem)

/-- An object with an integer, and a string or an integer of 54 bits. -/
def versions : Scenario :=
  ⟨fun _ => .never "not defined",
    [.literal (.json (.object [("a", .number (.integer 1 (by decide))), ("b", .null)])),
      .anyLiteral [.json (.string "none"),
        .json (.number (.integer 0x20000000000001 (by decide)))]]⟩

/-- Neither the order of keys matters nor the kind of a number. -/
theorem versions_accept_reordered :
    versions.Accepts 0 0 (some (.object [("b", .null),
      ("a", .number (.float (Number.integer 1 (by decide)).toBinary64))])) versions.memory ∧
    Json.data (.object [("b", .null),
        ("a", .number (.float (Number.integer 1 (by decide)).toBinary64))]) =
      Json.data (.object [("a", .number (.integer 1 (by decide))), ("b", .null)]) ∧
    ¬ versions.Accepts 0 1 none versions.memory := by
  obtain ⟨_, hequivalent, hliteral, hany⟩ := literals_accept_data versions
  have hfloat : (Json.object [("b", .null),
      ("a", .number (.float (Number.integer 1 (by decide)).toBinary64))]).EveryNumber
        Number.Exact := by
    refine .object (List.forall_mem_cons.mpr ⟨.null, List.forall_mem_singleton.mpr ?_⟩)
    exact .number (Number.exact_float _)
  have hinteger : (Json.object [("a", .number (.integer 1 (by decide))), ("b", .null)]).EveryNumber
      Number.Exact := by
    refine .object (List.forall_mem_cons.mpr ⟨?_, List.forall_mem_singleton.mpr .null⟩)
    exact .number (Number.exact_integer _ (by decide))
  obtain ⟨hrounded, _, hexact⟩ := hequivalent
    (.object [("b", .null), ("a", .number (.float (Number.integer 1 (by decide)).toBinary64))])
    (.object [("a", .number (.integer 1 (by decide))), ("b", .null)]) (by decide) (by decide)
  have hequal := hexact hfloat hinteger
  refine ⟨?_, hequal.mp (by decide +kernel), ?_⟩
  · exact (hliteral _ 0 0 _ _ .start rfl (by decide) (by decide)).1.mpr
      (hrounded.mp (by decide +kernel))
  · exact (hany _ 0 1 [.json (.string "none"),
      .json (.number (.integer 0x20000000000001 (by decide)))] .null .start rfl (by decide)
        (by decide)).2

/-- Two integers that denote different numbers are equivalent, and a constant that is the one
accepts the other. -/
theorem equivalent_not_data :
    Json.equivalent (.number (.integer 0x20000000000000 (by decide)))
        (.number (.integer 0x20000000000001 (by decide))) ∧
      Json.data (.number (.integer 0x20000000000000 (by decide))) ≠
        Json.data (.number (.integer 0x20000000000001 (by decide))) ∧
      versions.Accepts 0 1 (some (.number (.integer 0x20000000000000 (by decide))))
        versions.memory := by
  have hequivalent : Json.equivalent (.number (.integer 0x20000000000000 (by decide)))
      (.number (.integer 0x20000000000001 (by decide))) := by decide +kernel
  refine ⟨hequivalent, fun h => ?_, ?_⟩
  · simp only [Json.data, Json.dataBy, Data.number.injEq, Number.value_integer] at h
    exact absurd (Int.cast_inj.mp h) (by decide)
  · have hvalidator : (versions.live 1).validator = .anyLiteral [.json (.string "none"),
        .json (.number (.integer 0x20000000000001 (by decide)))] := rfl
    rw [Reached.start.accepts_anyLiteral 0 hvalidator]
    exact ⟨_, rfl, _, List.mem_cons_of_mem _ List.mem_cons_self, hequivalent⟩

end Scenario

end JsonValidators
