import JsonValidators.Proofs.Constants

/-!
Equivalence of JSON values as an equivalence relation. It is equality of what is denoted up to
rounding, so it is one on all values in which no object has a key twice, and what constants accept
depends on nothing but the class that they are in.
-/

namespace JsonValidators

/-- Numbers that are the same in a report agree. -/
theorem Number.agrees_of_same {x y : Number} (h : x.same y) : x.agrees y := by
  cases x with
  | integer value inRange =>
    cases y with
    | integer value' inRange' =>
      obtain rfl : value = value' := beq_iff_eq.mp h
      exact (agrees_iff _ _).mpr rfl
    | float value' => cases h
  | float value =>
    cases y with
    | integer value' inRange' => cases h
    | float value' => exact h

namespace Json

variable {x y z x' y' : Json}

theorem equivalent_symm (hx : x.KeysDistinct) (hy : y.KeysDistinct) (h : equivalent x y) :
    equivalent y x := by
  rw [equivalent_iff_roundedData hx hy] at h
  exact (equivalent_iff_roundedData hy hx).mpr h.symm

theorem equivalent_trans (hx : x.KeysDistinct) (hy : y.KeysDistinct) (hz : z.KeysDistinct)
    (h : equivalent x y) (h' : equivalent y z) : equivalent x z := by
  rw [equivalent_iff_roundedData hx hy] at h
  rw [equivalent_iff_roundedData hy hz] at h'
  exact (equivalent_iff_roundedData hx hz).mpr (h.trans h')

theorem equivalent_of_same (hx : x.KeysDistinct) (hy : y.KeysDistinct) (h : same x y) :
    equivalent x y := equalBy_mono (fun _ _ => Number.agrees_of_same) hx hy h

/-- The order of keys does not matter on either side. -/
theorem equivalent_iff_of_reordered (h : Reordered x x') (h' : Reordered y y') :
    equivalent x y ↔ equivalent x' y' := by
  have hx' := h.symm.keysDistinct
  rw [h.equivalent_iff y]
  constructor
  · intro hequivalent
    have hy := equivalent_symm hx' h'.keysDistinct hequivalent
    exact equivalent_symm h'.symm.keysDistinct hx' ((h'.equivalent_iff x').mp hy)
  · intro hequivalent
    have hy' := equivalent_symm hx' h'.symm.keysDistinct hequivalent
    exact equivalent_symm h'.keysDistinct hx' ((h'.equivalent_iff x').mpr hy')

end Json

namespace Scenario

/-- On values in which no object has a key twice, equivalence is an equivalence relation. Values
that are the same in a report are equivalent, and the order of keys does not matter on either side.
Whatever has been checked before, two constants accept the same inputs exactly if they are
equivalent. -/
theorem literals_accept_same (scenario : Scenario) :
    (Equivalence fun x y : {value : Json // value.KeysDistinct} =>
      (Json.equivalent x.val y.val : Prop)) ∧
    (∀ x y : Json, x.KeysDistinct → y.KeysDistinct → Json.same x y → Json.equivalent x y) ∧
    (∀ x x' y y' : Json, x.Reordered x' → y.Reordered y' →
      (Json.equivalent x y ↔ Json.equivalent x' y')) ∧
    ∀ {memory later : Memory}, scenario.Reached memory → scenario.Reached later →
      ∀ {first second : Nat} {literal literal' : Literal},
        (scenario.live first).validator = .literal literal →
        (scenario.live second).validator = .literal literal' →
        literal.toJson.KeysDistinct → literal'.toJson.KeysDistinct → ∀ stages,
          ((∀ input : Option Json, (∀ value ∈ input, value.KeysDistinct) →
            (scenario.Accepts stages first input memory ↔
              scenario.Accepts stages second input later)) ↔
            Json.equivalent literal.toJson literal'.toJson) := by
  refine ⟨⟨fun x => Json.equivalent_self x.property, ?_, ?_⟩,
    fun x y => Json.equivalent_of_same, fun x x' y y' => Json.equivalent_iff_of_reordered, ?_⟩
  · exact fun {x y} h => Json.equivalent_symm x.property y.property h
  · exact fun {x y z} h h' => Json.equivalent_trans x.property y.property z.property h h'
  · intro memory later h hlater first second literal literal' hfirst hsecond hliteral hliteral'
      stages
    constructor
    · -- The first constant itself is an input that it accepts.
      intro hsame
      have hown := hsame (some literal.toJson) (by simpa using hliteral)
      rw [h.accepts_literal stages hfirst, hlater.accepts_literal stages hsecond] at hown
      obtain ⟨value, hvalue, hequivalent⟩ :=
        hown.mp ⟨_, rfl, Json.equivalent_self hliteral⟩
      exact Option.some.inj hvalue ▸ hequivalent
    · intro hequivalent input hinput
      rw [h.accepts_literal stages hfirst, hlater.accepts_literal stages hsecond]
      refine exists_congr fun value => and_congr_right fun hvalue => ?_
      have hdistinct := hinput value hvalue
      constructor
      · exact fun haccepts =>
          Json.equivalent_trans hdistinct hliteral hliteral' haccepts hequivalent
      · exact fun haccepts => Json.equivalent_trans hdistinct hliteral' hliteral haccepts
          (Json.equivalent_symm hliteral hliteral' hequivalent)

/-- An object with an integer, the same with a float in another order, and with another integer. -/
def spellings : Scenario :=
  ⟨fun _ => .never "not defined",
    [.literal (.json (.object [("a", .number (.integer 2 (by decide))), ("b", .null)])),
      .literal (.json (.object [("b", .null),
        ("a", .number (.float (Number.integer 2 (by decide)).toBinary64))])),
      .literal (.json (.object [("a", .number (.integer 3 (by decide))), ("b", .null)]))]⟩

/-- The first two accept the same inputs, and there is an input that the last one does not accept
as they do. -/
theorem spellings_accept_same :
    (∀ input : Option Json, (∀ value ∈ input, value.KeysDistinct) →
      (spellings.Accepts 0 0 input spellings.memory ↔
        spellings.Accepts 0 1 input spellings.memory)) ∧
    ¬ ∀ input : Option Json, (∀ value ∈ input, value.KeysDistinct) →
      (spellings.Accepts 0 0 input spellings.memory ↔
        spellings.Accepts 0 2 input spellings.memory) := by
  obtain ⟨_, _, _, haccept⟩ := literals_accept_same spellings
  have hfloat := @haccept _ _ .start .start 0 1 _ _ rfl rfl (by decide) (by decide) 0
  have hother := @haccept _ _ .start .start 0 2 _ _ rfl rfl (by decide) (by decide) 0
  exact ⟨hfloat.mpr (by decide +kernel), fun hsame => absurd (hother.mp hsame) (by decide +kernel)⟩

end Scenario

end JsonValidators
