import JsonValidators.Proofs.Equality
import Mathlib.Algebra.Order.Field.Basic
import Mathlib.Algebra.Order.Field.Rat
import Mathlib.Algebra.Order.Ring.Cast
import Mathlib.Data.Int.Cast.Lemmas

/-!
The numbers that numbers of JSON denote. A number is rounded to one of the binary64 format
to which no other of the format is nearer. A number that the format has is rounded
to itself, so rounding makes no difference to floats and to integers of up to 53 bits, and
what denotes the same number is rounded to the same number. Integers beyond 53 bits that
denote different numbers may be rounded to the same number as well.
-/

namespace JsonValidators

namespace Binary64

theorem roundDiv_of_dvd {num den : Nat} (hpos : 0 < den) (h : den ∣ num) :
    roundDiv num den = num / den := by
  have hmod : num % den = 0 := Nat.mod_eq_zero_of_dvd h
  simp only [roundDiv, hmod, Nat.mul_zero, if_pos hpos]

/-- No multiple of the divisor is nearer to the dividend. -/
theorem roundDiv_nearest {den : Nat} (hpos : 0 < den) (num multiple : Nat) :
    ((roundDiv num den * den : Nat) - num : Int).natAbs ≤
      ((multiple * den : Nat) - num : Int).natAbs := by
  have hdivision := Nat.div_add_mod' num den
  have hmod := Nat.mod_lt num hpos
  have hnext : (num / den + 1) * den = num / den * den + den := Nat.succ_mul _ _
  have hnear : ((roundDiv num den * den : Nat) - num : Int).natAbs ≤ num % den ∧
      ((roundDiv num den * den : Nat) - num : Int).natAbs ≤ den - num % den := by
    unfold roundDiv
    dsimp only
    split
    · omega
    · split
      · rw [hnext]
        omega
      · split
        · omega
        · rw [hnext]
          omega
  rcases Nat.lt_or_ge (num / den) multiple with hlt | hge
  · have hmul := Nat.mul_le_mul_right den (Nat.succ_le_of_lt hlt)
    rw [Nat.succ_eq_add_one, hnext] at hmul
    omega
  · have hmul := Nat.mul_le_mul_right den hge
    omega

theorem exponentOf_le {significand : Nat} (h : significand < 1 <<< 53) (exponent : Nat) :
    exponentOf (significand <<< exponent) ≤ exponent := by
  by_cases hzero : significand = 0
  · simp [hzero, exponentOf]
  · have hne : significand <<< exponent ≠ 0 := by simp [Nat.shiftLeft_eq, hzero]
    have hlt : (significand <<< exponent).log2 < 53 + exponent := by
      rw [Nat.log2_lt hne, Nat.pow_add, Nat.shiftLeft_eq]
      exact Nat.mul_lt_mul_of_pos_right h (Nat.two_pow_pos exponent)
    unfold exponentOf
    omega

/-- A count of units that the format can hold is the nearest one to itself. -/
theorem nearestUnits_of_representable {units : Nat} (h : Representable units) :
    nearestUnits units 1 = units := by
  obtain ⟨significand, exponent, hsignificand, _, rfl⟩ := h
  have hle := exponentOf_le hsignificand exponent
  simp only [nearestUnits, Nat.div_one]
  generalize exponentOf (significand <<< exponent) = shift at hle
  have hdvd : 1 <<< shift ∣ significand <<< exponent := by
    rw [Nat.shiftLeft_eq, Nat.shiftLeft_eq, Nat.one_mul]
    exact Nat.dvd_mul_left_of_dvd (Nat.pow_dvd_pow 2 hle) significand
  have hpos : 0 < 1 <<< shift := by
    rw [Nat.shiftLeft_eq, Nat.one_mul]
    exact Nat.two_pow_pos shift
  rw [roundDiv_of_dvd hpos hdvd, Nat.shiftLeft_eq, ← Nat.one_mul (2 ^ shift),
    ← Nat.shiftLeft_eq 1, Nat.div_mul_cancel hdvd]

/-- Large counts that the format can hold have a large exponent. -/
theorem dvd_of_representable {units exponent : Nat} (h : Representable units)
    (hlarge : 1 <<< 52 <<< exponent ≤ units) : 1 <<< exponent ∣ units := by
  obtain ⟨significand, shift, hsignificand, _, rfl⟩ := h
  simp only [Nat.shiftLeft_eq, Nat.one_mul] at hlarge hsignificand ⊢
  have hlt : 2 ^ 52 * 2 ^ exponent < 2 ^ 53 * 2 ^ shift :=
    Nat.lt_of_le_of_lt hlarge (Nat.mul_lt_mul_of_pos_right hsignificand (Nat.two_pow_pos shift))
  rw [← Nat.pow_add, ← Nat.pow_add] at hlt
  have hle := (Nat.pow_lt_pow_iff_right (by decide)).mp hlt
  exact Nat.dvd_mul_left_of_dvd (Nat.pow_dvd_pow 2 (by omega)) significand

/-- No count of units that the format can hold is nearer. -/
theorem nearestUnits_nearest (num : Nat) {units : Nat} (h : Representable units) :
    ((nearestUnits num 1 : Nat) - num : Int).natAbs ≤ ((units : Nat) - num : Int).natAbs := by
  have hpos : 0 < 1 <<< exponentOf num := by
    rw [Nat.shiftLeft_eq, Nat.one_mul]
    exact Nat.two_pow_pos _
  have hmultiple := roundDiv_nearest hpos num
  have hnearest : nearestUnits num 1 =
      roundDiv num (1 <<< exponentOf num) * 1 <<< exponentOf num := by
    simp only [nearestUnits, Nat.div_one, Nat.shiftLeft_eq, Nat.one_mul]
  rw [hnearest]
  rcases Nat.lt_or_ge units (1 <<< 52 <<< exponentOf num) with hsmall | hlarge
  · by_cases hzero : exponentOf num = 0
    · have hexact := hmultiple num
      simp only [hzero, Nat.shiftLeft_zero, Nat.mul_one] at hexact ⊢
      omega
    · -- The least count with this exponent is between the smaller count and the number.
      have hleast := hmultiple (1 <<< 52)
      have hbelow : 1 <<< 52 * 1 <<< exponentOf num ≤ num := by
        have hlog : 52 + exponentOf num = num.log2 := by
          unfold exponentOf at hzero ⊢
          omega
        have hne : num ≠ 0 := by
          rintro rfl
          exact hzero (by decide)
        rw [Nat.shiftLeft_eq, Nat.shiftLeft_eq, Nat.one_mul, Nat.one_mul, ← Nat.pow_add, hlog]
        exact Nat.log2_self_le hne
      have hleft : 1 <<< 52 <<< exponentOf num = 1 <<< 52 * 1 <<< exponentOf num := by
        rw [Nat.shiftLeft_eq _ (exponentOf num), Nat.shiftLeft_eq 1 (exponentOf num), Nat.one_mul]
      rw [hleft] at hsmall
      omega
  · obtain ⟨multiple, rfl⟩ := dvd_of_representable h hlarge
    rw [Nat.mul_comm (1 <<< exponentOf num) multiple]
    exact hmultiple multiple

/-- The format has all integers of up to 53 bits. -/
theorem representable_integer {value : Nat} (h : value ≤ 1 <<< 53) :
    Representable (value <<< unitBits) := by
  rcases Nat.lt_or_ge value (1 <<< 53) with hlt | hge
  · exact ⟨value, unitBits, hlt, by decide, rfl⟩
  · obtain rfl : value = 1 <<< 53 := Nat.le_antisymm h hge
    have hdouble : 1 <<< 53 = (1 <<< 52) <<< 1 := by decide
    refine ⟨1 <<< 52, 1 + unitBits, by decide, by decide, ?_⟩
    rw [Nat.shiftLeft_add, hdouble]

end Binary64

namespace Number

open Binary64

/-- How many units of the binary64 format a number is. -/
def units : Number → Int
  | integer value _ => value * (1 <<< unitBits : Nat)
  | float value => value.signedUnits

/-- The number that is denoted. -/
def value (x : Number) : ℚ := x.units / (1 <<< unitBits : Nat)

/-- The binary64 number nearest to a number. -/
def nearest (x : Number) : Number := float x.toBinary64

/-- A number that the binary64 format has. -/
def Exact (x : Number) : Prop := Representable x.units.natAbs

theorem one_units_ne_zero : ((1 <<< unitBits : Nat) : ℚ) ≠ 0 := by
  rw [Nat.cast_ne_zero, Nat.shiftLeft_eq, Nat.one_mul]
  exact (Nat.two_pow_pos unitBits).ne'

theorem value_inj {x y : Number} : x.value = y.value ↔ x.units = y.units := by
  rw [value, value, div_left_inj' one_units_ne_zero, Int.cast_inj]

theorem value_integer (value : Int) (h : IntegerRange value) :
    (integer value h).value = value := by
  rw [Number.value, units, Int.cast_mul, Int.cast_natCast,
    mul_div_cancel_right₀ _ one_units_ne_zero]

theorem exact_float (value : Binary64) : (float value).Exact := by
  have habs : (float value).units.natAbs = value.units := by
    change value.signedUnits.natAbs = value.units
    unfold signedUnits
    split <;> omega
  rw [Exact, habs]
  exact value.representable

theorem units_integer (value : Int) (h : IntegerRange value) : (integer value h).units =
    if value < 0 then -((value.natAbs <<< unitBits : Nat) : Int)
    else (value.natAbs <<< unitBits : Nat) := by
  rw [units, Nat.shiftLeft_eq, Nat.shiftLeft_eq, Nat.one_mul, Int.natCast_mul]
  generalize ((2 ^ unitBits : Nat) : Int) = one
  by_cases hnegative : value < 0
  · rw [if_pos hnegative, Int.ofNat_natAbs_of_nonpos hnegative.le, Int.neg_mul, Int.neg_neg]
  · rw [if_neg hnegative, Int.natAbs_of_nonneg (Int.not_lt.mp hnegative)]

theorem units_nearest_integer (value : Int) (h : IntegerRange value) :
    (integer value h).nearest.units =
      if value < 0 then -((nearestUnits (value.natAbs <<< unitBits) 1 : Nat) : Int)
      else (nearestUnits (value.natAbs <<< unitBits) 1 : Nat) := by
  simp only [nearest, units, toBinary64, ofInteger, signedUnits, decide_eq_true_eq]

theorem natAbs_units_integer (value : Int) (h : IntegerRange value) :
    (integer value h).units.natAbs = value.natAbs <<< unitBits := by
  rw [units_integer]
  generalize value.natAbs <<< unitBits = units
  split <;> omega

/-- Integers of up to 53 bits are exact. -/
theorem exact_integer {value : Int} (h : IntegerRange value) (hsmall : value.natAbs ≤ 1 <<< 53) :
    (integer value h).Exact := by
  rw [Exact, natAbs_units_integer]
  exact representable_integer hsmall

/-- An exact number is rounded to itself. -/
theorem Exact.units_nearest {x : Number} (h : x.Exact) : x.nearest.units = x.units := by
  cases x with
  | float value => rfl
  | integer value inRange =>
    rw [Exact, natAbs_units_integer] at h
    rw [units_nearest_integer, units_integer, nearestUnits_of_representable h]

/-- No number of the format is nearer to a number than the one that it is rounded to. -/
theorem nearest_units_le (x : Number) (y : Binary64) :
    (x.nearest.units - x.units).natAbs ≤ (y.signedUnits - x.units).natAbs := by
  cases x with
  | float value =>
    rw [(exact_float value).units_nearest, Int.sub_self]
    exact Nat.zero_le _
  | integer value inRange =>
    have hle := nearestUnits_nearest (value.natAbs <<< unitBits) y.representable
    rw [units_nearest_integer, units_integer]
    generalize nearestUnits (value.natAbs <<< unitBits) 1 = rounded at *
    generalize value.natAbs <<< unitBits = exact at *
    unfold signedUnits
    split <;> split <;> omega

theorem nearest_le (x : Number) (y : Binary64) :
    |x.nearest.value - x.value| ≤ |(float y).value - x.value| := by
  have hunits : |((x.nearest.units - x.units : Int) : ℚ)| ≤
      |(((float y).units - x.units : Int) : ℚ)| := by
    rw [← Int.cast_abs, ← Int.cast_abs, Int.cast_le, Int.abs_eq_natAbs, Int.abs_eq_natAbs]
    exact Int.ofNat_le.mpr (nearest_units_le x y)
  have hpos : (0 : ℚ) ≤ |((1 <<< unitBits : Nat) : ℚ)| := abs_nonneg _
  unfold value
  rw [← sub_div, ← sub_div, ← Int.cast_sub, ← Int.cast_sub, abs_div, abs_div]
  exact div_le_div_of_nonneg_right hunits hpos

theorem agrees_iff (x y : Number) : x.agrees y ↔ x.nearest.value = y.nearest.value := by
  rw [value_inj]
  exact beq_iff_eq

/-- An exact number agrees with the numbers that denote the same. -/
theorem Exact.agrees {x y : Number} (hx : x.Exact) (h : x.value = y.value) : x.agrees y := by
  have hunits := value_inj.mp h
  have hy : y.Exact := by
    rw [Exact, ← hunits]
    exact hx
  rw [agrees_iff, value_inj, hx.units_nearest, hy.units_nearest, hunits]

/-- Numbers that denote the same number agree. -/
theorem agrees_of_value {x y : Number} (h : x.value = y.value) : x.agrees y := by
  cases x with
  | float x => exact (exact_float x).agrees h
  | integer x hx =>
    cases y with
    | float y => rw [agrees_comm, (exact_float y).agrees h.symm]
    | integer y hy =>
      rw [value_integer, value_integer, Int.cast_inj] at h
      subst h
      exact beq_self_eq_true _

end Number

end JsonValidators
