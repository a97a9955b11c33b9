/-!
Finite numbers of the binary64 format, held exactly. Every such number is a
whole multiple of 2^-1074, the distance between the numbers closest to zero,
so a sign and a count of these units describe it. Comparison is comparison of
integers, and rounding a quotient is integer division.
-/

namespace JsonValidators

/-- A count of units that the format can hold: a significand below 2^53 shifted
by an exponent that is not too large. -/
def Representable (units : Nat) : Prop :=
  ∃ significand exponent : Nat,
    significand < 1 <<< 53 ∧ exponent ≤ 2045 ∧ units = significand <<< exponent

/-- A finite number of the format. Zero exists with either sign. -/
structure Binary64 where
  negative : Bool
  units : Nat
  representable : Representable units
  deriving DecidableEq

namespace Binary64

/-- One is `1 <<< unitBits` units. -/
def unitBits : Nat := 1074

/-- Every number of the format stays below `1 <<< limitBits` units. -/
def limitBits : Nat := 2098

theorem representable_zero : Representable 0 := ⟨0, 0, by decide, by decide, by decide⟩

def zero : Binary64 := ⟨false, 0, representable_zero⟩

def negativeZero : Binary64 := ⟨true, 0, representable_zero⟩

/-- The number of units with its sign. Both zeros give zero. -/
def signedUnits (x : Binary64) : Int := if x.negative then -(x.units : Int) else x.units

/-- Equality of the numbers denoted, so that the two zeros are equal. -/
def numericEq (x y : Binary64) : Bool := x.signedUnits == y.signedUnits

def lt (x y : Binary64) : Bool := decide (x.signedUnits < y.signedUnits)

def le (x y : Binary64) : Bool := decide (x.signedUnits ≤ y.signedUnits)

/-- The exponent that a number of this size is written with: the shift that leaves
a significand of at most 53 bits. -/
def exponentOf (units : Nat) : Nat := units.log2 - 52

/-- The quotient rounded to the nearest integer, a half to the even one. -/
def roundDiv (num den : Nat) : Nat :=
  let quotient := num / den
  let twice := 2 * (num % den)
  if twice < den then quotient
  else if den < twice then quotient + 1
  else if quotient % 2 = 0 then quotient
  else quotient + 1

theorem roundDiv_le (num den : Nat) : roundDiv num den ≤ num / den + 1 := by
  simp only [roundDiv]
  split
  · omega
  · split
    · omega
    · split <;> omega

theorem le_roundDiv (num den : Nat) : num / den ≤ roundDiv num den := by
  simp only [roundDiv]
  split
  · omega
  · split
    · omega
    · split <;> omega

/-- The whole number nearest to a quotient that has a significand of 53 bits. -/
def nearestUnits (num den : Nat) : Nat :=
  let exponent := exponentOf (num / den)
  roundDiv num (den <<< exponent) <<< exponent

/-- The significand that rounding leaves fits, or is the next power of two. -/
theorem roundDiv_shifted_le (num den : Nat) :
    roundDiv num (den <<< exponentOf (num / den)) ≤ 1 <<< 53 := by
  have hround := roundDiv_le num (den <<< exponentOf (num / den))
  simp only [Nat.shiftLeft_eq, Nat.one_mul] at hround ⊢
  have hlt : num / den < 2 ^ ((num / den).log2 + 1) := Nat.lt_log2_self
  have hexp : (num / den).log2 + 1 ≤ exponentOf (num / den) + 53 := by
    simp only [exponentOf]
    omega
  have hpow : 2 ^ ((num / den).log2 + 1) ≤ 2 ^ (exponentOf (num / den) + 53) :=
    Nat.pow_le_pow_right (by decide) hexp
  have hdiv : num / (den * 2 ^ exponentOf (num / den)) < 2 ^ 53 := by
    rw [← Nat.div_div_eq_div_mul]
    apply Nat.div_lt_of_lt_mul
    rw [← Nat.pow_add]
    omega
  omega

/-- A quotient that needs shifting keeps a full significand. -/
theorem le_roundDiv_shifted (num den : Nat) (hexp : 0 < exponentOf (num / den)) :
    1 <<< 52 ≤ roundDiv num (den <<< exponentOf (num / den)) := by
  refine Nat.le_trans ?_ (le_roundDiv num _)
  simp only [Nat.shiftLeft_eq, Nat.one_mul]
  rw [← Nat.div_div_eq_div_mul]
  apply (Nat.le_div_iff_mul_le (Nat.two_pow_pos _)).mpr
  rw [← Nat.pow_add]
  have hlog : 52 + exponentOf (num / den) = (num / den).log2 := by
    simp only [exponentOf] at hexp ⊢
    omega
  rw [hlog]
  apply Nat.log2_self_le
  intro hzero
  rw [hzero] at hexp
  exact absurd hexp (by decide)

/-- Rounding gives a number of the format unless it passes the largest one. -/
theorem representable_nearestUnits (num den : Nat) (h : nearestUnits num den < 1 <<< limitBits) :
    Representable (nearestUnits num den) := by
  have hle := roundDiv_shifted_le num den
  have hfull := le_roundDiv_shifted num den
  simp only [nearestUnits] at h ⊢
  generalize exponentOf (num / den) = exponent at *
  generalize roundDiv num (den <<< exponent) = significand at *
  simp only [Nat.shiftLeft_eq, Nat.one_mul] at h hle hfull
  have hexponent : exponent ≤ 2045 := by
    by_cases hpos : 0 < exponent
    · have hmul : 2 ^ 52 * 2 ^ exponent ≤ significand * 2 ^ exponent :=
        Nat.mul_le_mul_right _ (hfull hpos)
      rw [← Nat.pow_add] at hmul
      have hlt : 52 + exponent < limitBits :=
        (Nat.pow_lt_pow_iff_right (by decide)).mp (Nat.lt_of_le_of_lt hmul h)
      simp only [limitBits] at hlt
      omega
    · omega
  rcases Nat.lt_or_ge significand (2 ^ 53) with hlt | hge
  · exact ⟨significand, exponent, by simpa only [Nat.shiftLeft_eq, Nat.one_mul] using hlt,
      hexponent, rfl⟩
  · have heq : significand = 2 ^ 53 := Nat.le_antisymm hle hge
    subst heq
    rw [← Nat.pow_add] at h
    have hlt : 53 + exponent < limitBits := (Nat.pow_lt_pow_iff_right (by decide)).mp h
    simp only [limitBits] at hlt
    refine ⟨1 <<< 52, exponent + 1, by decide, by omega, ?_⟩
    simp only [Nat.shiftLeft_eq, Nat.one_mul]
    rw [← Nat.pow_add, ← Nat.pow_add]
    congr 1
    omega

/-- The number of the format nearest to a quotient, if the quotient does not
round past the largest one. -/
def ofRatio (negative : Bool) (num den : Nat) : Option Binary64 :=
  if h : nearestUnits (num <<< unitBits) den < 1 <<< limitBits then
    some ⟨negative, nearestUnits (num <<< unitBits) den, representable_nearestUnits _ _ h⟩
  else
    none

/-- Rounding an integer adds two bits at most. -/
theorem nearestUnits_lt_of_lt (num bits : Nat) (hbits : 52 ≤ bits) (h : num < 1 <<< bits) :
    nearestUnits num 1 < 1 <<< (bits + 2) := by
  have hle := roundDiv_shifted_le num 1
  simp only [nearestUnits]
  simp only [Nat.shiftLeft_eq, Nat.one_mul] at h hle ⊢
  have hexp : exponentOf (num / 1) ≤ bits - 52 := by
    simp only [Nat.div_one, exponentOf]
    by_cases hzero : num = 0
    · simp [hzero]
    · have := (Nat.log2_lt hzero).mpr h
      omega
  have hpow : 2 ^ exponentOf (num / 1) ≤ 2 ^ (bits - 52) := Nat.pow_le_pow_right (by decide) hexp
  have hmul := Nat.mul_le_mul hle hpow
  rw [← Nat.pow_add] at hmul
  refine Nat.lt_of_le_of_lt hmul ?_
  apply Nat.pow_lt_pow_right (by decide)
  omega

theorem shiftLeft_lt {num bits more : Nat} (h : num < 1 <<< bits) :
    num <<< more < 1 <<< (bits + more) := by
  simp only [Nat.shiftLeft_eq, Nat.one_mul] at h ⊢
  rw [Nat.pow_add]
  exact Nat.mul_lt_mul_of_pos_right h (Nat.two_pow_pos more)

/-- An integer of 64 bits rounds to a finite number. -/
theorem nearestUnits_integer_lt (value : Int) (h : value.natAbs < 1 <<< 64) :
    nearestUnits (value.natAbs <<< unitBits) 1 < 1 <<< limitBits := by
  have hround := nearestUnits_lt_of_lt _ (64 + unitBits) (by decide) (shiftLeft_lt h)
  refine Nat.lt_of_lt_of_le hround ?_
  simp only [Nat.shiftLeft_eq, Nat.one_mul]
  exact Nat.pow_le_pow_right (by decide) (by decide)

def ofInteger (value : Int) (h : value.natAbs < 1 <<< 64) : Binary64 :=
  ⟨decide (value < 0), nearestUnits (value.natAbs <<< unitBits) 1,
    representable_nearestUnits _ _ (nearestUnits_integer_lt value h)⟩

theorem representable_double {units : Nat} (h : Representable units)
    (hlt : 2 * units < 1 <<< limitBits) : Representable (2 * units) := by
  obtain ⟨significand, exponent, hsig, hexp, rfl⟩ := h
  by_cases hsmall : 2 * significand < 1 <<< 53
  · refine ⟨2 * significand, exponent, hsmall, hexp, ?_⟩
    simp only [Nat.shiftLeft_eq]
    ac_rfl
  · refine ⟨significand, exponent + 1, hsig, ?_, ?_⟩
    · simp only [Nat.shiftLeft_eq, Nat.one_mul] at hlt hsmall
      have hmul : 2 ^ 53 * 2 ^ exponent ≤ 2 * significand * 2 ^ exponent :=
        Nat.mul_le_mul_right _ (by omega)
      rw [← Nat.pow_add, Nat.mul_assoc] at hmul
      have hlt' : 53 + exponent < limitBits :=
        (Nat.pow_lt_pow_iff_right (by decide)).mp (Nat.lt_of_le_of_lt hmul hlt)
      simp only [limitBits] at hlt'
      omega
    · simp only [Nat.shiftLeft_eq, Nat.pow_succ]
      ac_rfl

def double (x : Binary64) : Option Binary64 :=
  if h : 2 * x.units < 1 <<< limitBits then
    some ⟨x.negative, 2 * x.units, representable_double x.representable h⟩
  else
    none

end Binary64

/-- A number of the whole format. -/
inductive Float64 where
  | finite (value : Binary64)
  | infinite (negative : Bool)
  | nan
  deriving DecidableEq

end JsonValidators
