import JsonValidators.Binary64

/-!
Numbers of a JSON text. A number written without fraction and exponent is an
integer as long as it fits into 64 bits with or without sign; every other
number is a binary64 value.
-/

namespace JsonValidators

/-- The integers that 64 bits hold, with a sign or without one. -/
def IntegerRange (value : Int) : Prop :=
  -0x8000000000000000 ≤ value ∧ value < 0x10000000000000000

instance (value : Int) : Decidable (IntegerRange value) :=
  inferInstanceAs (Decidable (_ ∧ _))

/-- A number with the kind it was written in. -/
inductive Number where
  | integer (value : Int) (inRange : IntegerRange value)
  | float (value : Binary64)
  deriving DecidableEq

namespace Number

/-- An integer as a number, or none outside the range. -/
def ofInt? (value : Int) : Option Number :=
  if h : IntegerRange value then some (integer value h) else none

theorem natAbs_lt {value : Int} (h : IntegerRange value) : value.natAbs < 1 <<< 64 := by
  obtain ⟨hlow, hhigh⟩ := h
  omega

def toBinary64 : Number → Binary64
  | integer value inRange => Binary64.ofInteger value (natAbs_lt inRange)
  | float value => value

/-- Two numbers agree if the binary64 numbers nearest to them are equal. Integers
beyond 2^53 that round to the same number agree. -/
def agrees (x y : Number) : Bool := x.toBinary64.numericEq y.toBinary64

/-- Numbers of one kind that denote the same number. An integer is never the
same as a float. -/
def same : Number → Number → Bool
  | integer x _, integer y _ => x == y
  | float x, float y => x.numericEq y
  | _, _ => false

end Number

end JsonValidators
