import JsonValidators.Binary64

/-!
Decimal notation of binary64 numbers. Reading rounds the exact decimal to the
nearest number. Writing takes the fewest digits that read back as the number
and, among those of that length, the ones closest to it.
-/

namespace JsonValidators.Binary64

def digitsOf (n : Nat) : List Char := Nat.toDigits 10 n

def tenPow (exponent : Nat) : Nat := Nat.pow 10 exponent

/-- The number nearest to `digits * 10 ^ exponent`, if it is finite. Beyond 400
places either way the answer is known without the power: no number of the
format lies there except zero. -/
def ofDecimal (negative : Bool) (digits : Nat) (exponent : Int) : Option Binary64 :=
  let signedZero := if negative then negativeZero else zero
  let magnitude := exponent + (digitsOf digits).length
  if digits = 0 then some signedZero
  else if 400 < magnitude then none
  else if magnitude < -400 then some signedZero
  else if 0 ≤ exponent then ofRatio negative (digits * tenPow exponent.toNat) 1
  else ofRatio negative digits (tenPow (-exponent).toNat)

/-- The decimal exponent of the first digit of `units` units: the greatest `e`
with `10 ^ e` at most the number. It is estimated from the binary exponent,
which is off by one place at most, and then compared. -/
def decimalExponent (units : Nat) : Int :=
  let atMost (e : Int) : Bool :=
    if 0 ≤ e then decide (tenPow e.toNat <<< unitBits ≤ units)
    else decide (1 <<< unitBits ≤ units * tenPow (-e).toNat)
  let estimate := ((units.log2 : Int) - unitBits) * 30103 / 100000
  if atMost (estimate + 1) then estimate + 1
  else if atMost estimate then estimate
  else estimate - 1

/-- The quarter units below and above a number up to which decimals read back
as the number. Just above a power of two the numbers below are twice as dense. -/
def marginBelow (units : Nat) : Nat :=
  let exponent := exponentOf units
  if units = 1 <<< (52 + exponent) ∧ 0 < exponent then 1 <<< exponent else 2 <<< exponent

def marginAbove (units : Nat) : Nat := 2 <<< exponentOf units

/-- Whether `num / den` quarter units read back as the number. The ends of the
interval do if the significand is even, since a half rounds to the even side. -/
def readsBack (units num den : Nat) : Bool :=
  let low := (4 * units - marginBelow units) * den
  let high := (4 * units + marginAbove units) * den
  if (units >>> exponentOf units) % 2 = 0 then decide (low ≤ num ∧ num ≤ high)
  else decide (low < num ∧ num < high)

/-- A decimal `coefficient * 10 ^ exponent`. -/
structure Decimal where
  coefficient : Nat
  exponent : Int
  deriving DecidableEq

/-- The multiple of `10 ^ exponent` closest to the number among its two
neighbours on that grid that read back as the number. A tie goes to the even
multiple. -/
def onGrid? (units : Nat) (exponent : Int) : Option Decimal :=
  let scale := if 0 ≤ exponent then 1 else tenPow (-exponent).toNat
  let num := units * scale
  let den := (if 0 ≤ exponent then tenPow exponent.toNat else 1) <<< unitBits
  let below := num / den
  let twice := 2 * (num % den)
  let fits (coefficient : Nat) : Bool := readsBack units (4 * coefficient * den) scale
  let nearerBelow : Bool :=
    decide (twice < den) || (decide (twice = den) && below % 2 == 0)
  match fits below, fits (below + 1) with
  | true, true => some ⟨if nearerBelow then below else below + 1, exponent⟩
  | true, false => some ⟨below, exponent⟩
  | false, true => some ⟨below + 1, exponent⟩
  | false, false => none

/-- The shortest decimal of a number other than zero: the first grid that has a
point for it, from one digit on. Seventeen digits are always enough. -/
def shortest (units : Nat) : Decimal :=
  let first := decimalExponent units
  ((List.range 17).findSome? fun (more : Nat) => onGrid? units (first - more)).getD
    ⟨units, 0⟩

def stripZeros (digits : List Char) : List Char :=
  (digits.reverse.dropWhile (· == '0')).reverse

/-- How the digits of a decimal are set out. -/
structure Layout where
  /-- The least exponent of the first digit that is written positionally. -/
  lowest : Int
  /-- The greatest such exponent. -/
  highest : Int
  /-- What stands between the digits and the exponent. -/
  mark : List Char
  deriving DecidableEq

/-- Positional notation has at least one digit after the point. Any other has a
point after the first digit if more follow, and an exponent with its sign. -/
def Layout.write (layout : Layout) (digits : List Char) (first : Int) : List Char :=
  if layout.lowest ≤ first ∧ first ≤ layout.highest then
    if first < 0 then
      '0' :: '.' :: (List.replicate (-first - 1).toNat '0' ++ digits)
    else
      let whole := first.toNat + 1
      let padded := digits ++ List.replicate (whole - digits.length) '0'
      let fraction := padded.drop whole
      padded.take whole ++ '.' :: (if fraction.isEmpty then ['0'] else fraction)
  else
    let tail := digits.drop 1
    digits.take 1 ++ (if tail.isEmpty then [] else '.' :: tail) ++ layout.mark ++
      (if first < 0 then '-' else '+') :: digitsOf first.natAbs

/-- Numbers are written positionally from 0.00001 up to sixteen whole digits. -/
def layout : Layout := ⟨-5, 15, ['e']⟩

def chars (x : Binary64) : List Char :=
  let sign := if x.negative then ['-'] else []
  if x.units = 0 then sign ++ ['0', '.', '0']
  else
    let decimal := shortest x.units
    let digits := digitsOf decimal.coefficient
    sign ++ layout.write (stripZeros digits) (decimal.exponent + (digits.length - 1 : Nat))

/-- Sixteen whole digits are written out. -/
example : (ofDecimal false 1 15).map chars = some "1000000000000000.0".toList := by decide +kernel

/-- Seventeen are not. -/
example : (ofDecimal false 1 16).map chars = some "1e+16".toList := by decide +kernel

/-- Four zeros behind the point are written out. -/
example : (ofDecimal false 1 (-5)).map chars = some "0.00001".toList := by decide +kernel

/-- Five are not. -/
example : (ofDecimal true 15 (-7)).map chars = some "-1.5e-6".toList := by decide +kernel

/-- The number closest to zero has one digit. -/
example : (ofDecimal false 5 (-324)).map chars = some "5e-324".toList := by decide +kernel

/-- Beyond the largest number there is none to round to. -/
example : ofDecimal false 18 307 = none := by decide +kernel

end JsonValidators.Binary64
