import JsonValidators.CharSet

/-!
Sets of characters as sequences of bytes. The bytes of the characters of a set are
described by sequences of ranges of bytes: the first byte lies in the first range,
the second one in the second range, and so on. For this the ranges of a set are
cut at the places where the number of bytes changes, and where a byte changes
while those behind it do not run through all of their values.
-/

namespace JsonValidators.Pattern

def bytesOf (code : Nat) : List Nat :=
  let tail (shift : Nat) : Nat := 0x80 + (code >>> shift) % 0x40
  if code < 0x80 then [code]
  else if code < 0x800 then [0xc0 + (code >>> 6), tail 0]
  else if code < 0x10000 then [0xe0 + (code >>> 12), tail 6, tail 0]
  else [0xf0 + (code >>> 18), tail 12, tail 6, tail 0]

/-- All bytes from one to another. -/
structure ByteRange where
  low : Nat
  high : Nat
  deriving DecidableEq

/-- Where the last bytes of code points are cut: a block has all values of as many
bytes as are left open. -/
def cutAtBlock? (range : CodeRange) (block : Nat) : Option Nat :=
  if range.low / block = range.high / block then none
  else if range.low % block ≠ 0 then some (range.low / block * block + (block - 1))
  else if range.high % block + 1 ≠ block then some (range.high / block * block - 1)
  else none

/-- The last code point of the first part of a range that has to be cut. -/
def cut? (range : CodeRange) : Option Nat :=
  let between (code : Nat) : Option Nat :=
    if range.low ≤ code ∧ code < range.high then some code else none
  (between (surrogateStart - 1)).or <| (between 0x7f).or <| (between 0x7ff).or <|
    (between 0xffff).or <|
      if range.high ≤ 0x7f then none
      else (cutAtBlock? range 0x40).or <| (cutAtBlock? range 0x1000).or (cutAtBlock? range 0x40000)

/-- The pieces of a range that need no more cuts. -/
def pieces (range : CodeRange) : List CodeRange :=
  if range.high < range.low then []
  else
    match cut? range with
    | none => [range]
    | some last =>
      if range.low ≤ last ∧ last < range.high then
        pieces ⟨range.low, last⟩ ++ pieces ⟨nextCode last, range.high⟩
      else [range]
termination_by range.high - range.low
decreasing_by
  · omega
  · have := lt_nextCode last
    omega

def byteSequences (set : CharSet) : List (List ByteRange) :=
  (set.ranges.flatMap pieces).map fun piece =>
    List.zipWith ByteRange.mk (bytesOf piece.low) (bytesOf piece.high)

end JsonValidators.Pattern
