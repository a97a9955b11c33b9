/-!
Sets of characters as lists of ranges of code points. The ranges of a set are in
order and stand apart, so a set is small even if it has many members.
-/

namespace JsonValidators

/-- All code points from one to another. -/
structure CodeRange where
  low : Nat
  high : Nat
  deriving DecidableEq

namespace CodeRange

def has (range : CodeRange) (code : Nat) : Bool := range.low ≤ code && code ≤ range.high

/-- The range of two ends, in whichever order they are given. -/
def spanning (one other : Nat) : CodeRange := ⟨min one other, max one other⟩

/-- The range in order before another: by the lower end, then by the upper one. -/
def precedes (range other : CodeRange) : Bool :=
  range.low < other.low || (range.low == other.low && range.high ≤ other.high)

def inter? (range other : CodeRange) : Option CodeRange :=
  let low := max range.low other.low
  let high := min range.high other.high
  if low ≤ high then some ⟨low, high⟩ else none

end CodeRange

/-- The least code point that belongs to no character. These lie between the
characters on both sides of them. -/
def surrogateStart : Nat := 0xd800

/-- The first character behind them. -/
def surrogateStop : Nat := 0xe000

def lastCode : Nat := 0x10ffff

def nextCode (code : Nat) : Nat := if code + 1 = surrogateStart then surrogateStop else code + 1

theorem lt_nextCode (code : Nat) : code < nextCode code := by
  unfold nextCode
  split
  · simp only [surrogateStart, surrogateStop] at *
    omega
  · omega

def previousCode (code : Nat) : Nat := if code = surrogateStop then surrogateStart - 1 else code - 1

/-- What is left of a range without another one. -/
def CodeRange.diff (range other : CodeRange) : List CodeRange :=
  if (range.inter? other).isNone then [range]
  else
    (if range.low < other.low then [⟨range.low, previousCode other.low⟩] else []) ++
      (if other.high < range.high then [⟨nextCode other.high, range.high⟩] else [])

/-- A set of characters. -/
structure CharSet where
  ranges : List CodeRange
  deriving DecidableEq

namespace CharSet

def hasCode (set : CharSet) (code : Nat) : Bool := set.ranges.any fun range => range.has code

def has (set : CharSet) (c : Char) : Bool := set.hasCode c.toNat

def empty : CharSet := ⟨[]⟩

def full : CharSet := ⟨[⟨0, lastCode⟩]⟩

def single (c : Char) : CharSet := ⟨[⟨c.toNat, c.toNat⟩]⟩

def interval (low high : Char) : CharSet := ⟨[⟨low.toNat, high.toNat⟩]⟩

def ascii : CharSet := ⟨[⟨0, 0x7f⟩]⟩

/-- Put a range in front of others, which are in order and do not begin before it.
Ranges that touch or overlap are joined. -/
def joinOnto (range : CodeRange) : List CodeRange → List CodeRange
  | [] => [range]
  | next :: rest =>
    if next.low ≤ range.high + 1 then joinOnto ⟨range.low, max range.high next.high⟩ rest
    else range :: joinOnto next rest

/-- Ranges in order, with those that touch or overlap joined. -/
def joined : List CodeRange → List CodeRange
  | [] => []
  | range :: rest => joinOnto range rest

def ofRanges (ranges : List CodeRange) : CharSet :=
  ⟨joined (ranges.mergeSort CodeRange.precedes)⟩

def ofCodes (codes : List Nat) : CharSet := ofRanges (codes.map fun code => ⟨code, code⟩)

def isEmpty (set : CharSet) : Bool := set.ranges.isEmpty

/-- The only member of a set. -/
def only? (set : CharSet) : Option Char :=
  match set.ranges with
  | [range] => if range.low = range.high then some (Char.ofNat range.low) else none
  | _ => none

def isAscii (set : CharSet) : Bool := set.ranges.all fun range => range.high ≤ 0x7f

def union (set other : CharSet) : CharSet := ofRanges (set.ranges ++ other.ranges)

def unions (sets : List CharSet) : CharSet := ofRanges (sets.flatMap ranges)

def inter (set other : CharSet) : CharSet :=
  ⟨set.ranges.flatMap fun range => other.ranges.filterMap range.inter?⟩

def diff (set other : CharSet) : CharSet :=
  ⟨other.ranges.foldl (fun pieces range => pieces.flatMap fun piece => piece.diff range)
    set.ranges⟩

def symmDiff (set other : CharSet) : CharSet := (set.union other).diff (set.inter other)

/-- What lies between ranges, and behind the last one. The gap between two ranges
is taken from the character behind the one to the character before the other. If
the code points between them belong to no character, then these two change places
and stand for the gap. -/
def gaps : List CodeRange → List CodeRange
  | [] => []
  | [last] => if last.high < lastCode then [⟨nextCode last.high, lastCode⟩] else []
  | range :: next :: rest =>
    CodeRange.spanning (nextCode range.high) (previousCode next.low) :: gaps (next :: rest)

/-- The complement of a set. -/
def compl (set : CharSet) : CharSet :=
  match set.ranges with
  | [] => full
  | first :: _ =>
    ⟨(if 0 < first.low then [⟨0, previousCode first.low⟩] else []) ++ gaps set.ranges⟩

end CharSet

end JsonValidators
