import JsonValidators.Pattern
import JsonValidators.Pattern.Expr
import JsonValidators.Unicode.CaseFolding
import JsonValidators.Unicode.Property

/-!
The flags of a pattern and what they make of characters, classes and assertions.
Without the Unicode flag, classes know ASCII only and may not reach beyond it.
-/

namespace JsonValidators.Pattern

/-- How the characters of a pattern are read. -/
structure Flags where
  ignoreCase : Bool
  multiLine : Bool
  dotAll : Bool
  crLf : Bool
  unicode : Bool
  swapGreed : Bool
  deriving DecidableEq

namespace Flags

/-- The flags that a pattern begins with. -/
def default : Flags := ⟨false, false, false, false, true, false⟩

def switch (flags : Flags) (change : FlagChange) : Flags where
  ignoreCase := (change.value? .ignoreCase).getD flags.ignoreCase
  multiLine := (change.value? .multiLine).getD flags.multiLine
  dotAll := (change.value? .dotAll).getD flags.dotAll
  crLf := (change.value? .crLf).getD flags.crLf
  unicode := (change.value? .unicode).getD flags.unicode
  swapGreed := (change.value? .swapGreed).getD flags.swapGreed

def shift (move : Nat → Nat) (set : CharSet) : CharSet :=
  ⟨set.ranges.map fun range => ⟨move range.low, move range.high⟩⟩

def foldAscii (set : CharSet) : CharSet :=
  CharSet.unions
    [set, shift (· - 0x20) (set.inter AsciiClass.lower.set),
      shift (· + 0x20) (set.inter AsciiClass.upper.set)]

def fold (flags : Flags) (set : CharSet) : CharSet :=
  if flags.ignoreCase then (if flags.unicode then set.foldCase else foldAscii set) else set

/-- The complement of a set, which goes beyond ASCII. -/
def negate? (flags : Flags) (negated : Bool) (set : CharSet) : Option CharSet :=
  if negated then (if flags.unicode then some set.compl else none) else some set

/-- A character that stands for itself. A byte beyond ASCII is no character where
bytes are meant. -/
def literal? (flags : Flags) (c : Char) (asByte : Bool) : Option Pattern :=
  if ¬ flags.unicode ∧ asByte ∧ 0x80 ≤ c.toNat then none
  else some (ofSet (flags.fold (CharSet.single c)))

/-- Any character, except for line ends unless they are included. -/
def dot? (flags : Flags) : Option Pattern :=
  if ¬ flags.unicode then none
  else if flags.dotAll then some (ofSet CharSet.full)
  else
    let lineEnds := if flags.crLf then [0x0a, 0x0d] else [0x0a]
    some (ofSet (CharSet.ofCodes lineEnds).compl)

def assertion (flags : Flags) : Anchor → Assertion
  | .start =>
    if flags.multiLine then (if flags.crLf then .lineStartCrLf else .lineStart) else .textStart
  | .finish =>
    if flags.multiLine then (if flags.crLf then .lineEndCrLf else .lineEnd) else .textEnd
  | .textStart => .textStart
  | .textEnd => .textEnd
  | .boundary => .word .boundary flags.unicode
  | .noBoundary => .word .noBoundary flags.unicode
  | .wordStart => .word .start flags.unicode
  | .wordEnd => .word .finish flags.unicode
  | .wordStartHalf => .word .startHalf flags.unicode
  | .wordEndHalf => .word .finishHalf flags.unicode

/-- A class that has a letter of its own. Variants in case are not added to it. -/
def shorthand? (flags : Flags) (negated : Bool) (name : Shorthand) : Option CharSet :=
  flags.negate? negated <|
    match name with
    | .digit => if flags.unicode then Unicode.decimalDigit else AsciiClass.digit.set
    | .space => if flags.unicode then Unicode.whiteSpace else AsciiClass.space.set
    | .word => wordSet flags.unicode

def property? (flags : Flags) (negated : Bool) (query : PropertyQuery) : Option CharSet := do
  if ¬ flags.unicode then none
  else
    let set ←
      match query with
      | .named name => Unicode.namedSet? name
      | .valued property value => Unicode.valuedSet? property value
    flags.negate? negated (flags.fold set)

def bracketed? (flags : Flags) (negated : Bool) (set : CharSet) : Option CharSet :=
  flags.negate? negated (flags.fold set)

def interval? (flags : Flags) (low high : Char) : Option CharSet :=
  if flags.unicode ∨ high.toNat < 0x80 then some (CharSet.interval low high) else none

def combine (flags : Flags) (operation : SetOperation) (left right : CharSet) : CharSet :=
  let left := flags.fold left
  let right := flags.fold right
  match operation with
  | .inter => left.inter right
  | .diff => left.diff right
  | .symmDiff => left.symmDiff right

end Flags

end JsonValidators.Pattern
