import JsonValidators.Pattern.Assertion

/-!
Patterns over texts: literals, sets of characters, assertions about a place,
sequences, alternatives, repetition and groups. The functions that make patterns
keep them in a normal form: a sequence has neither empty parts nor sequences in
it and no two literals side by side, and alternatives have none in them.
-/

namespace JsonValidators

/-- A description of texts. -/
inductive Pattern where
  /-- The empty text. -/
  | empty
  /-- The characters of a text that is not empty, one after another. -/
  | literal (chars : List Char)
  /-- One character of a set. -/
  | oneOf (set : CharSet)
  /-- The empty text at a place that a condition holds for. -/
  | assertion (condition : Pattern.Assertion)
  /-- A number of times between two bounds, or from a bound on. Greedy repetition
  prefers more times, which does not change what is described. -/
  | repetition (least : Nat) (most : Option Nat) (greedy : Bool) (inner : Pattern)
  /-- A group by its number. -/
  | capture (index : Nat) (inner : Pattern)
  /-- One after another. -/
  | concat (parts : List Pattern)
  /-- One of several. -/
  | alternation (branches : List Pattern)

namespace Pattern

def byteCount (code : Nat) : Nat :=
  if code < 0x80 then 1 else if code < 0x800 then 2 else if code < 0x10000 then 3 else 4

/-- The sum of numbers that are all there. -/
def sum? : List (Option Nat) → Option Nat
  | [] => some 0
  | none :: _ => none
  | some n :: rest => (sum? rest).map (n + ·)

/-- The best of numbers that are all there, of which there has to be one. -/
def best? (better : Nat → Nat → Nat) : List (Option Nat) → Option Nat
  | [] => none
  | none :: _ => none
  | [some n] => some n
  | some n :: rest => (best? better rest).map (better n)

mutual

/-- The bytes of the shortest texts of a pattern. There are none if the pattern
describes nothing. -/
def minLength : Pattern → Option Nat
  | empty => some 0
  | literal chars => some ((chars.map fun c => byteCount c.toNat).sum)
  | oneOf set => set.ranges.head?.map fun range => byteCount range.low
  | assertion _ => some 0
  | repetition least _ _ inner => (minLength inner).map (least * ·)
  | capture _ inner => minLength inner
  | concat parts => sum? (minLengths parts)
  | alternation branches => best? min (minLengths branches)

def minLengths : List Pattern → List (Option Nat)
  | [] => []
  | pattern :: rest => minLength pattern :: minLengths rest

end

mutual

/-- The bytes of the longest texts of a pattern, if there is a bound. -/
def maxLength : Pattern → Option Nat
  | empty => some 0
  | literal chars => some ((chars.map fun c => byteCount c.toNat).sum)
  | oneOf set => set.ranges.getLast?.map fun range => byteCount range.high
  | assertion _ => some 0
  | repetition _ most _ inner => most.bind fun most => (maxLength inner).map (most * ·)
  | capture _ inner => maxLength inner
  | concat parts => sum? (maxLengths parts)
  | alternation branches => best? max (maxLengths branches)

def maxLengths : List Pattern → List (Option Nat)
  | [] => []
  | pattern :: rest => maxLength pattern :: maxLengths rest

end

mutual

def same : Pattern → Pattern → Bool
  | empty, empty => true
  | literal cs, literal ds => cs == ds
  | oneOf s, oneOf t => s == t
  | assertion a, assertion b => a == b
  | repetition least most greedy p, repetition least' most' greedy' q =>
    least == least' && most == most' && greedy == greedy' && same p q
  | capture i p, capture j q => i == j && same p q
  | concat ps, concat qs => sameAll ps qs
  | alternation ps, alternation qs => sameAll ps qs
  | _, _ => false

def sameAll : List Pattern → List Pattern → Bool
  | [], [] => true
  | p :: ps, q :: qs => same p q && sameAll ps qs
  | _, _ => false

end

mutual

/-- The number of patterns within a pattern, itself included. -/
def nodeCount : Pattern → Nat
  | empty | literal _ | oneOf _ | assertion _ => 1
  | repetition _ _ _ inner | capture _ inner => nodeCount inner + 1
  | concat parts | alternation parts => nodeCounts parts + 1

def nodeCounts : List Pattern → Nat
  | [] => 0
  | pattern :: rest => nodeCount pattern + nodeCounts rest

end

def ofSet (set : CharSet) : Pattern :=
  match set.only? with
  | some c => literal [c]
  | none => oneOf set

/-- A repetition. More than one time makes no difference for the empty text, no
time at all is the empty text, and one time is the pattern itself. -/
def repeated (least : Nat) (most : Option Nat) (greedy : Bool) (inner : Pattern) : Pattern :=
  let isEmpty := inner.maxLength == some 0
  let least := if isEmpty then min least 1 else least
  let most := if isEmpty then some (min (most.getD 1) 1) else most
  if least = 0 ∧ most = some 0 then empty
  else if least = 1 ∧ most = some 1 then inner
  else repetition least most greedy inner

def parts : Pattern → List Pattern
  | concat parts => parts
  | pattern => [pattern]

def branches : Pattern → List Pattern
  | alternation branches => branches
  | pattern => [pattern]

/-- Leave out empty patterns and join neighbouring literals. -/
def joinLiterals : List Pattern → List Pattern
  | [] => []
  | pattern :: rest =>
    match pattern, joinLiterals rest with
    | empty, others => others
    | literal cs, literal ds :: others => literal (cs ++ ds) :: others
    | pattern, others => pattern :: others

def sequence (patterns : List Pattern) : Pattern :=
  match joinLiterals (patterns.flatMap parts) with
  | [] => empty
  | [pattern] => pattern
  | patterns => concat patterns

def onlyChar? : Pattern → Option Nat
  | literal [c] => some c.toNat
  | _ => none

def set? : Pattern → Option CharSet
  | oneOf set => some set
  | _ => none

def commonParts : List Pattern → List Pattern → List Pattern
  | p :: ps, q :: qs => if same p q then p :: commonParts ps qs else []
  | _, _ => []

/-- The parts with which all of several sequences begin. There are none if one of
the patterns is no sequence. -/
def sharedParts : List Pattern → List Pattern
  | [] => []
  | [concat ps] => ps
  | concat ps :: rest => commonParts ps (sharedParts rest)
  | _ :: _ => []

/-- Alternatives, with what they begin with in front. -/
def choiceWith : Nat → List Pattern → Pattern
  | 0, patterns => alternation patterns
  | fuel + 1, patterns =>
    match patterns.flatMap branches with
    | [] => oneOf CharSet.empty
    | [pattern] => pattern
    | patterns =>
      match patterns.mapM onlyChar?, patterns.mapM set? with
      | some codes, _ => ofSet (CharSet.ofCodes codes)
      | none, some sets => ofSet (CharSet.unions sets)
      | none, none =>
        match sharedParts patterns with
        | [] => alternation patterns
        | shared =>
          let tails := patterns.map fun pattern => sequence (pattern.parts.drop shared.length)
          sequence (shared ++ [choiceWith fuel tails])

/-- One of several patterns. Alternatives of characters make up a set, and parts
with which all of them begin stand in front of the alternatives. -/
def choice (patterns : List Pattern) : Pattern := choiceWith (nodeCounts patterns + 1) patterns

mutual

/-- Whether all texts of a pattern begin with the start of the whole text. -/
def startsAtStart : Pattern → Bool
  | empty | literal _ | oneOf _ => false
  | assertion a => a == .textStart
  | repetition least _ _ inner => least != 0 && startsAtStart inner
  | capture _ inner => startsAtStart inner
  | concat parts => firstAtStart parts
  | alternation branches => allAtStart branches

/-- Whether this holds for one of several parts, before which no character stands. -/
def firstAtStart : List Pattern → Bool
  | [] => false
  | part :: rest => startsAtStart part || (maxLength part == some 0 && firstAtStart rest)

def allAtStart : List Pattern → Bool
  | [] => true
  | branch :: rest => startsAtStart branch && allAtStart rest

end

mutual

/-- Whether all texts of a pattern end with the end of the whole text. -/
def endsAtEnd : Pattern → Bool
  | empty | literal _ | oneOf _ => false
  | assertion a => a == .textEnd
  | repetition least _ _ inner => least != 0 && endsAtEnd inner
  | capture _ inner => endsAtEnd inner
  | concat parts => lastAtEnd parts
  | alternation branches => allAtEnd branches

/-- Whether this holds for one of several parts, behind which no character stands. -/
def lastAtEnd : List Pattern → Bool
  | [] => false
  | part :: rest =>
    lastAtEnd rest || (endsAtEnd part && (maxLengths rest).all (· == some 0))

def allAtEnd : List Pattern → Bool
  | [] => true
  | branch :: rest => endsAtEnd branch && allAtEnd rest

end

end Pattern

end JsonValidators
