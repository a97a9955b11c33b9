import JsonValidators.Pattern.AsciiClass

/-!
Expressions: patterns as they are written. What a class or a character means may
depend on flags that are set in the expression itself, so an expression keeps
names and flags and no sets of characters.
-/

namespace JsonValidators.Pattern

/-- How characters are understood. -/
inductive Flag where
  | ignoreCase
  | multiLine
  | dotAll
  | crLf
  | unicode
  | swapGreed
  | ignoreSpace
  deriving DecidableEq

def Flag.ofLetter? : Char → Option Flag
  | 'i' => some ignoreCase
  | 'm' => some multiLine
  | 's' => some dotAll
  | 'R' => some crLf
  | 'u' => some unicode
  | 'U' => some swapGreed
  | 'x' => some ignoreSpace
  | _ => none

abbrev FlagChange := List (Flag × Bool)

/-- Flags by their letters. Those behind a hyphen are switched off. No letter and
no hyphen may stand twice, and a hyphen may not be the last. -/
def FlagChange.ofLetters? (letters : List Char) : Option FlagChange :=
  let on := letters.takeWhile (· != '-')
  let behind := letters.dropWhile (· != '-')
  let off := behind.drop 1
  if ¬ letters.Nodup ∨ (¬ behind.isEmpty ∧ off.isEmpty) then none
  else do
    let on ← on.mapM Flag.ofLetter?
    let off ← off.mapM Flag.ofLetter?
    return on.map (·, true) ++ off.map (·, false)

/-- The value that a flag gets, if it is switched. -/
def FlagChange.value? (change : FlagChange) (flag : Flag) : Option Bool :=
  (change.find? fun (switched, _) => switched == flag).map Prod.snd

/-- The classes that have a letter of their own. -/
inductive Shorthand where
  | digit
  | space
  | word
  deriving DecidableEq

/-- A property as it is asked for. -/
inductive PropertyQuery where
  | named (name : List Char)
  | valued (property value : List Char)

/-- Assertions as they are written. -/
inductive Anchor where
  /-- The start of the text, or of a line. -/
  | start
  /-- The end of the text, or of a line. -/
  | finish
  | textStart
  | textEnd
  /-- A place with a word on one side only. -/
  | boundary
  | noBoundary
  | wordStart
  | wordEnd
  | wordStartHalf
  | wordEndHalf
  deriving DecidableEq

/-- The operations between classes. -/
inductive SetOperation where
  | inter
  | diff
  | symmDiff
  deriving DecidableEq

/-- What stands in the brackets of a class. -/
inductive ClassExpr where
  | literal (c : Char)
  | interval (low high : Char)
  | ascii (negated : Bool) (name : AsciiClass)
  | shorthand (negated : Bool) (name : Shorthand)
  | property (negated : Bool) (query : PropertyQuery)
  /-- A class in brackets of its own. -/
  | bracketed (negated : Bool) (inner : ClassExpr)
  /-- Any number of members. -/
  | union (members : List ClassExpr)
  | operation (kind : SetOperation) (left right : ClassExpr)

def ClassExpr.ofMembers : List ClassExpr → ClassExpr
  | [member] => member
  | members => union members

/-- What a group is for. -/
inductive GroupKind where
  /-- A group with a number. -/
  | capture (index : Nat)
  /-- A group in which flags are switched. -/
  | plain (change : FlagChange)

/-- A pattern as it is written. -/
inductive Expr where
  | empty
  /-- Flags that are switched for the rest of the group. -/
  | flags (change : FlagChange)
  /-- A character, which may be given as a byte by two hexadecimal digits. -/
  | literal (c : Char) (asByte : Bool)
  | dot
  | anchor (kind : Anchor)
  | shorthand (negated : Bool) (name : Shorthand)
  | property (negated : Bool) (query : PropertyQuery)
  | bracketed (negated : Bool) (inner : ClassExpr)
  | repetition (least : Nat) (most : Option Nat) (greedy : Bool) (inner : Expr)
  | group (kind : GroupKind) (inner : Expr)
  | concat (parts : List Expr)
  | alternation (branches : List Expr)

def Expr.ofItems : List Expr → Expr
  | [] => empty
  | [item] => item
  | items => concat items

mutual

def ClassExpr.depth : ClassExpr → Nat
  | .literal _ | .interval _ _ | .ascii _ _ | .shorthand _ _ | .property _ _ => 0
  | .bracketed _ inner => inner.depth + 1
  | .union [] => 0
  | .union members => ClassExpr.depths members + 1
  | .operation _ left right => max left.depth right.depth + 1

def ClassExpr.depths : List ClassExpr → Nat
  | [] => 0
  | member :: rest => max member.depth (ClassExpr.depths rest)

end

mutual

/-- How deep an expression is nested, with the classes in it. Single characters,
flags and assertions do not count. -/
def Expr.depth : Expr → Nat
  | .empty | .flags _ | .literal _ _ | .dot | .anchor _ | .shorthand _ _ | .property _ _ => 0
  | .bracketed _ inner => inner.depth + 1
  | .repetition _ _ _ inner => inner.depth + 1
  | .group _ inner => inner.depth + 1
  | .concat parts => Expr.depths parts + 1
  | .alternation branches => Expr.depths branches + 1

def Expr.depths : List Expr → Nat
  | [] => 0
  | part :: rest => max part.depth (Expr.depths rest)

end

end JsonValidators.Pattern
