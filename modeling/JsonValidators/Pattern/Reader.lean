import JsonValidators.Pattern.Bracket

/-!
Reading the text of a pattern. Groups in parentheses are kept on a stack, with
the items around them. There is no look-around and there are no references back,
so every pattern describes a regular set.
-/

namespace JsonValidators.Pattern

/-- What stands around a group that is being read. -/
structure Frame where
  kind : GroupKind
  /-- Whether blanks are ignored outside of the group. -/
  ignoreSpace : Bool
  /-- The items before the group, the latest first. -/
  items : List Expr
  /-- The alternatives before these items, the latest first. -/
  branches : List Expr

/-- What has been read. -/
structure Progress where
  ignoreSpace : Bool
  items : List Expr
  branches : List Expr
  outer : List Frame
  /-- The names of groups so far. -/
  names : List (List Char)
  /-- The number of groups so far that have one. -/
  captures : Nat

namespace Progress

def start : Progress := ⟨false, [], [], [], [], 0⟩

/-- The items of the current alternative as one expression. -/
def sequence (progress : Progress) : Expr := Expr.ofItems progress.items.reverse

/-- The alternatives of the current group as one expression. -/
def alternatives (progress : Progress) : Expr :=
  match progress.branches with
  | [] => progress.sequence
  | branches => .alternation (branches.reverse ++ [progress.sequence])

def add (progress : Progress) (item : Expr) : Progress :=
  { progress with items := item :: progress.items }

def nextBranch (progress : Progress) : Progress :=
  { progress with items := [], branches := progress.sequence :: progress.branches }

def openGroup (progress : Progress) (kind : GroupKind) (ignoreSpace : Bool) : Progress :=
  { progress with
    ignoreSpace := ignoreSpace
    items := []
    branches := []
    outer := ⟨kind, progress.ignoreSpace, progress.items, progress.branches⟩ :: progress.outer }

def openCapture (progress : Progress) : Progress :=
  let index := progress.captures + 1
  { progress.openGroup (.capture index) progress.ignoreSpace with captures := index }

def closeGroup? (progress : Progress) : Option Progress :=
  match progress.outer with
  | [] => none
  | frame :: outer =>
    some { progress with
      ignoreSpace := frame.ignoreSpace
      items := .group frame.kind progress.alternatives :: frame.items
      branches := frame.branches
      outer := outer }

/-- Repeat the item before. Flags by themselves are no item that can be repeated. -/
def repeat? (progress : Progress) (least : Nat) (most : Option Nat) (greedy : Bool) :
    Option Progress :=
  match progress.items with
  | [] => none
  | .flags _ :: _ => none
  | item :: items =>
    some { progress with items := .repetition least most greedy item :: items }

end Progress

def isNameChar (first : Bool) (c : Char) : Bool :=
  if first then c == '_' || Unicode.alphabetic.has c
  else c == '_' || c == '.' || c == '[' || c == ']' || Unicode.alphabetic.has c ||
    Unicode.numeric.has c

def groupName? (text : List Char) : Option (List Char × List Char) :=
  let name := text.takeWhile (· != '>')
  match name, text.dropWhile (· != '>') with
  | first :: others, '>' :: rest =>
    if isNameChar true first && others.all (isNameChar false) then some (name, rest) else none
  | _, _ => none

def namedGroup? (progress : Progress) (text : List Char) : Option (Progress × List Char) := do
  let (name, rest) ← groupName? text
  if progress.names.contains name then none
  else return ({ progress.openCapture with names := name :: progress.names }, rest)

/-- Flags behind a question mark: for the rest of the group, or for a group of
their own. Something has to be switched unless a colon follows. -/
def flagGroup? (progress : Progress) (text : List Char) : Option (Progress × List Char) := do
  let letters := text.takeWhile fun c => c != ':' && c != ')'
  let change ← FlagChange.ofLetters? letters
  let ignoreSpace := (change.value? .ignoreSpace).getD progress.ignoreSpace
  match text.dropWhile fun c => c != ':' && c != ')' with
  | ')' :: rest =>
    if letters.isEmpty then none
    else return ({ progress.add (.flags change) with ignoreSpace := ignoreSpace }, rest)
  | ':' :: rest => return (progress.openGroup (.plain change) ignoreSpace, rest)
  | _ => none

def group? (progress : Progress) (text : List Char) : Option (Progress × List Char) :=
  match skip progress.ignoreSpace text with
  | '?' :: '=' :: _ => none
  | '?' :: '!' :: _ => none
  | '?' :: '<' :: '=' :: _ => none
  | '?' :: '<' :: '!' :: _ => none
  | '?' :: 'P' :: '<' :: rest => namedGroup? progress rest
  | '?' :: '<' :: rest => namedGroup? progress rest
  | '?' :: rest => flagGroup? progress rest
  | text => some (progress.openCapture, text)

/-- Digits, between which blanks may be skipped. -/
def spacedDigits (ignoreSpace : Bool) : Nat → List Char → List Char × List Char
  | 0, text => ([], text)
  | _ + 1, [] => ([], [])
  | fuel + 1, c :: rest =>
    if c.isDigit then
      let (digits, rest) := spacedDigits ignoreSpace fuel (skip ignoreSpace rest)
      (c :: digits, rest)
    else ([], c :: rest)

/-- A count of 32 bits with blanks around it. -/
def count? (ignoreSpace : Bool) (text : List Char) : Option (Nat × List Char) :=
  let text := text.dropWhile Unicode.whiteSpace.has
  let (digits, rest) := spacedDigits ignoreSpace (text.length + 1) text
  let value := Json.Reader.digitsValue digits
  if digits.isEmpty ∨ 0x100000000 ≤ value then none
  else some (value, rest.dropWhile Unicode.whiteSpace.has)

/-- A repetition count up to its closing brace: exact, a lower bound, or two
bounds of which the first is not the greater. -/
def bounds? (ignoreSpace : Bool) (text : List Char) :
    Option ((Nat × Option Nat) × List Char) := do
  let (least, rest) ← count? ignoreSpace (skip ignoreSpace text)
  match rest with
  | '\x7d' :: rest => return ((least, some least), rest)
  | ',' :: rest =>
    match skip ignoreSpace rest with
    | '\x7d' :: rest => return ((least, none), rest)
    | rest =>
      let (most, rest) ← count? ignoreSpace rest
      match rest with
      | '\x7d' :: rest => if least ≤ most then return ((least, some most), rest) else none
      | _ => none
  | _ => none

/-- Whether a repetition is greedy, and what stands behind it. A question mark
makes it lazy. -/
def greed (text : List Char) : Bool × List Char :=
  match text with
  | '?' :: rest => (false, rest)
  | _ => (true, text)

def Escape.expr : Escape → Expr
  | literal c asByte => .literal c asByte
  | shorthand negated name => .shorthand negated name
  | property negated query => .property negated query
  | anchor kind => .anchor kind

/-- Read on to the end of a pattern. Every step takes up a character. -/
def readFrom : Nat → Progress → List Char → Option Expr
  | 0, _, _ => none
  | fuel + 1, progress, text =>
    let ignoreSpace := progress.ignoreSpace
    let repeated (least : Nat) (most : Option Nat) (rest : List Char) : Option Expr := do
      let (greedy, rest) := greed rest
      readFrom fuel (← progress.repeat? least most greedy) rest
    match skip ignoreSpace text with
    | [] => if progress.outer.isEmpty then some progress.alternatives else none
    | '(' :: rest => do
      let (progress, rest) ← group? progress rest
      readFrom fuel progress rest
    | ')' :: rest => do readFrom fuel (← progress.closeGroup?) rest
    | '|' :: rest => readFrom fuel progress.nextBranch rest
    | '[' :: rest => do
      let ((negated, inner), rest) ← bracket? ignoreSpace (rest.length + 1) rest
      readFrom fuel (progress.add (.bracketed negated inner)) rest
    | '?' :: rest => repeated 0 (some 1) rest
    | '*' :: rest => repeated 0 none rest
    | '+' :: rest => repeated 1 none rest
    | '\x7b' :: rest => do
      let ((least, most), rest) ← bounds? ignoreSpace rest
      repeated least most (skip ignoreSpace rest)
    | '\\' :: rest => do
      let (escape, rest) ← escape? ignoreSpace rest
      readFrom fuel (progress.add escape.expr) rest
    | '.' :: rest => readFrom fuel (progress.add .dot) rest
    | '^' :: rest => readFrom fuel (progress.add (.anchor .start)) rest
    | '$' :: rest => readFrom fuel (progress.add (.anchor .finish)) rest
    | c :: rest => readFrom fuel (progress.add (.literal c false)) rest

def Expr.read? (text : List Char) : Option Expr :=
  readFrom (text.length + 1) Progress.start text

end JsonValidators.Pattern
