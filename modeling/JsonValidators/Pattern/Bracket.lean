import JsonValidators.Pattern.Escape

/-!
Classes in brackets: characters, ranges, escapes, named ASCII classes, nested
classes, and operations between them. Operations have no precedence over one
another and are taken from the left.
-/

namespace JsonValidators.Pattern

/-- A named class such as `[:alpha:]` or its complement, without the first bracket. -/
def named? : List Char → Option (ClassExpr × List Char)
  | ':' :: text =>
    let negated := text.head? == some '^'
    let text := if negated then text.drop 1 else text
    match text.dropWhile (· != ':') with
    | ':' :: ']' :: rest =>
      (AsciiClass.ofName? (text.takeWhile (· != ':'))).map fun name => (.ascii negated name, rest)
    | _ => none
  | _ => none

def member? (ignoreSpace : Bool) : List Char → Option (Escape × List Char)
  | [] => none
  | '\\' :: rest => escape? ignoreSpace rest
  | c :: rest => some (.literal c false, rest)

/-- What a member stands for by itself. -/
def Escape.classExpr? : Escape → Option ClassExpr
  | literal c _ => some (.literal c)
  | shorthand negated name => some (.shorthand negated name)
  | property negated query => some (.property negated query)
  | anchor _ => none

def interval? : Escape → Escape → Option ClassExpr
  | .literal low _, .literal high _ => if low ≤ high then some (.interval low high) else none
  | _, _ => none

/-- The character behind the one at which a text begins. Where blanks are ignored,
blanks are passed over, and the sign of a comment with the blanks behind it. If
nothing is left then, none of them are passed over. -/
def lookAhead (ignoreSpace : Bool) (text : List Char) : Option Char :=
  let behind := text.drop 1
  let past := behind.dropWhile Unicode.whiteSpace.has
  let past := if past.head? == some '#' then (past.drop 1).dropWhile Unicode.whiteSpace.has else past
  if ignoreSpace then past.head?.or behind.head? else behind.head?

/-- A member, or a range between two. A hyphen before the closing bracket or
before another hyphen makes no range. -/
def memberOrRange? (ignoreSpace : Bool) (text : List Char) : Option (ClassExpr × List Char) := do
  let (first, rest) ← member? ignoreSpace text
  let rest := skip ignoreSpace rest
  let next := lookAhead ignoreSpace rest
  if rest.isEmpty then none
  else if rest.head? ≠ some '-' ∨ next = some ']' ∨ next = some '-' then
    return (← first.classExpr?, rest)
  else
    let (second, rest) ← member? ignoreSpace (skip ignoreSpace (rest.drop 1))
    return (← interval? first second, rest)

/-- Hyphens at the start of a class, which stand for themselves. -/
def leadingHyphens (ignoreSpace : Bool) : Nat → List Char → List ClassExpr × List Char
  | 0, text => ([], text)
  | fuel + 1, text =>
    match text with
    | '-' :: rest =>
      let (others, rest) := leadingHyphens ignoreSpace fuel (skip ignoreSpace rest)
      (.literal '-' :: others, rest)
    | text => ([], text)

/-- The left side of an operation joined with what stands to the right of it. -/
def joinOperands (left : Option (SetOperation × ClassExpr)) (right : ClassExpr) : ClassExpr :=
  match left with
  | some (operation, left) => .operation operation left right
  | none => right

mutual

/-- A class without its first bracket, and whether it is a complement. A closing
bracket that comes first stands for itself. -/
def bracket? (ignoreSpace : Bool) : Nat → List Char → Option ((Bool × ClassExpr) × List Char)
  | 0, _ => none
  | fuel + 1, text => do
    let text := skip ignoreSpace text
    let negated := text.head? == some '^'
    let text := if negated then skip ignoreSpace (text.drop 1) else text
    let (hyphens, text) := leadingHyphens ignoreSpace (text.length + 1) text
    let (members, text) :=
      match hyphens, text with
      | [], ']' :: rest => ([ClassExpr.literal ']'], skip ignoreSpace rest)
      | hyphens, text => (hyphens, text)
    if text.isEmpty then none
    else
      let (inner, rest) ← bracketItems? ignoreSpace fuel none members.reverse text
      return ((negated, inner), rest)

/-- The rest of a class, with the left side of a pending operation and the members
so far, the latest first. -/
def bracketItems? (ignoreSpace : Bool) : Nat → Option (SetOperation × ClassExpr) →
    List ClassExpr → List Char → Option (ClassExpr × List Char)
  | 0, _, _, _ => none
  | fuel + 1, left, members, text =>
    let joined := joinOperands left (ClassExpr.ofMembers members.reverse)
    match skip ignoreSpace text with
    | [] => none
    | ']' :: rest => some (joined, rest)
    | '[' :: rest => do
      let (member, rest) ←
        match named? rest with
        | some found => some found
        | none => (bracket? ignoreSpace fuel rest).map fun ((negated, inner), rest) =>
          (.bracketed negated inner, rest)
      bracketItems? ignoreSpace fuel left (member :: members) rest
    | '&' :: '&' :: rest => bracketItems? ignoreSpace fuel (some (.inter, joined)) [] rest
    | '-' :: '-' :: rest => bracketItems? ignoreSpace fuel (some (.diff, joined)) [] rest
    | '~' :: '~' :: rest => bracketItems? ignoreSpace fuel (some (.symmDiff, joined)) [] rest
    | text => do
      let (member, rest) ← memberOrRange? ignoreSpace text
      bracketItems? ignoreSpace fuel left (member :: members) rest

end

end JsonValidators.Pattern
