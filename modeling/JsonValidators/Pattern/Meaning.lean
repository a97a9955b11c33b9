import JsonValidators.Pattern.Flags

/-!
The meaning of expressions as patterns. Flags that are switched hold for what
follows, up to the end of the group, so a meaning comes with the flags behind it.
Classes that go beyond ASCII where only ASCII is known have no meaning.
-/

namespace JsonValidators.Pattern

mutual

def ClassExpr.meaning? (flags : Flags) : ClassExpr → Option CharSet
  | .literal c => flags.interval? c c
  | .interval low high => flags.interval? low high
  | .ascii negated name => flags.bracketed? negated name.set
  | .shorthand negated name => flags.shorthand? negated name
  | .property negated query => flags.property? negated query
  | .bracketed negated inner => (inner.meaning? flags).bind (flags.bracketed? negated)
  | .union members => (ClassExpr.meanings? flags members).map CharSet.unions
  | .operation kind left right => do
    return flags.combine kind (← left.meaning? flags) (← right.meaning? flags)

def ClassExpr.meanings? (flags : Flags) : List ClassExpr → Option (List CharSet)
  | [] => some []
  | member :: rest => do
    return (← member.meaning? flags) :: (← ClassExpr.meanings? flags rest)

end

def GroupKind.flags (flags : Flags) : GroupKind → Flags
  | capture _ => flags
  | plain change => flags.switch change

def GroupKind.pattern (inner : Pattern) : GroupKind → Pattern
  | capture index => .capture index inner
  | plain _ => inner

mutual

/-- The pattern of an expression, and the flags behind it. -/
def Expr.meaning? (flags : Flags) : Expr → Option (Pattern × Flags)
  | .empty => some (.empty, flags)
  | .flags change => some (.empty, flags.switch change)
  | .literal c asByte => (flags.literal? c asByte).map (·, flags)
  | .dot => flags.dot?.map (·, flags)
  | .anchor kind => some (.assertion (flags.assertion kind), flags)
  | .shorthand negated name => (flags.shorthand? negated name).map (ofSet ·, flags)
  | .property negated query => (flags.property? negated query).map (ofSet ·, flags)
  | .bracketed negated inner => do
    let set ← inner.meaning? flags
    return (ofSet (← flags.bracketed? negated set), flags)
  | .repetition least most greedy inner => do
    let (pattern, behind) ← inner.meaning? flags
    return (repeated least most (greedy != flags.swapGreed) pattern, behind)
  | .group kind inner => do
    let (pattern, _) ← inner.meaning? (kind.flags flags)
    return (kind.pattern pattern, flags)
  | .concat parts => do
    let (patterns, behind) ← Expr.meanings? flags parts
    return (sequence patterns, behind)
  | .alternation branches => do
    let (patterns, behind) ← Expr.meanings? flags branches
    return (choice patterns, behind)

/-- The patterns of expressions, each with the flags behind those before. -/
def Expr.meanings? (flags : Flags) : List Expr → Option (List Pattern × Flags)
  | [] => some ([], flags)
  | expr :: rest => do
    let (pattern, behind) ← expr.meaning? flags
    let (patterns, behind) ← Expr.meanings? behind rest
    return (pattern :: patterns, behind)

end

end JsonValidators.Pattern
