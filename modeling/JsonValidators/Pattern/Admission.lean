import JsonValidators.Pattern.Automaton
import JsonValidators.Pattern.Meaning
import JsonValidators.Pattern.Reader

/-!
Patterns from texts. A pattern may neither be nested too deep nor be too large.
-/

namespace JsonValidators.Pattern

/-- Patterns may not be nested deeper than this. -/
def depthLimit : Nat := 250

/-- The pattern of a text, if the text is one and is within the limits. -/
def read? (text : String) : Option Pattern := do
  let expr ← Expr.read? text.toList
  if depthLimit < expr.depth then none
  else
    let (pattern, _) ← expr.meaning? Flags.default
    if pattern.fits then return pattern else none

end JsonValidators.Pattern
