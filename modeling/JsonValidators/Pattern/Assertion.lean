import JsonValidators.Pattern.AsciiClass
import JsonValidators.Unicode.BinaryProperty

/-!
Assertions about a place in a text. They look at the characters before and behind
the place only, and take up none.
-/

namespace JsonValidators.Pattern

/-- How words lie around a place. -/
inductive WordEdge where
  /-- A word on one side only. -/
  | boundary
  /-- A word on both sides or on none. -/
  | noBoundary
  /-- A word behind the place only. -/
  | start
  /-- A word before the place only. -/
  | finish
  /-- No word before the place. -/
  | startHalf
  /-- No word behind the place. -/
  | finishHalf
  deriving DecidableEq

/-- Whether words lie that way, given whether there is one before and behind. -/
def WordEdge.holds (before after : Bool) : WordEdge → Bool
  | boundary => before != after
  | noBoundary => before == after
  | start => !before && after
  | finish => before && !after
  | startHalf => !before
  | finishHalf => !after

/-- A condition on a place. -/
inductive Assertion where
  | textStart
  | textEnd
  | lineStart
  | lineEnd
  /-- The start of a line where a carriage return ends lines too, and one before a
  line feed belongs to it. -/
  | lineStartCrLf
  /-- The end of such a line. -/
  | lineEndCrLf
  /-- An edge of words, which consist of ASCII characters only or of any. -/
  | word (edge : WordEdge) (unicode : Bool)
  deriving DecidableEq

def wordSet (unicode : Bool) : CharSet := if unicode then Unicode.word else AsciiClass.word.set

/-- Whether a condition holds between two characters, of which one is missing at an
end of the text. -/
def Assertion.holds (before after : Option Char) : Assertion → Bool
  | textStart => before.isNone
  | textEnd => after.isNone
  | lineStart => before.isNone || before == some '\n'
  | lineEnd => after.isNone || after == some '\n'
  | lineStartCrLf =>
    before.isNone || before == some '\n' || (before == some '\r' && after != some '\n')
  | lineEndCrLf =>
    after.isNone || after == some '\r' || (after == some '\n' && before != some '\r')
  | word edge unicode =>
    let isWord (c : Option Char) := c.any (wordSet unicode).has
    edge.holds (isWord before) (isWord after)

end JsonValidators.Pattern
