import JsonValidators.CharSet

/-!
The classes of ASCII characters that have names in patterns.
-/

namespace JsonValidators.Pattern

inductive AsciiClass where
  | alnum | alpha | ascii | blank | cntrl | digit | graph | lower | print | punct | space | upper
  | word | xdigit
  deriving DecidableEq

namespace AsciiClass

def ofName? (name : List Char) : Option AsciiClass :=
  match String.ofList name with
  | "alnum" => some alnum
  | "alpha" => some alpha
  | "ascii" => some ascii
  | "blank" => some blank
  | "cntrl" => some cntrl
  | "digit" => some digit
  | "graph" => some graph
  | "lower" => some lower
  | "print" => some print
  | "punct" => some punct
  | "space" => some space
  | "upper" => some upper
  | "word" => some word
  | "xdigit" => some xdigit
  | _ => none

def lowerLetters : CharSet := CharSet.interval 'a' 'z'

def upperLetters : CharSet := CharSet.interval 'A' 'Z'

def digits : CharSet := CharSet.interval '0' '9'

def set : AsciiClass → CharSet
  | alnum => CharSet.unions [digits, lowerLetters, upperLetters]
  | alpha => lowerLetters.union upperLetters
  | ascii => CharSet.ascii
  | blank => (CharSet.single ' ').union (CharSet.single '\t')
  | cntrl => (CharSet.interval '\x00' '\x1f').union (CharSet.single '\x7f')
  | digit => digits
  | graph => CharSet.interval '!' '~'
  | lower => lowerLetters
  | print => CharSet.interval ' ' '~'
  | punct =>
    CharSet.unions
      [CharSet.interval '!' '/', CharSet.interval ':' '@', CharSet.interval '[' '\x60',
        CharSet.interval '\x7b' '~']
  | space => (CharSet.interval '\t' '\r').union (CharSet.single ' ')
  | upper => upperLetters
  | word => CharSet.unions [digits, lowerLetters, upperLetters, CharSet.single '_']
  | xdigit => CharSet.unions [digits, CharSet.interval 'a' 'f', CharSet.interval 'A' 'F']

end AsciiClass

end JsonValidators.Pattern
