import JsonValidators.Binary64.Decimal
import JsonValidators.Json

/-!
Reading JSON text. Keys keep their order, and a key that is repeated takes its
last value. Each function returns what it has read with the text behind it, and
nothing if the text is not of its form.
-/

namespace JsonValidators.Json.Reader

def skipBlank (text : List Char) : List Char :=
  text.dropWhile fun c => c == ' ' || c == '\n' || c == '\t' || c == '\r'

def hexValue? (c : Char) : Option Nat :=
  if '0' ≤ c ∧ c ≤ '9' then some (c.toNat - '0'.toNat)
  else if 'a' ≤ c ∧ c ≤ 'f' then some (c.toNat - 'a'.toNat + 10)
  else if 'A' ≤ c ∧ c ≤ 'F' then some (c.toNat - 'A'.toNat + 10)
  else none

def codeUnit? (a b c d : Char) : Option Nat := do
  let a ← hexValue? a
  let b ← hexValue? b
  let c ← hexValue? c
  let d ← hexValue? d
  return ((a * 16 + b) * 16 + c) * 16 + d

/-- The character that a letter stands for behind a backslash. -/
def escaped? (c : Char) : Option Char :=
  if c = '"' ∨ c = '\\' ∨ c = '/' then some c
  else if c = 'b' then some '\x08'
  else if c = 'f' then some '\x0c'
  else if c = 'n' then some '\n'
  else if c = 'r' then some '\r'
  else if c = 't' then some '\t'
  else none

/-- A character by its code point, surrogates excluded. -/
def character? (code : Nat) : Option Char :=
  if code.isValidChar then some (Char.ofNat code) else none

def pair? (high low : Nat) : Option Char :=
  if 0xd800 ≤ high ∧ high < 0xdc00 ∧ 0xdc00 ≤ low ∧ low < 0xe000 then
    character? (0x10000 + (high - 0xd800) * 0x400 + (low - 0xdc00))
  else
    none

def prepend (c : Char) (read : List Char × List Char) : List Char × List Char :=
  (c :: read.1, read.2)

/-- The rest of a string up to its closing quote. Control characters have to be
escaped. An escaped code unit is a character of its own, or the first half of a
pair. -/
def stringRest : List Char → Option (List Char × List Char)
  | [] => none
  | '"' :: rest => some ([], rest)
  | '\\' :: 'u' :: a :: b :: c :: d :: rest =>
    match codeUnit? a b c d with
    | none => none
    | some unit =>
      match character? unit with
      | some char => (stringRest rest).map (prepend char)
      | none =>
        match rest with
        | '\\' :: 'u' :: e :: f :: g :: h :: rest =>
          match (codeUnit? e f g h).bind (pair? unit) with
          | some char => (stringRest rest).map (prepend char)
          | none => none
        | _ => none
  | '\\' :: c :: rest =>
    match escaped? c with
    | some char => (stringRest rest).map (prepend char)
    | none => none
  | c :: rest =>
    if c.toNat < 0x20 ∨ c = '\\' then none else (stringRest rest).map (prepend c)

/-- The number that a list of decimal digits denotes. -/
def digitsValue (digits : List Char) : Nat :=
  digits.foldl (fun n c => 10 * n + (c.toNat - '0'.toNat)) 0

/-- The digits at the front, of which there has to be one. -/
def digits? (text : List Char) : Option (List Char × List Char) :=
  let digits := text.takeWhile Char.isDigit
  if digits.isEmpty then none else some (digits, text.dropWhile Char.isDigit)

def fraction? : List Char → Option (List Char × List Char)
  | '.' :: rest => digits? rest
  | text => some ([], text)

def exponent? : List Char → Option (Option Int × List Char)
  | e :: rest =>
    if e = 'e' ∨ e = 'E' then
      match rest with
      | '-' :: rest => (digits? rest).map fun (digits, rest) =>
        (some (-(digitsValue digits : Int)), rest)
      | '+' :: rest => (digits? rest).map fun (digits, rest) =>
        (some (digitsValue digits : Int), rest)
      | rest => (digits? rest).map fun (digits, rest) =>
        (some (digitsValue digits : Int), rest)
    else
      some (none, e :: rest)
  | [] => some (none, [])

/-- The number of its written parts. Without fraction and exponent it is an
integer where it fits, except that minus zero is a float. -/
def numberOf (negative : Bool) (whole fraction : List Char) (exponent : Option Int) :
    Option Number :=
  let digits := digitsValue (whole ++ fraction)
  let scale := exponent.getD 0 - fraction.length
  let value : Int := if negative then -digits else digits
  if fraction.isEmpty ∧ exponent.isNone ∧ ¬ (negative ∧ digits = 0) ∧ IntegerRange value then
    Number.ofInt? value
  else
    (Binary64.ofDecimal negative digits scale).map Number.float

/-- A number without its sign. A whole part of several digits has no leading zero. -/
def unsigned? (negative : Bool) (text : List Char) : Option (Json × List Char) := do
  let (whole, rest) ← digits? text
  if whole.length ≠ 1 ∧ whole.head? = some '0' then none
  else
    let (fraction, rest) ← fraction? rest
    let (exponent, rest) ← exponent? rest
    let number ← numberOf negative whole fraction exponent
    return (.number number, rest)

def number? : List Char → Option (Json × List Char)
  | '-' :: rest => unsigned? true rest
  | text => unsigned? false text

mutual

def value : Nat → List Char → Option (Json × List Char)
  | 0, _ => none
  | fuel + 1, text =>
    match skipBlank text with
    | '"' :: rest => do
      let (chars, rest) ← stringRest rest
      return (.string (String.ofList chars), rest)
    | '[' :: rest =>
      match skipBlank rest with
      | ']' :: rest => some (.array [], rest)
      | rest => do
        let (items, rest) ← items fuel rest
        return (.array items, rest)
    | '\x7b' :: rest =>
      match skipBlank rest with
      | '\x7d' :: rest => some (.object [], rest)
      | rest => do
        let (entries, rest) ← entries fuel rest
        return (.object (Entries.ofList entries), rest)
    | 'n' :: 'u' :: 'l' :: 'l' :: rest => some (.null, rest)
    | 't' :: 'r' :: 'u' :: 'e' :: rest => some (.bool true, rest)
    | 'f' :: 'a' :: 'l' :: 's' :: 'e' :: rest => some (.bool false, rest)
    | rest => number? rest

def items : Nat → List Char → Option (List Json × List Char)
  | 0, _ => none
  | fuel + 1, text => do
    let (item, rest) ← value fuel text
    match skipBlank rest with
    | ',' :: rest =>
      let (others, rest) ← items fuel rest
      return (item :: others, rest)
    | ']' :: rest => return ([item], rest)
    | _ => none

/-- The entries of an object up to its end, in the order written. -/
def entries : Nat → List Char → Option (List (String × Json) × List Char)
  | 0, _ => none
  | fuel + 1, text => do
    match skipBlank text with
    | '"' :: rest =>
      let (key, rest) ← stringRest rest
      match skipBlank rest with
      | ':' :: rest =>
        let (value, rest) ← value fuel rest
        match skipBlank rest with
        | ',' :: rest =>
          let (others, rest) ← entries fuel rest
          return ((String.ofList key, value) :: others, rest)
        | '\x7d' :: rest => return ([(String.ofList key, value)], rest)
        | _ => none
      | _ => none
    | _ => none

end

end JsonValidators.Json.Reader

namespace JsonValidators.Json

/-- Read a whole text as one value. Every value takes up at least one character,
so the length bounds the depth. -/
def read? (text : List Char) : Option Json :=
  match Reader.value (text.length + 1) text with
  | some (value, rest) => if (Reader.skipBlank rest).isEmpty then some value else none
  | none => none

end JsonValidators.Json
