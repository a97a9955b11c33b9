import JsonValidators.Binary64.Decimal
import JsonValidators.Json

/-!
The compact text of a JSON value: no blanks, keys in order, and in strings only
the quote, the backslash and the characters below U+0020 escaped.
-/

namespace JsonValidators.Json

def hexDigit (n : Nat) : Char := Nat.digitChar (n % 16)

/-- A character inside a string. Control characters without an escape of their
own are written by code. -/
def escapeChar (c : Char) : List Char :=
  if c = '"' then ['\\', '"']
  else if c = '\\' then ['\\', '\\']
  else if c = '\x08' then ['\\', 'b']
  else if c = '\x0c' then ['\\', 'f']
  else if c = '\n' then ['\\', 'n']
  else if c = '\r' then ['\\', 'r']
  else if c = '\t' then ['\\', 't']
  else if c.toNat < 0x20 then ['\\', 'u', '0', '0', hexDigit (c.toNat / 16), hexDigit c.toNat]
  else [c]

def quote (text : List Char) : List Char := '"' :: (text.flatMap escapeChar ++ ['"'])

/-- A number: an integer in decimal, a float in its shortest notation. -/
def numberChars : Number → List Char
  | .integer value _ =>
    if value < 0 then '-' :: Nat.toDigits 10 value.natAbs else Nat.toDigits 10 value.natAbs
  | .float value => value.chars

mutual

def chars : Json → List Char
  | null => ['n', 'u', 'l', 'l']
  | bool true => ['t', 'r', 'u', 'e']
  | bool false => ['f', 'a', 'l', 's', 'e']
  | number value => numberChars value
  | string value => quote value.toList
  | array [] => ['[', ']']
  | array (item :: items) => '[' :: (chars item ++ itemsChars items)
  | object [] => ['\x7b', '\x7d']
  | object ((key, value) :: entries) =>
    '\x7b' :: (quote key.toList ++ ':' :: (chars value ++ entriesChars entries))

/-- The items after the first one, each behind a comma, and the end of the array. -/
def itemsChars : List Json → List Char
  | [] => [']']
  | item :: items => ',' :: (chars item ++ itemsChars items)

/-- The entries after the first one, each behind a comma, and the end of the object. -/
def entriesChars : List (String × Json) → List Char
  | [] => ['\x7d']
  | (key, value) :: entries =>
    ',' :: (quote key.toList ++ ':' :: (chars value ++ entriesChars entries))

end

def text (value : Json) : String := String.ofList value.chars

def optionText : Option Json → String
  | none => "undefined"
  | some value => value.text

end JsonValidators.Json
