import JsonValidators.Json.Reader
import JsonValidators.Pattern.Expr
import JsonValidators.Unicode.BinaryProperty

/-!
Escapes: what stands behind a backslash in a pattern. An escape is a character,
a class of characters or an assertion. Each function returns what it has read
with the text behind it, and nothing if the text is not of its form. Where blanks
are ignored, they may also stand inside of an escape.
-/

namespace JsonValidators.Pattern

/-- Skip blanks and comments. Inside a comment everything up to the end of the
line is skipped. -/
def skipFrom : Bool → List Char → List Char
  | _, [] => []
  | true, c :: rest => skipFrom (c != '\n') rest
  | false, c :: rest =>
    if Unicode.whiteSpace.has c then skipFrom false rest
    else if c = '#' then skipFrom true rest
    else c :: rest

/-- Skip blanks and comments where they are ignored. -/
def skip (ignoreSpace : Bool) (text : List Char) : List Char :=
  if ignoreSpace then skipFrom false text else text

/-- An escape. -/
inductive Escape where
  /-- A character, which may be given as a byte by two hexadecimal digits. -/
  | literal (c : Char) (asByte : Bool)
  | shorthand (negated : Bool) (name : Shorthand)
  | property (negated : Bool) (query : PropertyQuery)
  | anchor (kind : Anchor)

def isMeta (c : Char) : Bool :=
  ['\\', '.', '+', '*', '?', '(', ')', '|', '[', ']', '\x7b', '\x7d', '^', '$', '#', '&', '-',
    '~'].contains c

/-- A backslash may stand before any ASCII character that is no letter, digit or
angle bracket. -/
def isEscapable (c : Char) : Bool :=
  isMeta c || (c.toNat < 0x80 && !c.isAlphanum && c != '<' && c != '>')

/-- The number that hexadecimal digits denote, if they are all such digits. -/
def hexadecimal? (digits : List Char) : Option Nat :=
  digits.foldlM (fun n c => (Json.Reader.hexValue? c).map fun value => 16 * n + value) 0

def fixedHex? (ignoreSpace : Bool) : Nat → List Char → Option (List Char × List Char)
  | 0, text => some ([], text)
  | _ + 1, [] => none
  | count + 1, c :: rest =>
    (fixedHex? ignoreSpace count (skip ignoreSpace rest)).map fun (digits, rest) =>
      (c :: digits, rest)

def braced? (ignoreSpace : Bool) : Nat → List Char → Option (List Char × List Char)
  | 0, _ => none
  | fuel + 1, text =>
    match skip ignoreSpace text with
    | [] => none
    | '\x7d' :: rest => some ([], rest)
    | c :: rest =>
      (braced? ignoreSpace fuel rest).map fun (others, rest) => (c :: others, rest)

/-- A character by its code point: in braces, or with a fixed number of digits, of
which two give a byte. -/
def hexEscape? (ignoreSpace : Bool) (count : Nat) (text : List Char) :
    Option (Escape × List Char) := do
  let ((digits, rest), asByte) ←
    match skip ignoreSpace text with
    | '\x7b' :: rest => (braced? ignoreSpace (rest.length + 1) rest).map (·, false)
    | text => (fixedHex? ignoreSpace count text).map (·, count == 2)
  let code ← if digits.isEmpty then none else hexadecimal? digits
  return (.literal (← Json.Reader.character? code) asByte, skip ignoreSpace rest)

/-- A name, or a property and a value with a sign between them. The sign for an
inequality means the same as the one for equality. -/
def PropertyQuery.ofName (name : List Char) : PropertyQuery :=
  let split (mark : Char) : Option (List Char × List Char) :=
    if name.contains mark then
      some (name.takeWhile (· != mark), (name.dropWhile (· != mark)).drop 1)
    else none
  match split '!' with
  | some (property, '=' :: value) => valued property value
  | _ =>
    match (split ':').or (split '=') with
    | some (property, value) => valued property value
    | none => named name

/-- A class by a property: one letter, or a name in braces. -/
def propertyEscape? (ignoreSpace negated : Bool) (text : List Char) :
    Option (Escape × List Char) := do
  let (name, rest) ←
    match skip ignoreSpace text with
    | [] => none
    | '\x7b' :: rest => braced? ignoreSpace (rest.length + 1) rest
    | '\\' :: _ => none
    | c :: rest => some ([c], skip ignoreSpace rest)
  return (.property negated (PropertyQuery.ofName name), rest)

def boundary? (name : List Char) : Option Anchor :=
  match String.ofList name with
  | "start" => some .wordStart
  | "end" => some .wordEnd
  | "start-half" => some .wordStartHalf
  | "end-half" => some .wordEndHalf
  | _ => none

/-- Whether a brace begins the name of a word boundary and not a repetition. -/
def beginsName (text : List Char) : Bool :=
  text.head?.any fun c => c.isAlpha || c == '-'

/-- A word boundary. A name in braces behind it makes it a special one. -/
def boundaryEscape? (ignoreSpace : Bool) (text : List Char) : Option (Escape × List Char) :=
  let plain := (Escape.anchor .boundary, text)
  match text with
  | '\x7b' :: rest =>
    let inside := skip ignoreSpace rest
    if inside.isEmpty then none
    else if beginsName inside then
      (braced? ignoreSpace (inside.length + 1) inside).bind fun (name, rest) =>
        (boundary? name).map fun anchor => (.anchor anchor, rest)
    else some plain
  | _ => some plain

def escape? (ignoreSpace : Bool) : List Char → Option (Escape × List Char)
  | [] => none
  | c :: rest =>
    match c with
    | 'x' => hexEscape? ignoreSpace 2 rest
    | 'u' => hexEscape? ignoreSpace 4 rest
    | 'U' => hexEscape? ignoreSpace 8 rest
    | 'p' => propertyEscape? ignoreSpace false rest
    | 'P' => propertyEscape? ignoreSpace true rest
    | 'd' => some (.shorthand false .digit, rest)
    | 'D' => some (.shorthand true .digit, rest)
    | 's' => some (.shorthand false .space, rest)
    | 'S' => some (.shorthand true .space, rest)
    | 'w' => some (.shorthand false .word, rest)
    | 'W' => some (.shorthand true .word, rest)
    | 'a' => some (.literal '\x07' false, rest)
    | 'f' => some (.literal '\x0c' false, rest)
    | 't' => some (.literal '\t' false, rest)
    | 'n' => some (.literal '\n' false, rest)
    | 'r' => some (.literal '\r' false, rest)
    | 'v' => some (.literal '\x0b' false, rest)
    | 'A' => some (.anchor .textStart, rest)
    | 'z' => some (.anchor .textEnd, rest)
    | 'b' => boundaryEscape? ignoreSpace rest
    | 'B' => some (.anchor .noBoundary, rest)
    | '<' => some (.anchor .wordStart, rest)
    | '>' => some (.anchor .wordEnd, rest)
    | c => if isEscapable c then some (.literal c false, rest) else none

end JsonValidators.Pattern
