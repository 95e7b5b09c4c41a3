import KernelForge.Json.Value
import KernelForge.Toml.Text

/-!
Contract: reading a JSON document as RFC 8259 has it.

Owns: blanks between tokens, texts with their escapes, integers, and values in brackets
with commas and colons between them. The whole text must be one value with blanks around
it.

A text holds no control character below U+0020. Two escapes that are a high and a low
surrogate are one character; a surrogate that stands alone is none and is refused. A number
has no leading zero, and a fraction or an exponent is refused: nothing here measures in
fractions. Members of an object keep their order, and a repeated key is kept, too.

Does not own: how a value is laid out when it is written; that is
`KernelForge.Json.Printer`.
-/

namespace KernelForge.Json

open KernelForge.Toml (hexValue characterOf prepend)

def isBlank (character : Char) : Bool :=
  character = ' ' || character = '\t' || character = '\n' || character = '\r'

def skipBlanks (characters : List Char) : List Char :=
  characters.dropWhile isBlank

/-- The character that a letter behind a backslash stands for. -/
def letterEscape (letter : Char) : Option Char :=
  if letter = '"' then some '"'
  else if letter = '\\' then some '\\'
  else if letter = '/' then some '/'
  else if letter = 'b' then some '\x08'
  else if letter = 'f' then some '\x0c'
  else if letter = 'n' then some '\n'
  else if letter = 'r' then some '\r'
  else if letter = 't' then some '\t'
  else none

def isHighSurrogate (unit : Nat) : Bool :=
  0xD800 ≤ unit && unit < 0xDC00

def isLowSurrogate (unit : Nat) : Bool :=
  0xDC00 ≤ unit && unit < 0xE000

/-- The character of a pair of surrogates. -/
def ofSurrogates (high low : Nat) : Option Char :=
  if isLowSurrogate low then characterOf (0x10000 + 0x400 * (high - 0xD800) + (low - 0xDC00))
  else none

/-- Where the reader of a text stands: outside an escape, behind a high surrogate, behind a
backslash, or with so many hexadecimal digits due after the next one and the value so far.
The last two know the high surrogate that the escape must complete. -/
inductive TextState where
  | outside
  | behindHigh (high : Nat)
  | backslash (high : Option Nat)
  | digits (high : Option Nat) (due : Nat) (value : Nat)
deriving DecidableEq, Repr

/-- The characters of a text behind its opening quote, and what follows the closing one. -/
def readCharacters : TextState → List Char → Option (List Char × List Char)
  | _, [] => none
  | .outside, character :: rest =>
      if character = '"' then some ([], rest)
      else if character = '\\' then readCharacters (.backslash none) rest
      else if character.toNat < 0x20 then none
      else prepend character (readCharacters .outside rest)
  | .behindHigh high, character :: rest =>
      if character = '\\' then readCharacters (.backslash (some high)) rest else none
  | .backslash high, character :: rest =>
      if character = 'u' then readCharacters (.digits high 3 0) rest
      else
        match high, letterEscape character with
        | none, some escaped => prepend escaped (readCharacters .outside rest)
        | _, _ => none
  | .digits high due value, character :: rest =>
      match hexValue character with
      | none => none
      | some digit =>
          let unit := 16 * value + digit
          match due, high with
          | stillDue + 1, _ => readCharacters (.digits high stillDue unit) rest
          | 0, none =>
              if isHighSurrogate unit then readCharacters (.behindHigh unit) rest
              else
                match characterOf unit with
                | none => none
                | some escaped => prepend escaped (readCharacters .outside rest)
          | 0, some first =>
              match ofSurrogates first unit with
              | none => none
              | some escaped => prepend escaped (readCharacters .outside rest)

def readText : List Char → Option (String × List Char)
  | '"' :: rest =>
      (readCharacters .outside rest).map fun result => (String.ofList result.1, result.2)
  | _ => none

/-- The characters go on with a fraction or an exponent. -/
def continuesNumber : List Char → Bool
  | '.' :: _ => true
  | 'e' :: _ => true
  | 'E' :: _ => true
  | _ => false

/-- Reads decimal digits: a zero alone, or digits of which the first is no zero. -/
def readMagnitude (characters : List Char) : Option (Nat × List Char) :=
  let digits := characters.takeWhile Char.isDigit
  let rest := characters.dropWhile Char.isDigit
  if digits = [] ∨ (digits.head? = some '0' ∧ digits ≠ ['0']) ∨ continuesNumber rest then none
  else some (Nat.ofDigitChars 10 digits 0, rest)

def readInteger : List Char → Option (Int × List Char)
  | '-' :: rest => (readMagnitude rest).map fun result => (-(result.1 : Int), result.2)
  | characters => (readMagnitude characters).map fun result => ((result.1 : Int), result.2)

/-- Reads what stands between brackets from its first part on: parts with commas between
them, and the closing bracket. The allowance bounds the number of parts. -/
def readParts {Part : Type} (closing : Char) (readPart : List Char → Option (Part × List Char)) :
    Nat → List Char → Option (List Part × List Char)
  | 0, _ => none
  | allowance + 1, characters =>
      match readPart (skipBlanks characters) with
      | none => none
      | some (part, rest) =>
          match skipBlanks rest with
          | [] => none
          | mark :: behind =>
              if mark = closing then some ([part], behind)
              else if mark = ',' then
                (readParts closing readPart allowance behind).map fun result =>
                  (part :: result.1, result.2)
              else none

/-- Reads what stands between brackets behind the opening one. -/
def readBracketed {Part : Type} (closing : Char)
    (readPart : List Char → Option (Part × List Char)) (characters : List Char) :
    Option (List Part × List Char) :=
  match skipBlanks characters with
  | [] => none
  | mark :: behind =>
      if mark = closing then some ([], behind)
      else readParts closing readPart (behind.length + 1) (mark :: behind)

/-- Reads a key, a colon and a value. -/
def readMember (readItem : List Char → Option (Json × List Char)) (characters : List Char) :
    Option ((String × Json) × List Char) :=
  match readText characters with
  | none => none
  | some (key, rest) =>
      match skipBlanks rest with
      | ':' :: behind =>
          (readItem (skipBlanks behind)).map fun result => ((key, result.1), result.2)
      | _ => none

/-- Reads a value with fewer levels of brackets than given. -/
def readValue : Nat → List Char → Option (Json × List Char)
  | 0, _ => none
  | levels + 1, characters =>
      match characters with
      | 'n' :: 'u' :: 'l' :: 'l' :: rest => some (.null, rest)
      | 't' :: 'r' :: 'u' :: 'e' :: rest => some (.boolean true, rest)
      | 'f' :: 'a' :: 'l' :: 's' :: 'e' :: rest => some (.boolean false, rest)
      | '"' :: rest => (readText ('"' :: rest)).map fun result => (.text result.1, result.2)
      | '[' :: rest =>
          (readBracketed ']' (readValue levels) rest).map fun result => (.array result.1, result.2)
      | '\x7b' :: rest =>
          (readBracketed '\x7d' (readMember (readValue levels)) rest).map fun result =>
            (.object result.1, result.2)
      | rest => (readInteger rest).map fun result => (.integer result.1, result.2)

/-- The value that a text is a document of, if it is one. -/
def read? (document : String) : Option Json :=
  match readValue (document.toList.length + 1) (skipBlanks document.toList) with
  | none => none
  | some (value, rest) => if skipBlanks rest = [] then some value else none

end KernelForge.Json
