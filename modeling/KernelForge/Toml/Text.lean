import KernelForge.Bytes
import KernelForge.Toml.Value

/-!
Contract: reading TOML texts.

Owns: the characters that may stand in a text or a comment, and the four forms of
a text: basic and literal, each on one line or on several. Every reader starts
behind the opening delimiter and gives the characters of the text and what
follows the closing delimiter.

Does not own: which form a value or a key has; that is
`KernelForge.Toml.Document`.
-/

namespace KernelForge.Toml

/-- Characters that may stand in a text or a comment: no control character but
the tab. -/
def isTextChar (character : Char) : Bool :=
  character = '\t' || (0x20 ≤ character.toNat && character.toNat != 0x7F)

/-- The value of a hexadecimal digit in either letter case. -/
def hexValue (character : Char) : Option Nat :=
  if '0' ≤ character ∧ character ≤ '9' then some (character.toNat - 0x30)
  else if 'a' ≤ character ∧ character ≤ 'f' then some (character.toNat - 0x57)
  else if 'A' ≤ character ∧ character ≤ 'F' then some (character.toNat - 0x37)
  else none

theorem hexValue_hexDigit {value : Nat} (small : value < 16) :
    hexValue (hexDigit value) = some value :=
  (by decide : ∀ digit : Fin 16, hexValue (hexDigit digit) = some digit.val) ⟨value, small⟩

/-- The character with a code point, if there is one. -/
def characterOf (codePoint : Nat) : Option Char :=
  if codePoint.isValidChar then some (Char.ofNat codePoint) else none

theorem characterOf_toNat (character : Char) : characterOf character.toNat = some character := by
  have valid : character.toNat.isValidChar := character.valid
  rw [characterOf, if_pos valid, Char.ofNat_toNat]

def letterEscape (letter : Char) : Option Char :=
  if letter = 'b' then some '\x08'
  else if letter = 't' then some '\t'
  else if letter = 'n' then some '\n'
  else if letter = 'f' then some '\x0c'
  else if letter = 'r' then some '\r'
  else if letter = '"' then some '"'
  else if letter = '\\' then some '\\'
  else none

def hexEscape (letter : Char) : Option Nat :=
  if letter = 'u' then some 4 else if letter = 'U' then some 8 else none

/-- Puts a character in front of a text that was read. -/
def prepend (character : Char) (reading : Option (List Char × List Char)) :
    Option (List Char × List Char) :=
  reading.map fun result => (character :: result.1, result.2)

/-- Where the reader of a basic text stands: outside an escape, behind the
backslash, or with so many hexadecimal digits due after the first one due, and
the value so far. -/
inductive EscapeState where
  | outside
  | backslash
  | digits (due : Nat) (value : Nat)
deriving DecidableEq, Repr

def readBasic : EscapeState → List Char → Option (List Char × List Char)
  | _, [] => none
  | .outside, character :: rest =>
      if character = '"' then some ([], rest)
      else if character = '\\' then readBasic .backslash rest
      else if isTextChar character then prepend character (readBasic .outside rest)
      else none
  | .backslash, character :: rest =>
      match letterEscape character, hexEscape character with
      | some escaped, _ => prepend escaped (readBasic .outside rest)
      | none, some count => readBasic (.digits (count - 1) 0) rest
      | none, none => none
  | .digits due value, character :: rest =>
      match hexValue character with
      | none => none
      | some digit =>
          let next := 16 * value + digit
          match due with
          | 0 =>
              match characterOf next with
              | none => none
              | some escaped => prepend escaped (readBasic .outside rest)
          | stillDue + 1 => readBasic (.digits stillDue next) rest

def readLiteral : List Char → Option (List Char × List Char)
  | [] => none
  | character :: rest =>
      if character = '\'' then some ([], rest)
      else if isTextChar character then prepend character (readLiteral rest)
      else none

/-- Where the reader of a basic text on several lines stands: in the text, behind
a backslash, in hexadecimal digits, behind a backslash and blanks that must end
the line, or in the blanks and line ends that such a backslash removes. -/
inductive BlockState where
  | text
  | backslash
  | digits (due : Nat) (value : Nat)
  | lineEnd
  | gap
deriving DecidableEq, Repr

/-- Reads a basic text on several lines. Up to two quotes may stand directly
before the closing delimiter; a line end is read as a line feed. -/
def readBlock : BlockState → List Char → Option (List Char × List Char)
  | _, [] => none
  | .backslash, character :: rest =>
      if character = ' ' ∨ character = '\t' then readBlock .lineEnd rest
      else if character = '\n' then readBlock .gap rest
      else if character = '\r' then
        match rest with
        | '\n' :: after => readBlock .gap after
        | _ => none
      else
        match letterEscape character, hexEscape character with
        | some escaped, _ => prepend escaped (readBlock .text rest)
        | none, some count => readBlock (.digits (count - 1) 0) rest
        | none, none => none
  | .digits due value, character :: rest =>
      match hexValue character with
      | none => none
      | some digit =>
          let next := 16 * value + digit
          match due with
          | 0 =>
              match characterOf next with
              | none => none
              | some escaped => prepend escaped (readBlock .text rest)
          | stillDue + 1 => readBlock (.digits stillDue next) rest
  | .lineEnd, character :: rest =>
      if character = ' ' ∨ character = '\t' then readBlock .lineEnd rest
      else if character = '\n' then readBlock .gap rest
      else if character = '\r' then
        match rest with
        | '\n' :: after => readBlock .gap after
        | _ => none
      else none
  | .gap, ' ' :: rest => readBlock .gap rest
  | .gap, '\t' :: rest => readBlock .gap rest
  | .gap, '\n' :: rest => readBlock .gap rest
  | .gap, '\r' :: '\n' :: rest => readBlock .gap rest
  | _, '"' :: '"' :: '"' :: '"' :: '"' :: rest => some (['"', '"'], rest)
  | _, '"' :: '"' :: '"' :: '"' :: rest => some (['"'], rest)
  | _, '"' :: '"' :: '"' :: rest => some ([], rest)
  | _, '\r' :: '\n' :: rest => prepend '\n' (readBlock .text rest)
  | _, character :: rest =>
      if character = '\\' then readBlock .backslash rest
      else if character = '\n' ∨ isTextChar character then
        prepend character (readBlock .text rest)
      else none

/-- Reads a literal text on several lines. Up to two apostrophes may stand
directly before the closing delimiter; a line end is read as a line feed. -/
def readLiteralBlock : List Char → Option (List Char × List Char)
  | [] => none
  | '\'' :: '\'' :: '\'' :: '\'' :: '\'' :: rest => some (['\'', '\''], rest)
  | '\'' :: '\'' :: '\'' :: '\'' :: rest => some (['\''], rest)
  | '\'' :: '\'' :: '\'' :: rest => some ([], rest)
  | '\r' :: '\n' :: rest => prepend '\n' (readLiteralBlock rest)
  | character :: rest =>
      if character = '\n' ∨ isTextChar character then
        prepend character (readLiteralBlock rest)
      else none

/-- Removes the line end that directly follows an opening delimiter. -/
def dropFirstLineEnd : List Char → List Char
  | '\n' :: rest => rest
  | '\r' :: '\n' :: rest => rest
  | characters => characters

/-- Reads a text of any form from its opening delimiter on. -/
def readText : List Char → Option (String × List Char)
  | '"' :: '"' :: '"' :: rest =>
      (readBlock .text (dropFirstLineEnd rest)).map fun result => (String.ofList result.1, result.2)
  | '"' :: rest => (readBasic .outside rest).map fun result => (String.ofList result.1, result.2)
  | '\'' :: '\'' :: '\'' :: rest =>
      (readLiteralBlock (dropFirstLineEnd rest)).map fun result =>
        (String.ofList result.1, result.2)
  | '\'' :: rest => (readLiteral rest).map fun result => (String.ofList result.1, result.2)
  | _ => none

end KernelForge.Toml
