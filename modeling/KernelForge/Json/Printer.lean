import KernelForge.Bytes
import KernelForge.Json.Value

/-!
Contract: the indented text of a JSON value.

Owns: the escapes inside a JSON text, and the layout: one item or member a line,
two spaces for each level, a colon and a space after a key, and nothing between
the brackets of an empty array or object.

Only what JSON forbids inside a text is escaped: the quote, the backslash and the
characters below U+0020, by a letter where JSON has one and by four hexadecimal
digits otherwise.

Does not own: the line end after a document.
-/

namespace KernelForge.Json

def escapedChar (character : Char) : List Char :=
  if character = '"' then ['\\', '"']
  else if character = '\\' then ['\\', '\\']
  else if character = '\x08' then ['\\', 'b']
  else if character = '\x0c' then ['\\', 'f']
  else if character = '\n' then ['\\', 'n']
  else if character = '\r' then ['\\', 'r']
  else if character = '\t' then ['\\', 't']
  else if character.toNat < 0x20 then
    ['\\', 'u', '0', '0', hexDigit (character.toNat / 16), hexDigit (character.toNat % 16)]
  else [character]

def textChars (text : String) : List Char :=
  '"' :: text.toList.flatMap escapedChar ++ ['"']

def newLine (level : Nat) : List Char :=
  '\n' :: List.replicate (2 * level) ' '

mutual

/-- The text of a value whose closing bracket stands at the given level. -/
def chars (level : Nat) : Json → List Char
  | .null => ['n', 'u', 'l', 'l']
  | .boolean true => ['t', 'r', 'u', 'e']
  | .boolean false => ['f', 'a', 'l', 's', 'e']
  | .integer value => (toString value).toList
  | .text value => textChars value
  | .array [] => ['[', ']']
  | .array (item :: items) =>
      '[' :: newLine (level + 1) ++ chars (level + 1) item ++
        itemChars (level + 1) items ++ newLine level ++ [']']
  | .object [] => ['\x7b', '\x7d']
  | .object ((key, value) :: members) =>
      '\x7b' :: newLine (level + 1) ++ textChars key ++ [':', ' '] ++ chars (level + 1) value ++
        memberChars (level + 1) members ++ newLine level ++ ['\x7d']

def itemChars (level : Nat) : List Json → List Char
  | [] => []
  | item :: items => ',' :: newLine level ++ chars level item ++ itemChars level items

def memberChars (level : Nat) : List (String × Json) → List Char
  | [] => []
  | (key, value) :: members =>
      ',' :: newLine level ++ textChars key ++ [':', ' '] ++ chars level value ++
        memberChars level members

end

def pretty (document : Json) : String :=
  String.ofList (document.chars 0)

end KernelForge.Json
