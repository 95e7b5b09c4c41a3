import KernelForge.Bytes

/-!
Contract: TOML lines as this library writes them.

Owns: the basic form of a text, a key and its text on one line, and the heading
of an element of an array of tables.

A basic text stands between quotes. The quote, the backslash and the control
characters are escaped, by a letter where TOML has one and by four hexadecimal
digits otherwise; every other character stands for itself.

Does not own: reading TOML; that is `KernelForge.Toml.Document`.
-/

namespace KernelForge.Toml

def escapedChar (character : Char) : List Char :=
  if character = '"' then ['\\', '"']
  else if character = '\\' then ['\\', '\\']
  else if character = '\x08' then ['\\', 'b']
  else if character = '\t' then ['\\', 't']
  else if character = '\n' then ['\\', 'n']
  else if character = '\x0c' then ['\\', 'f']
  else if character = '\r' then ['\\', 'r']
  else if character.toNat < 0x20 ∨ character.toNat = 0x7F then
    ['\\', 'u', '0', '0', hexDigit (character.toNat / 16), hexDigit (character.toNat % 16)]
  else [character]

def basicText (text : String) : String :=
  String.ofList ('"' :: text.toList.flatMap escapedChar ++ ['"'])

def textLine (key text : String) : String :=
  key ++ " = " ++ basicText text ++ "\n"

/-- The heading of the next element of an array of tables. -/
def elementHeading (key : String) : String :=
  "[[" ++ key ++ "]]\n"

end KernelForge.Toml
