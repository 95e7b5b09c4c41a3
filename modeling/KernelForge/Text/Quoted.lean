import KernelForge.Text.CharacterClass
import KernelForge.Text.Utf8

/-!
Contract: the quoted form in which a diagnostic shows a text unambiguously.

Owns: the escapes of one character, the quoted form of a text, and the quoted
form of a byte string that should be text but may not be.

Does not own: the backslash form of the command echo, which escapes nothing but
its quote; that is `KernelForge.Echo.Escaped`.
-/

namespace KernelForge.Text

/-- The digits of a code point in lowercase hexadecimal, without leading zeros. -/
def codePointDigits (codePoint : Nat) : List Char :=
  Nat.toDigits 16 codePoint

def escapeByCodePoint (character : Char) : List Char :=
  ['\\', 'u', '\x7b'] ++ codePointDigits character.toNat ++ ['\x7d']

/-- One character inside quotes. An apostrophe stands as it is. -/
def quotedChar (character : Char) : List Char :=
  if character = '\x00' then ['\\', '0']
  else if character = '\t' then ['\\', 't']
  else if character = '\r' then ['\\', 'r']
  else if character = '\n' then ['\\', 'n']
  else if character = '\\' then ['\\', '\\']
  else if character = '"' then ['\\', '"']
  else if isGraphic character then [character]
  else escapeByCodePoint character

def quoted (text : String) : String :=
  String.ofList ('"' :: text.toList.flatMap quotedChar ++ ['"'])

/-- One byte that belongs to no character: two uppercase hexadecimal digits. -/
def quotedByte (byte : UInt8) : List Char :=
  ['\\', 'x', upperHexDigit (byte.toNat / 16), upperHexDigit (byte.toNat % 16)]

def quotedPiece : Utf8.Piece → List Char
  | .character value => quotedChar value
  | .illFormed bytes => bytes.flatMap quotedByte

/-- A byte string in quotes: its characters as text, its other bytes by value. -/
def quotedBytes (bytes : Bytes) : String :=
  String.ofList ('"' :: (Utf8.pieces bytes).flatMap quotedPiece ++ ['"'])

end KernelForge.Text
