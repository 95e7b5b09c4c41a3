/-!
Contract: byte strings and their hexadecimal text.

Owns: the byte string type that IR, device binaries, file contents, paths and
process arguments share; lowercase and uppercase hexadecimal digits.

Does not own: reading bytes as text; that is `KernelForge.Text.Utf8`.
-/

namespace KernelForge

abbrev Bytes := List UInt8

def hexDigit (value : Nat) : Char :=
  if value < 10 then Char.ofNat (0x30 + value) else Char.ofNat (0x57 + value)

def upperHexDigit (value : Nat) : Char :=
  if value < 10 then Char.ofNat (0x30 + value) else Char.ofNat (0x37 + value)

namespace Bytes

def hexChars : Bytes → List Char
  | [] => []
  | byte :: rest =>
      hexDigit (byte.toNat / 16) :: hexDigit (byte.toNat % 16) :: hexChars rest

def toHex (bytes : Bytes) : String :=
  String.ofList (hexChars bytes)

/-- A byte string read as a C string ends before its first zero byte. -/
def untilZero (bytes : Bytes) : Bytes :=
  bytes.takeWhile (· ≠ 0)

def endsWith (bytes ending : Bytes) : Bool :=
  ending.isSuffixOf bytes

end Bytes

end KernelForge
