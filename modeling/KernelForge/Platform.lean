/-!
Contract: the platforms that the device compiler can be asked for.

Owns: the platform table in its listing order, the exact lookup of a platform
identifier, the device code of a platform, and the revision of a device.

An identifier is matched exactly, letter case included. No revision is known for
any platform, so a request names none.

Does not own: the texts that list the table; that is
`KernelForge.Platform.Listing`.
-/

namespace KernelForge

structure Platform where
  id : String
  /-- The code by which the device compiler knows the device. -/
  device : String
  description : String
  generation : String
deriving DecidableEq, Repr

/-- All platforms, in listing order. -/
def supportedPlatforms : List Platform :=
  [⟨"SKL", "skl", "Skylake", "Gen9"⟩,
   ⟨"ICLLP", "icllp", "Ice Lake LP", "Gen11"⟩,
   ⟨"TGLLP", "tgllp", "Tiger Lake LP", "Gen12"⟩]

def Platform.lookup (id : String) : Option Platform :=
  supportedPlatforms.find? fun platform => platform.id == id

def Platform.deviceCode (id : String) : Option String :=
  (Platform.lookup id).map Platform.device

/-- The wording for an identifier that is not in the table. -/
def unmappedPlatformMessage (id : String) : String :=
  "unexpected CPU model '" ++ id ++ "'"

/-- The revision of a device: a number in decimal, or nothing. -/
structure Revision where
  text : String
deriving DecidableEq, Repr

namespace Revision

def unspecified : Revision := ⟨""⟩

def ofNumber (number : Nat) : Revision := ⟨toString number⟩

def isUnspecified (revision : Revision) : Bool := revision.text == ""

/-- The revision that a platform identifier implies: none for every one. -/
def ofPlatform (_ : String) : Revision := unspecified

end Revision

end KernelForge
