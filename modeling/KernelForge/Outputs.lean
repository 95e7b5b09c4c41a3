import KernelForge.Compiler
import KernelForge.Digest.Sha256
import KernelForge.Log

/-!
Contract: what the compiler's outputs are taken for.

Owns: the device binary, reading out-parameters as named outputs, and the choice
of the kernel binary and the debug info among them.

The first output whose name ends in `.gen` is the kernel binary and must exist;
the first whose name ends in `.dbg`, if any, is the debug info. An output that
claims a length without data is refused where it is met, so every output before
it has been recorded by then.

Does not own: releasing the out-parameters; that is `KernelForge.Session`.
-/

namespace KernelForge

def kernelSuffix : Bytes := [0x2E, 0x67, 0x65, 0x6E]

def debugSuffix : Bytes := [0x2E, 0x64, 0x62, 0x67]

structure DeviceBinary where
  kernel : Bytes
  debugInfo : Bytes
deriving DecidableEq, Repr

def DeviceBinary.hasDebugInfo (binary : DeviceBinary) : Bool :=
  binary.debugInfo != []

theorem DeviceBinary.hasDebugInfo_iff {binary : DeviceBinary} :
    binary.hasDebugInfo = true ↔ binary.debugInfo ≠ [] := bne_iff_ne

theorem DeviceBinary.hasDebugInfo_eq_false_iff {binary : DeviceBinary} :
    binary.hasDebugInfo = false ↔ binary.debugInfo = [] := bne_eq_false_iff_eq

/-- The SHA-256 of the kernel binary in lowercase hexadecimal. -/
def DeviceBinary.kernelDigest (binary : DeviceBinary) : String :=
  Sha256.hexDigest binary.kernel

structure Output where
  name : Bytes
  data : Bytes
deriving DecidableEq, Repr

structure OutputEntry where
  name : Option Bytes
  data : Option Bytes
  length : Nat
deriving DecidableEq, Repr

namespace OutputEntry

/-- The name of an entry; a null pointer is the empty name. -/
def nameBytes (entry : OutputEntry) : Bytes :=
  (entry.name.map Bytes.untilZero).getD []

/-- The entry as an output. Nothing is read where the length is zero. -/
def output (entry : OutputEntry) : Except Violation Output :=
  if entry.length = 0 then .ok ⟨entry.nameBytes, []⟩
  else
    match entry.data with
    | none => .error (.missingData entry.nameBytes entry.length)
    | some data => .ok ⟨entry.nameBytes, data.take entry.length⟩

def record (entry : OutputEntry) : LogRecord :=
  ⟨.trace, .output,
   "output " ++ Text.Utf8.decodeLossy entry.nameBytes ++ " (" ++ toString entry.length ++
     " bytes)"⟩

end OutputEntry

namespace OutParameters

/-- The entries that are considered: none if an array is null, otherwise as many
as the count says. -/
def entries (outputs : OutParameters) : List OutputEntry :=
  match outputs.data, outputs.lengths, outputs.names with
  | some data, some lengths, some names =>
      ((names.zip (data.zip lengths)).map fun entry =>
        ⟨entry.1, entry.2.1, entry.2.2⟩).take outputs.count
  | _, _, _ => []

end OutParameters

/-- Reads entries as outputs up to the first one that is refused, with the
records written on the way. -/
def readEntries : List OutputEntry → List LogRecord × Except Violation (List Output)
  | [] => ([], .ok [])
  | entry :: rest =>
      match entry.output with
      | .error violation => ([], .error violation)
      | .ok output =>
          let following := readEntries rest
          (entry.record :: following.1, following.2.map (output :: ·))

/-- The outputs among which nothing is chosen yet have a kernel binary first in
order and perhaps debug info. -/
def classify (outputs : List Output) : Except Violation DeviceBinary :=
  match outputs.find? fun output => output.name.endsWith kernelSuffix with
  | none => .error (.missingKernel outputs.length)
  | some kernel =>
      .ok ⟨kernel.data,
        ((outputs.find? fun output => output.name.endsWith debugSuffix).map Output.data).getD []⟩

def classifyRecord (outputs : List Output) : List LogRecord :=
  match outputs.find? fun output => output.name.endsWith kernelSuffix with
  | none => []
  | some kernel =>
      let debugLength :=
        ((outputs.find? fun output => output.name.endsWith debugSuffix).map
          fun output => output.data.length).getD 0
      [⟨.debug, .output,
        "kernel binary " ++ Text.Utf8.decodeLossy kernel.name ++ " (" ++
          toString kernel.data.length ++ " bytes), debug info " ++ toString debugLength⟩]

end KernelForge
