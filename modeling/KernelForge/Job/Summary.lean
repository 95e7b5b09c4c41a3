import KernelForge.Json.Printer
import KernelForge.Outputs
import KernelForge.Path

/-!
Contract: the summary of a compiled IR file.

Owns: what a summary says, its text for people and its JSON document.

Paths are shown as text, so ill-formed bytes in them show as U+FFFD. The members
of an object are in alphabetical order.

Does not own: which files are written; that is
`KernelForge.Job.Translate`.
-/

namespace KernelForge

structure Summary where
  input : Path
  platform : String
  binaryFormat : String
  kernelPath : Path
  /-- Where the debug info is, if there is any. -/
  debugInfoPath : Option Path
  binary : DeviceBinary
deriving DecidableEq, Repr

namespace Summary

def debugInfoLine (summary : Summary) : String :=
  match summary.debugInfoPath with
  | none => "  debug info:    none\n"
  | some path =>
      "  debug info:    " ++ path.display ++ " (" ++
        toString summary.binary.debugInfo.length ++ " bytes)\n"

def text (summary : Summary) : String :=
  "Translated " ++ summary.input.display ++ " for " ++ summary.platform ++ "\n" ++
    "  kernel binary: " ++ summary.kernelPath.display ++ " (" ++
    toString summary.binary.kernel.length ++ " bytes, sha256 " ++
    summary.binary.kernelDigest ++ ")\n" ++ summary.debugInfoLine

def debugInfoJson (summary : Summary) : Json :=
  match summary.debugInfoPath with
  | none => .null
  | some path =>
      .object
        [("path", .text path.display), ("size", .integer summary.binary.debugInfo.length)]

def kernelJson (summary : Summary) : Json :=
  .object
    [("path", .text summary.kernelPath.display),
     ("sha256", .text summary.binary.kernelDigest),
     ("size", .integer summary.binary.kernel.length)]

def json (summary : Summary) : Json :=
  .object
    [("binary-format", .text summary.binaryFormat),
     ("debug-info", summary.debugInfoJson),
     ("input", .text summary.input.display),
     ("kernel-binary", summary.kernelJson),
     ("platform", .text summary.platform)]

end Summary

end KernelForge
