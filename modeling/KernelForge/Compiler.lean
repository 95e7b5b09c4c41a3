import KernelForge.Bytes
import KernelForge.Failure

/-!
Contract: the two entry points of the device compiler, as values.

Owns: what the compiler is handed by one call, the four out-parameters that it
may fill, the compiler as a pair of functions, and the trace of calls made to it.

A null pointer is `none`. The three output arrays run in parallel; an entry of
the name array is a C string and ends before its first zero byte, and an entry of
the data array holds at least as many bytes as the length array says, if it is
not null.

Does not own: what a call is made for; that is `KernelForge.Session`.
-/

namespace KernelForge

/-- A source handed to the compiler: its C string label, its data, and the length
that is given for them. -/
structure SourceBuffer where
  label : Bytes
  data : Bytes
  length : Nat
deriving DecidableEq, Repr

structure OutParameters where
  count : Nat
  data : Option (List (Option Bytes))
  lengths : Option (List Nat)
  names : Option (List (Option Bytes))
deriving DecidableEq, Repr

/-- Out-parameters as they are before the compiler has seen them. -/
def OutParameters.clear : OutParameters := ⟨0, none, none, none⟩

/-- What `oclocInvoke` is handed. -/
structure InvokeCall where
  arguments : List Bytes
  sources : List SourceBuffer
  /-- The headers; none stands for a count of zero and three null pointers. -/
  headers : Option (List SourceBuffer)
  outputs : OutParameters
deriving DecidableEq, Repr

/-- What `oclocInvoke` gives back: its status, and the out-parameters if it wrote
them. -/
structure InvokeReply where
  status : Int
  written : Option OutParameters
deriving DecidableEq, Repr

/-- A device compiler. Zero is the status of success for both entry points. -/
structure DeviceCompiler where
  /-- `oclocInvoke`. -/
  invoke : InvokeCall → InvokeReply
  /-- `oclocFreeOutput`, which is given what `oclocInvoke` left. -/
  free : OutParameters → Int

/-- One call of an entry point, with what was given and what came back. -/
inductive ForeignCall where
  | invoke (call : InvokeCall) (reply : InvokeReply)
  | free (given : OutParameters) (status : Int)
deriving DecidableEq, Repr

namespace ForeignCall

/-- The call went to `oclocInvoke`. -/
def isInvoke : ForeignCall → Bool
  | .invoke _ _ => true
  | .free _ _ => false

/-- The call went to `oclocFreeOutput`. -/
def isFree : ForeignCall → Bool
  | .invoke _ _ => false
  | .free _ _ => true

end ForeignCall

/-- The out-parameters after a call: what was written, or what they were. -/
def InvokeReply.left (reply : InvokeReply) (call : InvokeCall) : OutParameters :=
  reply.written.getD call.outputs

end KernelForge
