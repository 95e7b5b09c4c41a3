import KernelForge.Compiler

/-!
Contract: a device compiler that follows a script.

Owns: the script, which fixes both statuses and what is written to the
out-parameters whatever the call asks for, and the compiler that follows it.

Does not own: judging the calls that it receives.
-/

namespace KernelForge

/-- One scripted output. Without data its length is as scripted; with data the
length is never more than the data has. -/
structure ScriptedOutput where
  name : Option Bytes
  data : Option Bytes
  length : Option Nat
deriving DecidableEq, Repr

def ScriptedOutput.reported (output : ScriptedOutput) : Nat :=
  match output.data with
  | none => output.length.getD 0
  | some data => min (output.length.getD data.length) data.length

structure Script where
  invokeStatus : Int
  freeStatus : Int
  /-- Whether the out-parameters are written; by default on success only. -/
  writes : Option Bool
  outputs : List ScriptedOutput
  /-- The count that is written; by default, and at most, the number of outputs. -/
  count : Option Nat
  nullData : Bool
  nullLengths : Bool
  nullNames : Bool
deriving DecidableEq, Repr

namespace Script

def outParameters (script : Script) : OutParameters where
  count := min (script.count.getD script.outputs.length) script.outputs.length
  data := if script.nullData then none else some (script.outputs.map ScriptedOutput.data)
  lengths :=
    if script.nullLengths then none else some (script.outputs.map ScriptedOutput.reported)
  names := if script.nullNames then none else some (script.outputs.map ScriptedOutput.name)

/-- The out-parameters that the script writes, if it writes them. -/
def written (script : Script) : Option OutParameters :=
  if script.writes.getD (script.invokeStatus == 0) then some script.outParameters else none

def compiler (script : Script) : DeviceCompiler where
  invoke _ := ⟨script.invokeStatus, script.written⟩
  free _ := script.freeStatus

end Script

end KernelForge
