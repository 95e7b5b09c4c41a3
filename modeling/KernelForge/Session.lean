import KernelForge.Command
import KernelForge.Outputs

/-!
Contract: running a command in a device compiler.

Owns: handing the arguments and the IR over, reading what comes back, and giving
the out-parameters back to the compiler.

The out-parameters are given back exactly once if `oclocInvoke` left anything in
them. After a successful reading this happens openly and its status counts; on
any other way out it happens while leaving, and its status is only recorded.

Does not own: where the compiler comes from; that is `KernelForge.Library`.
-/

namespace KernelForge

/-- What one run of a command does: its result, the calls that it makes, and the
records that it writes. -/
structure Run where
  result : Except Failure DeviceBinary
  calls : List ForeignCall
  log : List LogRecord

namespace Session

/-- The most arguments that an argument count can say. -/
def argumentLimit : Nat := Nat.pow 2 32 - 1

def terminated (text : String) : Bytes :=
  Text.Utf8.encode text ++ [0]

def invokeCall (arguments : List String) (ir : Bytes) : InvokeCall where
  arguments := arguments.map terminated
  sources := [⟨terminated sourceLabel, ir, ir.length⟩]
  headers := none
  outputs := .clear

/-- The record that `oclocInvoke` is about to be called. -/
def callRecord (arguments : List String) (ir : Bytes) : LogRecord :=
  ⟨.debug, .invoke,
   "calling " ++ EntryPoint.invoke.symbol ++ " with " ++ toString arguments.length ++
     " arguments, " ++ toString ir.length ++ " IR bytes"⟩

/-- The record that `oclocFreeOutput` is about to be called. -/
def releaseRecord (outputs : OutParameters) : LogRecord :=
  ⟨.debug, .output, "releasing " ++ toString outputs.count ++ " compiler output(s)"⟩

def discardRecord (status : Int) : LogRecord :=
  ⟨.warn, .output,
   EntryPoint.freeOutput.symbol ++ " failed with status " ++ toString status ++
     " while discarding outputs"⟩

/-- The out-parameters in the hands of a run, and whether they were given back. -/
structure Guard where
  outputs : OutParameters
  released : Bool

/-- Lets go of the out-parameters. Nothing is done where they were given back before
or where nothing was left in them; otherwise they are given back now, and a failure to
do so is only recorded. -/
def Guard.leave (compiler : DeviceCompiler) (guard : Guard) :
    List ForeignCall × List LogRecord :=
  if guard.released ∨ guard.outputs = .clear then ([], [])
  else
    let status := compiler.free guard.outputs
    ([.free guard.outputs status],
     releaseRecord guard.outputs :: if status = 0 then [] else [discardRecord status])

def discard (compiler : DeviceCompiler) (outputs : OutParameters) (failure : Failure) : Run :=
  let leaving := Guard.leave compiler ⟨outputs, false⟩
  ⟨.error failure, leaving.1, leaving.2⟩

/-- Gives the out-parameters back after a successful reading, whatever they are, and
leaves. -/
def release (compiler : DeviceCompiler) (outputs : OutParameters) (binary : DeviceBinary) : Run :=
  let status := compiler.free outputs
  let leaving := Guard.leave compiler ⟨outputs, true⟩
  ⟨if status = 0 then .ok binary else .error (.foreignCallFailed .freeOutput status),
   .free outputs status :: leaving.1, releaseRecord outputs :: leaving.2⟩

/-- Reads the out-parameters of a successful call and gives them back. -/
def collect (compiler : DeviceCompiler) (outputs : OutParameters) : Run :=
  let reading := readEntries outputs.entries
  match reading.2 with
  | .error violation =>
      let rest := discard compiler outputs (.contractViolation violation)
      { rest with log := reading.1 ++ rest.log }
  | .ok named =>
      match classify named with
      | .error violation =>
          let rest := discard compiler outputs (.contractViolation violation)
          { rest with log := reading.1 ++ rest.log }
      | .ok binary =>
          let rest := release compiler outputs binary
          { rest with log := reading.1 ++ classifyRecord named ++ rest.log }

/-- What follows a call of `oclocInvoke`. -/
def conclude (compiler : DeviceCompiler) (status : Int) (outputs : OutParameters) : Run :=
  if status = 0 then collect compiler outputs
  else discard compiler outputs (.foreignCallFailed .invoke status)

/-- Why arguments cannot be handed over, if they cannot: the first one with a zero
character in it, or their number. -/
def refusal (arguments : List String) : Option Violation :=
  match arguments.find? fun argument => argument.toList.contains '\x00' with
  | some argument => some (.zeroInArgument argument)
  | none =>
      if argumentLimit < arguments.length then some (.tooManyArguments arguments.length)
      else none

end Session

namespace Command

/-- Runs a command for an IR. Arguments that cannot be handed over stop the run before
the compiler is called. -/
def run (command : Command) (compiler : DeviceCompiler) (ir : Bytes) : Run :=
  match Session.refusal command.arguments with
  | some violation => ⟨.error (.contractViolation violation), [], []⟩
  | none =>
      let call := Session.invokeCall command.arguments ir
      let reply := compiler.invoke call
      let rest := Session.conclude compiler reply.status (reply.left call)
      ⟨rest.result, .invoke call reply :: rest.calls,
       Session.callRecord command.arguments ir :: rest.log⟩

def runAll (command : Command) (steps : List (DeviceCompiler × Bytes)) : List Run :=
  steps.map fun step => command.run step.1 step.2

end Command

end KernelForge
