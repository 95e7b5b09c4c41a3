import KernelForge.CommandLine.Arguments
import KernelForge.Log.Line
import KernelForge.Job.Doctor
import KernelForge.Job.Platforms
import KernelForge.Job.Translate

/-!
Contract: the program, from its arguments to its exit status.

Owns: the choice of the job, the log filter that the command line and the
environment make, the contents of both output streams, and the exit status.

The exit status is 0 for a job that succeeds and for a version or a help text, 1
for a job that fails, and 2 for arguments that make no sense. Standard output has
what a job wrote to paths that lead to it, and then the text of a job that succeeds.
Standard error has the remarks on the log specification, then the echo, then the log
lines that get through, then what the job wrote to paths that lead to it, then the
failure. Both streams take every byte that the program itself prints.

The help text, and what is printed about arguments that make no sense, are worded
here in a few lines of this module's own. They stand for the text that a library
for command lines generates, of which only the exit status is followed.

Does not own: reading the real arguments, variables and files; that is
`KernelForge.Main`.
-/

namespace KernelForge

structure Outcome where
  exitStatus : Nat
  standardOutput : Bytes
  standardError : Bytes
  files : FileTree
  opened : List Path
  calls : List ForeignCall

namespace Program

def name : String := "cmoc"

def version : String := "0.1.0"

def usage : String :=
  "Usage: cmoc [-v] translate --platform <ID> --input <FILE> [OPTIONS]\n" ++
    "       cmoc [-v] platforms [--format <FORMAT>]\n" ++
    "       cmoc [-v] doctor [--config <FILE>]\n"

def logVariable : String := "RUST_LOG"

def logStyleVariable : String := "RUST_LOG_STYLE"

def noColourVariable : String := "NO_COLOR"

/-- The variable that asks for colours where no terminal shows them. -/
def forceColourVariable : String := "CLICOLOR_FORCE"

/-- The parts of the program that a specification can name. -/
def logTargets : List String := ["cmoc", "cmoc_backend", "cmoc_targets"]

/-- The filter before any specification: warnings, or debug records on request. -/
def initialFilter (verbose : Bool) : Log.Filter where
  directives := logTargets.map fun target =>
    ⟨some target, .upTo (if verbose then .debug else .warn)⟩
  pattern := none

def isFilled (environment : Environment) (name : String) : Bool :=
  (environment.lookup name).any (· != [])

/-- The style of log lines that variables ask for. Where the style variable decides
nothing, the wish for no colours goes before the wish for colours, and without either
there are none, because standard error is no terminal. -/
def lineStyle (environment : Environment) : Log.LineStyle :=
  let choice := environment.texts logStyleVariable
  if choice = some "always" then .coloured
  else if choice = some "never" then .plain
  else if isFilled environment noColourVariable then .plain
  else if isFilled environment forceColourVariable then .coloured
  else .plain

def remarkLine (remark : String) : String :=
  "warning: " ++ remark ++ ", ignoring it\n"

/-- The line for a failure: its chain of messages. -/
def failureLine (failure : JobFailure) : String :=
  "error: " ++ String.intercalate ": " failure.chain ++ "\n"

def perform (host : Host) : Job → Effects
  | .translate options =>
      match host.configuration options.configuration with
      | .error failure => host.answers (.error failure)
      | .ok configuration => Translate.run host options configuration
  | .platforms format => Platforms.run host format
  | .doctor document =>
      match host.configuration document with
      | .error failure => host.answers (.error failure)
      | .ok configuration => Doctor.run host version configuration

def diagnostics (environment : Environment) (verbose : Bool) (effects : Effects) : Bytes :=
  let specification := Log.Specification.read ((environment.texts logVariable).getD "")
  let filter := specification.applyTo (initialFilter verbose)
  let remarks := specification.remarks.flatMap fun remark => Text.Utf8.encode (remarkLine remark)
  let lines := (effects.log.filter filter.admits).flatMap (Log.line (lineStyle environment))
  let failure :=
    match effects.result with
    | .error failure => Text.Utf8.encode (failureLine failure)
    | .ok _ => []
  remarks ++ effects.echo ++ lines ++ effects.sent.errors ++ failure

def runJob (host : Host) (commandLine : CommandLine) : Outcome :=
  let effects := perform host commandLine.job
  let errorText := diagnostics host.environment commandLine.verbose effects
  match effects.result with
  | .ok text =>
      ⟨0, effects.sent.output ++ Text.Utf8.encode text, errorText, effects.files, effects.opened,
       effects.calls⟩
  | .error _ =>
      ⟨1, effects.sent.output, errorText, effects.files, effects.opened, effects.calls⟩

/-- The outcome of a command line that leads to no job. -/
def halted (host : Host) : Halt → Outcome
  | .version =>
      ⟨0, Text.Utf8.encode (name ++ " " ++ version ++ "\n"), [], host.files, [], []⟩
  | .help => ⟨0, Text.Utf8.encode usage, [], host.files, [], []⟩
  | .refused =>
      ⟨2, [], Text.Utf8.encode ("error: the arguments make no sense\n\n" ++ usage),
       host.files, [], []⟩

def run (host : Host) (arguments : List Bytes) : Outcome :=
  match CommandLine.read arguments with
  | .error reason => halted host reason
  | .ok commandLine => runJob host commandLine

end Program

end KernelForge
