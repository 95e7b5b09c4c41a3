import KernelForge.CommandLine
import KernelForge.Job
import KernelForge.Job.Summary

/-!
Contract: the job that compiles one IR file.

Owns: the paths of the outputs, showing the command without running it, compiling,
writing the outputs, and the summary.

The input is read before anything else. Nothing is written before the compilation
has succeeded; then the kernel binary is written, and after it the debug info if
there is any. Nothing is undone when a later step fails, and what was taken of a file
whose writing broke off stays.

Does not own: the settings, which are found before the job begins.
-/

namespace KernelForge.Translate

def kernelExtension : Bytes := [0x67, 0x65, 0x6E]

def debugInfoExtension : Bytes := [0x64, 0x62, 0x67]

/-- Where the kernel binary goes: where it was asked for, or next to the input. -/
def kernelPath (options : TranslateOptions) : Path :=
  options.output.getD (options.input.withExtension kernelExtension)

/-- Where debug info goes: where it was asked for, or next to the input. -/
def debugInfoPath (options : TranslateOptions) : Path :=
  options.debugInfo.getD (options.input.withExtension debugInfoExtension)

def request (options : TranslateOptions) : Request where
  platform := options.platform
  binaryFormat := options.binaryFormat
  features := options.features
  backendOptions := options.backendOptions
  timePasses := options.timePasses

def dryRun (host : Host) (options : TranslateOptions) (configuration : Configuration) :
    Effects :=
  let composed := Command.composeEchoing .unlimited [] (request options) configuration
  let result :=
    match composed.2 with
    | .error cause => .error (.composing cause)
    | .ok command => .ok (Echo.escapedLine '"' command.arguments)
  { host.answers result with echo := composed.1 }

def writeFile (files : FileTree) (path : Path) (data : Bytes) (stop : Option Stop) :
    FileTree.Writing JobFailure Unit :=
  match files.create path with
  | .error cause => ⟨files, .nothing, .error (.creating path cause)⟩
  | .ok (opened, handle) =>
      let writing := opened.write handle data stop
      ⟨writing.files, writing.sent, writing.result.mapError (.writing path)⟩

/-- Writes a device binary; the result is where the debug info went, if there is
any. -/
def writeBinary (host : Host) (options : TranslateOptions) (binary : DeviceBinary) :
    FileTree.Writing JobFailure (Option Path) :=
  let kernel := writeFile host.files (kernelPath options) binary.kernel host.kernelStop
  match kernel.result with
  | .error failure => ⟨kernel.files, kernel.sent, .error failure⟩
  | .ok () =>
      if binary.hasDebugInfo then
        let debugInfo :=
          writeFile kernel.files (debugInfoPath options) binary.debugInfo host.debugInfoStop
        ⟨debugInfo.files, kernel.sent ++ debugInfo.sent,
         debugInfo.result.map fun _ => some (debugInfoPath options)⟩
      else ⟨kernel.files, kernel.sent, .ok none⟩

/-- The summary for options, a device binary and the place of its debug info. -/
def summary (options : TranslateOptions) (binary : DeviceBinary) (debugInfo : Option Path) :
    Summary where
  input := options.input
  platform := options.platform
  binaryFormat := options.binaryFormat
  kernelPath := kernelPath options
  debugInfoPath := debugInfo
  binary := binary

def report (options : TranslateOptions) (summary : Summary) : String :=
  if options.json then summary.json.pretty ++ "\n" else summary.text

def compile (host : Host) (options : TranslateOptions) (configuration : Configuration)
    (ir : Bytes) : Effects :=
  let compilation := compileIR .unlimited [] host.loader (request options) configuration ir
  let writing : FileTree.Writing JobFailure String :=
    match compilation.result with
    | .error cause => ⟨host.files, .nothing, .error (.translating options.input cause)⟩
    | .ok binary =>
        let written := writeBinary host options binary
        ⟨written.files, written.sent,
         written.result.map fun debugInfo => report options (summary options binary debugInfo)⟩
  { result := writing.result
    echo := compilation.echo
    log := compilation.log
    files := writing.files
    sent := writing.sent
    opened := compilation.opened
    calls := compilation.calls }

def run (host : Host) (options : TranslateOptions) (configuration : Configuration) : Effects :=
  match host.files.read options.input with
  | .error cause => host.answers (.error (.readingInput options.input cause))
  | .ok ir =>
      if options.dryRun then dryRun host options configuration
      else compile host options configuration ir

end KernelForge.Translate
