import KernelForge.Compiler.Scripted
import KernelForge.Program

/-!
Contract: the stages of a translation.

Owns: how a command line that was read becomes an outcome, what the `translate` job does
when its settings cannot be loaded, when its input cannot be read, when it only shows the
command, and when it compiles, what writing a binary ends with, and machines to translate on.

Does not own: what compiling and writing do.
-/

namespace KernelForge

/-! ### From a job to the outcome of the program -/

namespace Program

theorem run_of_read {host : Host} {arguments : List Bytes} {commandLine : CommandLine}
    (accepted : CommandLine.read arguments = .ok commandLine) :
    run host arguments = runJob host commandLine := by
  unfold run
  rw [accepted]

theorem runJob_files (host : Host) (commandLine : CommandLine) :
    (runJob host commandLine).files = (perform host commandLine.job).files := by
  simp only [runJob]
  split <;> rfl

theorem runJob_opened (host : Host) (commandLine : CommandLine) :
    (runJob host commandLine).opened = (perform host commandLine.job).opened := by
  simp only [runJob]
  split <;> rfl

theorem runJob_calls (host : Host) (commandLine : CommandLine) :
    (runJob host commandLine).calls = (perform host commandLine.job).calls := by
  simp only [runJob]
  split <;> rfl

theorem runJob_of_error {host : Host} (commandLine : CommandLine) {failure : JobFailure}
    (failed : (perform host commandLine.job).result = .error failure) :
    (runJob host commandLine).exitStatus = 1 ∧
      (runJob host commandLine).standardOutput = (perform host commandLine.job).sent.output := by
  simp only [runJob, failed, and_self]

theorem runJob_of_ok {host : Host} (commandLine : CommandLine) {text : String}
    (succeeded : (perform host commandLine.job).result = .ok text) :
    (runJob host commandLine).exitStatus = 0 ∧
      (runJob host commandLine).standardOutput =
        (perform host commandLine.job).sent.output ++ Text.Utf8.encode text := by
  simp only [runJob, succeeded, and_self]

/-- A job ends with one of two exit statuses, and says nothing of its own unless it succeeds. -/
theorem runJob_exitStatus (host : Host) (commandLine : CommandLine) :
    ((runJob host commandLine).exitStatus = 0 ∨ (runJob host commandLine).exitStatus = 1) ∧
      ((runJob host commandLine).exitStatus ≠ 0 → (runJob host commandLine).standardOutput =
        (perform host commandLine.job).sent.output) := by
  cases result : (perform host commandLine.job).result with
  | error failure =>
      obtain ⟨status, output⟩ := runJob_of_error commandLine result
      exact ⟨.inr status, fun _ => output⟩
  | ok text =>
      obtain ⟨status, -⟩ := runJob_of_ok commandLine result
      exact ⟨.inl status, fun nonzero => absurd status nonzero⟩

end Program

/-! ### The stages of a translation -/

namespace Translate

variable {host : Host} {options : TranslateOptions} {configuration : Configuration} {ir : Bytes}

/-- How far a translation gets, and the effects that it then has. -/
inductive Reaches (host : Host) (options : TranslateOptions) : Effects → Prop
  | unconfigured (failure : JobFailure)
      (unloaded : host.configuration options.configuration = .error failure) :
      Reaches host options (host.answers (.error failure))
  | unread (configuration : Configuration) (cause : FileError)
      (loaded : host.configuration options.configuration = .ok configuration)
      (unread : host.files.read options.input = .error cause) :
      Reaches host options (host.answers (.error (.readingInput options.input cause)))
  | dry (configuration : Configuration) (ir : Bytes)
      (loaded : host.configuration options.configuration = .ok configuration)
      (input : host.files.read options.input = .ok ir) (dry : options.dryRun = true) :
      Reaches host options (dryRun host options configuration)
  | wet (configuration : Configuration) (ir : Bytes)
      (loaded : host.configuration options.configuration = .ok configuration)
      (input : host.files.read options.input = .ok ir) (wet : options.dryRun = false) :
      Reaches host options (compile host options configuration ir)

theorem perform_unconfigured {failure : JobFailure}
    (unloaded : host.configuration options.configuration = .error failure) :
    Program.perform host (.translate options) = host.answers (.error failure) := by
  simp only [Program.perform, unloaded]

theorem perform_unread {cause : FileError}
    (loaded : host.configuration options.configuration = .ok configuration)
    (unread : host.files.read options.input = .error cause) :
    Program.perform host (.translate options) =
      host.answers (.error (.readingInput options.input cause)) := by
  simp only [Program.perform, loaded, run, unread]

theorem perform_dry (loaded : host.configuration options.configuration = .ok configuration)
    (input : host.files.read options.input = .ok ir) (dry : options.dryRun = true) :
    Program.perform host (.translate options) = dryRun host options configuration := by
  simp only [Program.perform, loaded, run, input, dry, if_true]

theorem perform_wet (loaded : host.configuration options.configuration = .ok configuration)
    (input : host.files.read options.input = .ok ir) (wet : options.dryRun = false) :
    Program.perform host (.translate options) = compile host options configuration ir := by
  simp only [Program.perform, loaded, run, input, wet, Bool.false_eq_true, if_false]

theorem perform_reaches (host : Host) (options : TranslateOptions) :
    Reaches host options (Program.perform host (.translate options)) := by
  cases loaded : host.configuration options.configuration with
  | error failure =>
      rw [perform_unconfigured loaded]
      exact .unconfigured failure loaded
  | ok configuration =>
      cases input : host.files.read options.input with
      | error cause =>
          rw [perform_unread loaded input]
          exact .unread configuration cause loaded input
      | ok ir =>
          cases dry : options.dryRun with
          | true =>
              rw [perform_dry loaded input dry]
              exact .dry configuration ir loaded input dry
          | false =>
              rw [perform_wet loaded input dry]
              exact .wet configuration ir loaded input dry

/-- A command that is only shown is written to no path. -/
theorem perform_dry_unsent (host : Host) (dry : options.dryRun = true) :
    (Program.perform host (.translate options)).sent = .nothing := by
  have reaches := perform_reaches host options
  generalize Program.perform host (.translate options) = effects at reaches ⊢
  cases reaches with
  | unconfigured failure unloaded => rfl
  | unread configuration cause loaded unread => rfl
  | dry configuration ir loaded input dry => rfl
  | wet configuration ir loaded input wet => cases dry.symm.trans wet

end Translate

/-! ### What writing a binary ends with -/

/-- A failure to write an output. -/
inductive JobFailure.OfWriting : JobFailure → Prop
  | creating (path : Path) (cause : FileError) : OfWriting (.creating path cause)
  | writing (path : Path) (cause : FileError) : OfWriting (.writing path cause)

namespace Translate

theorem writeFile_error {files : FileTree} {path : Path} {data : Bytes} {stop : Option Stop}
    {failure : JobFailure} (failed : (writeFile files path data stop).result = .error failure) :
    failure.OfWriting := by
  simp only [writeFile, FileTree.write] at failed
  split at failed
  · cases failed
    exact .creating path _
  · split at failed
    · cases failed
    · cases failed
      exact .writing path _

/-- The debug info is reported where it is written, if there is any. -/
def reportedPath (options : TranslateOptions) (binary : DeviceBinary) : Option Path :=
  if binary.debugInfo = [] then none else some (debugInfoPath options)

/-- What writing a binary ends with. -/
inductive BinaryEnd (options : TranslateOptions) (binary : DeviceBinary) :
    Except JobFailure (Option Path) → Prop
  | failed (failure : JobFailure) (ofWriting : failure.OfWriting) :
      BinaryEnd options binary (.error failure)
  | written : BinaryEnd options binary (.ok (reportedPath options binary))

theorem writeBinary_ends (host : Host) (options : TranslateOptions) (binary : DeviceBinary) :
    BinaryEnd options binary (writeBinary host options binary).result := by
  simp only [writeBinary]
  split
  · next failure failed => exact .failed failure (writeFile_error failed)
  · split
    · next hasDebugInfo =>
        have reported : reportedPath options binary = some (debugInfoPath options) :=
          if_neg (DeviceBinary.hasDebugInfo_iff.mp hasDebugInfo)
        rw [← reported]
        cases debugInfo : (writeFile (writeFile host.files (kernelPath options) binary.kernel
            host.kernelStop).files (debugInfoPath options) binary.debugInfo
              host.debugInfoStop).result with
        | error failure => exact .failed failure (writeFile_error debugInfo)
        | ok => exact .written
    · next without =>
        have reported : reportedPath options binary = none :=
          if_pos (DeviceBinary.hasDebugInfo_eq_false_iff.mp (Bool.of_not_eq_true without))
        rw [← reported]
        exact .written

end Translate

/-! ### Machines to translate on -/

namespace Translate

/-- A machine with two devices, one input, and a compiler that makes a kernel binary of
two bytes and no debug info. -/
def deviceHost : Host where
  files :=
    ⟨[([[0x6B]], .file [3]), ([Text.Utf8.encode "dev"], .directory),
      ([Text.Utf8.encode "dev", Text.Utf8.encode "full"], .device .full),
      ([Text.Utf8.encode "dev", Text.Utf8.encode "null"], .device .null)], []⟩
  environment := []
  loader := fun _ =>
    .ok ⟨(⟨0, 0, none, [⟨some (Text.Utf8.encode "k.gen"), some [1, 2], none⟩], none, false,
      false, false⟩ : Script).compiler, fun _ => none⟩

/-- The options that ask for the kernel binary at a path. -/
def optionsTo (output : String) : TranslateOptions :=
  ⟨"SKL", "cm", ⟨[0x6B]⟩, "", [], false, some (Path.ofText output), none, none, false, false⟩

/-- The arguments that say so. -/
def argumentsTo (output : String) : List Bytes :=
  ["translate", "--platform", "SKL", "--input", "k", "--output", output].map Text.Utf8.encode

/-- A machine with one input, a device that keeps nothing, its standard output, and a compiler
that makes a kernel binary of four bytes and debug info of five. -/
def pairHost : Host where
  files :=
    ⟨[([Text.Utf8.encode "k.spv"], .file [3, 2, 0x23, 7]), ([Text.Utf8.encode "dev"], .directory),
      ([Text.Utf8.encode "dev", Text.Utf8.encode "null"], .device .null),
      ([Text.Utf8.encode "dev", Text.Utf8.encode "stdout"], .device (.stream .output []))], []⟩
  environment := []
  loader := fun _ =>
    .ok ⟨(⟨0, 0, none,
      [⟨some (Text.Utf8.encode "cmoc_spirv.gen"), some [0x7F, 0, 0, 0x45], none⟩,
        ⟨some (Text.Utf8.encode "cmoc_spirv.dbg"), some [1, 2, 3, 4, 5], none⟩],
      none, false, false, false⟩ : Script).compiler, fun _ => none⟩

/-- What the compiler of that machine makes. -/
def pairBinary : DeviceBinary := ⟨[0x7F, 0, 0, 0x45], [1, 2, 3, 4, 5]⟩

/-- The options that ask for the kernel binary and the debug info at two paths. -/
def pairOptions (output debugInfo : String) : TranslateOptions :=
  ⟨"TGLLP", "cm", Path.ofText "k.spv", "", [], false, some (Path.ofText output),
    some (Path.ofText debugInfo), none, false, false⟩

/-- The arguments that say so. -/
def pairArguments (output debugInfo : String) : List Bytes :=
  ["translate", "--platform", "TGLLP", "--input", "k.spv", "--output", output, "--debug-info",
    debugInfo].map Text.Utf8.encode

end Translate

end KernelForge
