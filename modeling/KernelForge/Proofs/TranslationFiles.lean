import KernelForge.Proofs.PathsAfterWriting
import KernelForge.Proofs.TranslationStages

/-!
Contract: what a translation does to the files.

Owns: when a translation has a binary to write, what writing a binary does, and the exit
status, the standard output and the files of the whole program for it.

Nothing is written before there is a binary. Then the two files are written in order, and
the first that is not written whole ends the job: the files are those before it, but for the
bytes of it that were taken. Standard output has the bytes of a file only where its path
leads there.

Does not own: what the binary is, and the text of a translation that succeeds.
-/

namespace KernelForge

/-! ### Whether there is a binary to write -/

namespace Host

/-- A translation has nothing to write: the settings or the input cannot be read, the
command is only shown, or compiling fails for whatever reason. -/
def LacksBinary (host : Host) (options : TranslateOptions) : Prop :=
  (∃ failure, host.configuration options.configuration = .error failure) ∨
    (∃ cause, host.files.read options.input = .error cause) ∨
    options.dryRun = true ∨
    ∃ configuration ir cause, host.configuration options.configuration = .ok configuration ∧
      host.files.read options.input = .ok ir ∧
      (compileIR .unlimited [] host.loader (Translate.request options) configuration ir).result =
        .error cause

/-- A translation has a binary to write. -/
def Compiles (host : Host) (options : TranslateOptions) (binary : DeviceBinary) : Prop :=
  ∃ configuration ir, host.configuration options.configuration = .ok configuration ∧
    host.files.read options.input = .ok ir ∧ options.dryRun = false ∧
    (compileIR .unlimited [] host.loader (Translate.request options) configuration ir).result =
      .ok binary

/-- There is no third way. -/
theorem lacksBinary_or_compiles (host : Host) (options : TranslateOptions) :
    host.LacksBinary options ∨ ∃ binary, host.Compiles options binary := by
  have reaches := Translate.perform_reaches host options
  generalize Program.perform host (.translate options) = effects at reaches
  cases reaches with
  | unconfigured failure unloaded => exact .inl (.inl ⟨failure, unloaded⟩)
  | unread configuration cause loaded unread => exact .inl (.inr (.inl ⟨cause, unread⟩))
  | dry configuration ir loaded input dry => exact .inl (.inr (.inr (.inl dry)))
  | wet configuration ir loaded input wet =>
      cases compiled : (compileIR .unlimited [] host.loader (Translate.request options)
          configuration ir).result with
      | error cause =>
          exact .inl (.inr (.inr (.inr ⟨configuration, ir, cause, loaded, input, compiled⟩)))
      | ok binary => exact .inr ⟨binary, configuration, ir, loaded, input, wet, compiled⟩

theorem Compiles.unique {host : Host} {options : TranslateOptions}
    {binary other : DeviceBinary} (compiles : host.Compiles options binary)
    (otherCompiles : host.Compiles options other) : binary = other := by
  obtain ⟨configuration, ir, loaded, input, -, compiled⟩ := compiles
  obtain ⟨otherConfiguration, otherIr, otherLoaded, otherInput, -, otherCompiled⟩ := otherCompiles
  cases loaded.symm.trans otherLoaded
  cases input.symm.trans otherInput
  exact Except.ok.inj (compiled.symm.trans otherCompiled)

end Host

/-! ### Writing a binary -/

namespace Translate

variable {host : Host} {options : TranslateOptions} {binary : DeviceBinary}

theorem perform_of_lacksBinary (lacks : host.LacksBinary options) :
    (Program.perform host (.translate options)).files = host.files ∧
      (Program.perform host (.translate options)).sent = .nothing ∧
      (options.dryRun = false →
        ∃ failure, (Program.perform host (.translate options)).result = .error failure) := by
  have reaches := perform_reaches host options
  generalize Program.perform host (.translate options) = effects at reaches ⊢
  cases reaches with
  | unconfigured failure unloaded => exact ⟨rfl, rfl, fun _ => ⟨failure, rfl⟩⟩
  | unread configuration cause loaded unread =>
      exact ⟨rfl, rfl, fun _ => ⟨.readingInput options.input cause, rfl⟩⟩
  | dry configuration ir loaded input dry =>
      exact ⟨rfl, rfl, fun wet => nomatch dry.symm.trans wet⟩
  | wet configuration ir loaded input wet =>
      -- Only a failed compilation is left of the four ways.
      rcases lacks with ⟨_, unloaded⟩ | ⟨_, unread⟩ | shown |
        ⟨otherConfiguration, otherIr, cause, otherLoaded, otherInput, uncompiled⟩
      · cases loaded.symm.trans unloaded
      · cases input.symm.trans unread
      · cases wet.symm.trans shown
      · cases loaded.symm.trans otherLoaded
        cases input.symm.trans otherInput
        simp only [compile, uncompiled]
        exact ⟨trivial, trivial, fun _ => ⟨.translating options.input cause, rfl⟩⟩

theorem perform_of_compiles (compiles : host.Compiles options binary) :
    (Program.perform host (.translate options)).files = (writeBinary host options binary).files ∧
      (Program.perform host (.translate options)).sent = (writeBinary host options binary).sent ∧
      (Program.perform host (.translate options)).result =
        (writeBinary host options binary).result.map fun debugInfo =>
          report options (summary options binary debugInfo) := by
  obtain ⟨configuration, ir, loaded, input, wet, compiled⟩ := compiles
  rw [perform_wet loaded input wet]
  simp only [compile, compiled, and_self]

/-- What writing a device binary leaves, what it sends to the streams, and whether all of it
was written: the kernel binary comes first, and the debug info, if there is any, only after
the whole of it. -/
inductive BinaryWrites (host : Host) (options : TranslateOptions) (binary : DeviceBinary) :
    FileTree → Streams → Bool → Prop
  | kernelFails (after : FileTree) (sent : Streams)
      (kernel : host.files.Writes (kernelPath options) binary.kernel host.kernelStop after sent
        false) :
      BinaryWrites host options binary after sent false
  | kernelOnly (noDebugInfo : binary.debugInfo = []) (after : FileTree) (sent : Streams)
      (kernel : host.files.Writes (kernelPath options) binary.kernel host.kernelStop after sent
        true) :
      BinaryWrites host options binary after sent true
  | both (someDebugInfo : binary.debugInfo ≠ []) (afterKernel : FileTree) (kernelSent : Streams)
      (kernel : host.files.Writes (kernelPath options) binary.kernel host.kernelStop afterKernel
        kernelSent true)
      (after : FileTree) (debugInfoSent : Streams) (whole : Bool)
      (debugInfo : afterKernel.Writes (debugInfoPath options) binary.debugInfo host.debugInfoStop
        after debugInfoSent whole) :
      BinaryWrites host options binary after (kernelSent ++ debugInfoSent) whole

theorem isOk_map {ε α β : Type} (result : Except ε α) (next : α → β) :
    (result.map next).isOk = result.isOk := by
  cases result <;> rfl

theorem writeBinary_writes (host : Host) (options : TranslateOptions) (binary : DeviceBinary) :
    BinaryWrites host options binary (writeBinary host options binary).files
      (writeBinary host options binary).sent (writeBinary host options binary).result.isOk := by
  have kernel := writeFile_writes host.files (kernelPath options) binary.kernel host.kernelStop
  unfold writeBinary
  cases kernelResult :
      (writeFile host.files (kernelPath options) binary.kernel host.kernelStop).result with
  | error failure =>
      rw [kernelResult] at kernel
      simp only [kernelResult]
      exact .kernelFails _ _ kernel
  | ok written =>
      rw [kernelResult] at kernel
      simp only [kernelResult]
      cases hasDebugInfo : binary.hasDebugInfo with
      | false =>
          simp only [Bool.false_eq_true, if_false]
          exact .kernelOnly (DeviceBinary.hasDebugInfo_eq_false_iff.mp hasDebugInfo) _ _ kernel
      | true =>
          simp only [if_true]
          have debugInfo := writeFile_writes
            (writeFile host.files (kernelPath options) binary.kernel host.kernelStop).files
            (debugInfoPath options) binary.debugInfo host.debugInfoStop
          rw [isOk_map]
          exact .both (DeviceBinary.hasDebugInfo_iff.mp hasDebugInfo) _ _ kernel _ _ _ debugInfo

/-! ### The whole program -/

/-- **What a translation does to the files.** Without a binary to write every file is as
before. Otherwise the files are those that writing the binary leaves, up to the first file
that cannot be made or whose writing breaks off; the exit status is 0 exactly if nothing is
left unwritten. Where it is not 0, standard output has nothing but what was written to paths
that lead to it. -/
theorem translation_updates_files (host : Host) (arguments : List Bytes) (verbose : Bool)
    (options : TranslateOptions)
    (accepted : CommandLine.read arguments = .ok ⟨verbose, .translate options⟩) :
    let outcome := Program.run host arguments
    (outcome.exitStatus = 0 ∨ outcome.exitStatus = 1) ∧
    (host.LacksBinary options ∨ ∃ binary, host.Compiles options binary) ∧
    (host.LacksBinary options →
      outcome.files = host.files ∧ (outcome.exitStatus ≠ 0 → outcome.standardOutput = []) ∧
        (options.dryRun = false → outcome.exitStatus = 1)) ∧
    ∀ binary, host.Compiles options binary →
      ∃ sent whole, BinaryWrites host options binary outcome.files sent whole ∧
        (whole = true →
          outcome.exitStatus = 0 ∧
            ∃ text, outcome.standardOutput = sent.output ++ Text.Utf8.encode text) ∧
        (whole = false → outcome.exitStatus = 1 ∧ outcome.standardOutput = sent.output) := by
  intro outcome
  let commandLine : CommandLine := ⟨verbose, .translate options⟩
  have isRun : outcome = Program.runJob host commandLine := Program.run_of_read accepted
  have files : outcome.files = (Program.perform host (.translate options)).files := by
    rw [isRun]
    exact Program.runJob_files host commandLine
  obtain ⟨statuses, silence⟩ := Program.runJob_exitStatus host commandLine
  rw [← isRun] at statuses silence
  refine ⟨statuses, host.lacksBinary_or_compiles options, ?_, ?_⟩
  · intro lacks
    obtain ⟨unchanged, unsent, failed⟩ := perform_of_lacksBinary lacks
    refine ⟨files.trans unchanged, fun nonzero => ?_, fun wet => ?_⟩
    · rw [silence nonzero]
      exact congrArg Streams.output unsent
    · obtain ⟨failure, result⟩ := failed wet
      rw [isRun]
      exact (Program.runJob_of_error commandLine result).1
  · intro binary compiles
    obtain ⟨filesWritten, sent, result⟩ := perform_of_compiles compiles
    have writes := writeBinary_writes host options binary
    rw [← filesWritten, ← files, ← sent] at writes
    cases written : (writeBinary host options binary).result with
    | error failure =>
        rw [written] at result writes
        refine ⟨_, _, writes, nofun, fun _ => ?_⟩
        rw [isRun]
        exact Program.runJob_of_error commandLine result
    | ok reported =>
        rw [written] at result writes
        refine ⟨_, _, writes, fun _ => ?_, nofun⟩
        obtain ⟨status, output⟩ := Program.runJob_of_ok commandLine result
        rw [isRun]
        exact ⟨status, _, output⟩

/-- A storage with space for one byte only: the file holds this byte, and the exit status is
1. -/
theorem translation_updates_files_cut_short :
    let host : Host := { deviceHost with kernelStop := some ⟨1, .noSpace⟩ }
    CommandLine.read (argumentsTo "k.gen") = .ok ⟨false, .translate (optionsTo "k.gen")⟩ ∧
      host.Compiles (optionsTo "k.gen") ⟨[1, 2], []⟩ ∧
      (Program.run host (argumentsTo "k.gen")).exitStatus = 1 ∧
      (Program.run host (argumentsTo "k.gen")).standardOutput = [] ∧
      (Program.run host (argumentsTo "k.gen")).files.read (Path.ofText "k.gen") = .ok [1] := by
  intro host
  have accepted : CommandLine.read (argumentsTo "k.gen") =
      .ok ⟨false, .translate (optionsTo "k.gen")⟩ := rfl
  have compiles : host.Compiles (optionsTo "k.gen") ⟨[1, 2], []⟩ :=
    ⟨.initial, [3], rfl, rfl, rfl, rfl⟩
  have noDevice : host.files.deviceAt (Path.ofText "k.gen") = none := rfl
  have breaksHere : FileTree.breakOff none host.kernelStop [1, 2] = some ⟨1, .noSpace⟩ := rfl
  obtain ⟨-, -, -, written⟩ :=
    translation_updates_files host (argumentsTo "k.gen") false (optionsTo "k.gen") accepted
  obtain ⟨sent, whole, writes, -, unfinished⟩ := written _ compiles
  generalize (Program.run host (argumentsTo "k.gen")).files = after at writes ⊢
  have kernelPath_eq : kernelPath (optionsTo "k.gen") = Path.ofText "k.gen" := rfl
  cases writes with
  | kernelFails after sent kernel =>
      rw [kernelPath_eq] at kernel
      obtain ⟨status, output⟩ := unfinished rfl
      cases kernel with
      | refused cause unmade => cases unmade
      | brokenOff made created place breaks short after updated =>
          rw [noDevice, breaksHere] at breaks
          cases breaks
          exact ⟨accepted, compiles, status, output, updated.read_self noDevice⟩
  | kernelOnly noDebugInfo after sent kernel =>
      rw [kernelPath_eq] at kernel
      cases kernel with
      | whole made created unbroken after updated =>
          rw [noDevice, breaksHere] at unbroken
          cases unbroken
  | both someDebugInfo => exact absurd rfl someDebugInfo

/-- Not every output is kept. With the kernel path on the full device, which can be opened, the
exit status is 1; on the device that swallows everything it is 0, and the kernel binary is
nowhere. A file whose storage has no space for it is not as before although the exit status
is 1. And an exit status of 1 leaves a kernel binary on standard output, if its path leads
there and the debug info cannot be written. -/
theorem not_every_output_kept :
    (deviceHost.Compiles (optionsTo "/dev/full") ⟨[1, 2], []⟩ ∧
      (∃ made, deviceHost.files.create (kernelPath (optionsTo "/dev/full")) = .ok made) ∧
      (Program.run deviceHost (argumentsTo "/dev/full")).exitStatus = 1) ∧
    (deviceHost.Compiles (optionsTo "/dev/null") ⟨[1, 2], []⟩ ∧
      (Program.run deviceHost (argumentsTo "/dev/null")).exitStatus = 0 ∧
      (Program.run deviceHost (argumentsTo "/dev/null")).files.read
        (kernelPath (optionsTo "/dev/null")) = .ok []) ∧
    (let host : Host := { deviceHost with kernelStop := some ⟨1, .noSpace⟩ }
     host.Compiles (optionsTo "k.gen") ⟨[1, 2], []⟩ ∧
      (∃ made, host.files.create (kernelPath (optionsTo "k.gen")) = .ok made) ∧
      host.files.read (Path.ofText "k.gen") = .error .notFound ∧
      (Program.run host (argumentsTo "k.gen")).exitStatus = 1 ∧
      (Program.run host (argumentsTo "k.gen")).files.read (Path.ofText "k.gen") = .ok [1]) ∧
    (Program.run pairHost (pairArguments "/dev/stdout" "lost/k.elf")).exitStatus = 1 ∧
    (Program.run pairHost (pairArguments "/dev/stdout" "lost/k.elf")).standardOutput =
      pairBinary.kernel :=
  ⟨⟨⟨.initial, [3], rfl, rfl, rfl, rfl⟩, ⟨_, rfl⟩, rfl⟩,
    ⟨⟨.initial, [3], rfl, rfl, rfl, rfl⟩, rfl, rfl⟩,
    ⟨⟨.initial, [3], rfl, rfl, rfl, rfl⟩, ⟨_, rfl⟩, rfl, rfl, rfl⟩, rfl, rfl⟩

end Translate

end KernelForge
