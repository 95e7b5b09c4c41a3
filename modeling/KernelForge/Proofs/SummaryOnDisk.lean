import KernelForge.Proofs.CompilationStages
import KernelForge.Proofs.DryRun
import KernelForge.Proofs.PrintedFacts
import KernelForge.Proofs.TranslationFiles

/-!
Contract: what a translation that succeeds prints, compared with the files afterwards.

Owns: what such a translation puts on standard output, what any path reads as afterwards, and
the printed sizes and the printed digest beside what the three paths hold.

The summary is made from the binary and not from the files, and nothing keeps its paths
apart: a file that two of them name holds what was written to it last, and a device keeps
nothing. Where neither is the case, the files are as the summary says. An output whose path
leads to standard output stands there in front of the summary.

Does not own: when a translation succeeds.
-/

namespace KernelForge.Translate

open FileTree (sends)

/-! ### What goes to standard output -/

section Output

variable {host : Host} {options : TranslateOptions} {binary : DeviceBinary}

/-- What a device binary that is written whole puts on standard output. -/
def onOutput (host : Host) (options : TranslateOptions) (binary : DeviceBinary) : Bytes :=
  (sends (host.files.deviceAt (kernelPath options)) binary.kernel).output ++
    (sends (host.files.deviceAt (debugInfoPath options)) binary.debugInfo).output

/-- No output of the compiler is written to standard output. -/
structure OutputsElsewhere (host : Host) (options : TranslateOptions) (binary : DeviceBinary) :
    Prop where
  kernel : ∀ typed, host.files.deviceAt (kernelPath options) ≠ some (.stream .output typed)
  debugInfo : binary.debugInfo ≠ [] →
    ∀ typed, host.files.deviceAt (debugInfoPath options) ≠ some (.stream .output typed)

theorem sends_nil (device : Option Device) : (sends device []).output = [] := by
  unfold sends
  split
  · next which typed => cases which <;> rfl
  all_goals rfl

theorem sends_elsewhere {device : Option Device}
    (elsewhere : ∀ typed, device ≠ some (.stream .output typed)) (data : Bytes) :
    (sends device data).output = [] := by
  unfold sends
  split
  · next which typed =>
      cases which with
      | output => exact absurd rfl (elsewhere typed)
      | errors => rfl
  all_goals rfl

theorem onOutput_of_elsewhere (elsewhere : OutputsElsewhere host options binary) :
    onOutput host options binary = [] := by
  rw [onOutput, sends_elsewhere elsewhere.kernel, List.nil_append]
  by_cases noDebugInfo : binary.debugInfo = []
  · rw [noDebugInfo, sends_nil]
  · exact sends_elsewhere (elsewhere.debugInfo noDebugInfo) _

end Output

/-! ### After the whole binary was written -/

namespace BinaryWrites

variable {host : Host} {options : TranslateOptions} {binary : DeviceBinary} {after : FileTree}
  {sent : Streams}

theorem sent_output (written : BinaryWrites host options binary after sent true) :
    sent.output = onOutput host options binary := by
  cases written with
  | kernelOnly noDebugInfo after sent kernel =>
      rw [kernel.of_whole.2, onOutput, noDebugInfo, sends_nil, List.append_nil]
  | both someDebugInfo afterKernel kernelSent kernel after debugInfoSent whole debugInfo =>
      obtain ⟨kernelUpdated, kernelSends⟩ := kernel.of_whole
      rw [Streams.output_append, kernelSends, debugInfo.of_whole.2, kernelUpdated.deviceAt_eq,
        onOutput]

/-- The kernel binary arrives first, and the debug info, if there is any, behind it. -/
theorem updated (written : BinaryWrites host options binary after sent true) :
    ∃ afterKernel, host.files.Updated (kernelPath options) binary.kernel afterKernel ∧
      (binary.debugInfo = [] ∧ after = afterKernel ∨
        binary.debugInfo ≠ [] ∧
          afterKernel.Updated (debugInfoPath options) binary.debugInfo after) := by
  cases written with
  | kernelOnly noDebugInfo after sent kernel =>
      exact ⟨after, kernel.of_whole.1, .inl ⟨noDebugInfo, rfl⟩⟩
  | both someDebugInfo afterKernel kernelSent kernel after debugInfoSent whole debugInfo =>
      exact ⟨afterKernel, kernel.of_whole.1, .inr ⟨someDebugInfo, debugInfo.of_whole.1⟩⟩

/-- The debug info is written last, so it is what a path to its file reads as. -/
theorem read_of_overwrites (written : BinaryWrites host options binary after sent true)
    (someDebugInfo : binary.debugInfo ≠ []) {other : Path}
    (overwrites : host.files.Overwrites (debugInfoPath options) other) :
    after.read other = .ok binary.debugInfo := by
  obtain ⟨afterKernel, kernelUpdated, ⟨noDebugInfo, -⟩ | ⟨-, debugUpdated⟩⟩ := written.updated
  · exact absurd noDebugInfo someDebugInfo
  · exact debugUpdated.read_of_overwrites ((kernelUpdated.overwrites_iff _ _).mpr overwrites)

theorem read_debugInfoPath (written : BinaryWrites host options binary after sent true)
    (someDebugInfo : binary.debugInfo ≠ [])
    (noDevice : host.files.deviceAt (debugInfoPath options) = none) :
    after.read (debugInfoPath options) = .ok binary.debugInfo := by
  obtain ⟨afterKernel, kernelUpdated, ⟨noDebugInfo, -⟩ | ⟨-, debugUpdated⟩⟩ := written.updated
  · exact absurd noDebugInfo someDebugInfo
  · exact debugUpdated.read_self ((kernelUpdated.deviceAt_eq _).trans noDevice)

/-- What a path reads as behind the kernel binary stays unless the debug info is written to
its file. -/
theorem read_of_afterKernel (written : BinaryWrites host options binary after sent true)
    {other : Path}
    (apart : binary.debugInfo ≠ [] → ¬ host.files.Overwrites (debugInfoPath options) other)
    {content : Bytes}
    (readable : ∀ afterKernel,
      host.files.Updated (kernelPath options) binary.kernel afterKernel →
        afterKernel.read other = .ok content) :
    after.read other = .ok content := by
  obtain ⟨afterKernel, kernelUpdated, ⟨-, rfl⟩ | ⟨someDebugInfo, debugUpdated⟩⟩ := written.updated
  · exact readable after kernelUpdated
  · exact debugUpdated.read_other (readable afterKernel kernelUpdated)
      (mt (kernelUpdated.overwrites_iff _ _).mp (apart someDebugInfo))

end BinaryWrites

/-! ### A translation that succeeds -/

section Success

variable {host : Host} {options : TranslateOptions} {binary : DeviceBinary}

/-- A translation that runs and succeeds has a binary and wrote the whole of it, and it prints
its report behind what it wrote to standard output. -/
theorem printed_of_succeeded {verbose : Bool} (wet : options.dryRun = false)
    (succeeded : (Program.runJob host ⟨verbose, .translate options⟩).exitStatus = 0) :
    ∃ binary sent, host.Compiles options binary ∧
      BinaryWrites host options binary
        (Program.runJob host ⟨verbose, .translate options⟩).files sent true ∧
      (Program.runJob host ⟨verbose, .translate options⟩).standardOutput =
        onOutput host options binary ++ Text.Utf8.encode
          (report options (summary options binary (reportedPath options binary))) := by
  cases result : (Program.perform host (.translate options)).result with
  | error failure =>
      have failed := (Program.runJob_of_error ⟨verbose, .translate options⟩ result).1
      cases failed.symm.trans succeeded
  | ok text =>
      have output := (Program.runJob_of_ok ⟨verbose, .translate options⟩ result).2
      rw [Program.runJob_files, output]
      rcases host.lacksBinary_or_compiles options with lacks | ⟨binary, compiles⟩
      · obtain ⟨failure, failed⟩ := (perform_of_lacksBinary lacks).2.2 wet
        cases failed.symm.trans result
      · obtain ⟨files, sent, mapped⟩ := perform_of_compiles compiles
        have writes := writeBinary_writes host options binary
        rw [result] at mapped
        rw [files, sent]
        have ends := writeBinary_ends host options binary
        generalize (writeBinary host options binary).result = written at ends mapped writes
        cases ends with
        | failed failure ofWriting => cases mapped
        | written =>
            have isReport := Except.ok.inj mapped
            exact ⟨binary, _, compiles, writes, by rw [writes.sent_output, isReport]⟩

/-- A translation that has a binary called the compiler, and with its input. -/
theorem calls_of_compiles (compiles : host.Compiles options binary) {ir : Bytes}
    (input : host.files.read options.input = .ok ir) :
    (∃ call reply, .invoke call reply ∈ (Program.perform host (.translate options)).calls) ∧
      ∀ call reply, .invoke call reply ∈ (Program.perform host (.translate options)).calls →
        call.sources.map SourceBuffer.data = [ir] := by
  obtain ⟨configuration, otherIr, loaded, otherInput, wet, compiled⟩ := compiles
  obtain rfl : otherIr = ir := Except.ok.inj (otherInput.symm.trans input)
  rw [perform_wet loaded input wet]
  constructor
  · have outcome :=
      outcome_compileIR .unlimited [] host.loader (request options) configuration otherIr
    rw [compiled] at outcome
    cases outcome with
    | compiled command image loads passable => exact invoke_mem_of_passable loads passable
  · intro call reply called
    obtain ⟨command, -, -, rfl⟩ := invoke_mem_compileIR called
    rfl

/-- **What a summary says about the files.** A translation that runs and succeeds was given
the input, and prints the summary of the binary that the compiler made of it, behind the
outputs whose paths lead to standard output. The sizes and the digest in that summary are
those of the binary. Afterwards the kernel path reads as the kernel binary, so it has the size
and the digest that were read in the summary, unless it leads to a device or the debug info
was written to its file; the debug path reads as the debug info, if there is any and it leads
to no device; and the input reads as before unless one of the two was written to its file. A
file that several of the paths name holds what was written to it last. -/
theorem summary_matches_files (host : Host) (arguments : List Bytes) (verbose : Bool)
    (options : TranslateOptions)
    (accepted : CommandLine.read arguments = .ok ⟨verbose, .translate options⟩)
    (wet : options.dryRun = false) (succeeded : (Program.run host arguments).exitStatus = 0) :
    let outcome := Program.run host arguments
    ∃ ir binary text printed,
      host.files.read options.input = .ok ir ∧
      (∃ call reply, .invoke call reply ∈ outcome.calls) ∧
      (∀ call reply, .invoke call reply ∈ outcome.calls →
        call.sources.map SourceBuffer.data = [ir]) ∧
      host.Compiles options binary ∧
      -- what is printed
      outcome.standardOutput = onOutput host options binary ++ Text.Utf8.encode text ∧
      (OutputsElsewhere host options binary →
        outcome.standardOutput = Text.Utf8.encode text) ∧
      text = report options (summary options binary (reportedPath options binary)) ∧
      PrintedFacts.ofReport? options text = some printed ∧ printed = .ofBinary binary ∧
      -- what the three paths read as
      (host.files.deviceAt (kernelPath options) = none →
        (binary.debugInfo ≠ [] →
          ¬ host.files.Overwrites (debugInfoPath options) (kernelPath options)) →
        ∃ content, outcome.files.read (kernelPath options) = .ok content ∧
          content = binary.kernel ∧ printed.kernelSize = content.length ∧
          printed.kernelDigest = Sha256.hexDigest content) ∧
      (binary.debugInfo ≠ [] → host.files.deviceAt (debugInfoPath options) = none →
        ∃ content, outcome.files.read (debugInfoPath options) = .ok content ∧
          content = binary.debugInfo ∧ printed.debugInfoSize = some content.length) ∧
      (¬ host.files.Overwrites (kernelPath options) options.input →
        (binary.debugInfo ≠ [] →
          ¬ host.files.Overwrites (debugInfoPath options) options.input) →
        outcome.files.read options.input = .ok ir) ∧
      ∀ other,
        (binary.debugInfo ≠ [] → host.files.Overwrites (debugInfoPath options) other →
          outcome.files.read other = .ok binary.debugInfo) ∧
        (host.files.Overwrites (kernelPath options) other →
          (binary.debugInfo ≠ [] → ¬ host.files.Overwrites (debugInfoPath options) other) →
          outcome.files.read other = .ok binary.kernel) := by
  intro outcome
  have isRun : outcome = Program.runJob host ⟨verbose, .translate options⟩ :=
    Program.run_of_read accepted
  obtain ⟨binary, sent, compiles, written, output⟩ :=
    printed_of_succeeded wet ((congrArg Outcome.exitStatus isRun).symm.trans succeeded)
  obtain ⟨configuration, ir, loaded, input, -, compiled⟩ := id compiles
  obtain ⟨invoked, given⟩ := calls_of_compiles compiles input
  rw [← Program.runJob_calls host ⟨verbose, .translate options⟩, ← isRun] at invoked given
  rw [← isRun] at written output
  refine ⟨ir, binary, _, .ofBinary binary, input, invoked, given, compiles, output, ?_, rfl,
    PrintedFacts.ofReport?_report options binary, rfl, ?_, ?_, ?_, fun other => ⟨?_, ?_⟩⟩
  · intro elsewhere
    rw [output, onOutput_of_elsewhere elsewhere, List.nil_append]
  · intro noDevice apart
    refine ⟨binary.kernel, written.read_of_afterKernel apart ?_, rfl, rfl, rfl⟩
    exact fun _ kernelUpdated => kernelUpdated.read_self noDevice
  · intro someDebugInfo noDevice
    refine ⟨binary.debugInfo, written.read_debugInfoPath someDebugInfo noDevice, rfl, ?_⟩
    rw [PrintedFacts.ofBinary, if_neg someDebugInfo]
  · intro kernelApart apart
    exact written.read_of_afterKernel apart fun _ kernelUpdated =>
      kernelUpdated.read_other input kernelApart
  · intro someDebugInfo overwrites
    exact written.read_of_overwrites someDebugInfo overwrites
  · intro overwrites apart
    exact written.read_of_afterKernel apart fun _ kernelUpdated =>
      kernelUpdated.read_of_overwrites overwrites

end Success

/-- The paths of the outputs are no part of the request. -/
theorem pairHost_compiles (output debugInfo : String) :
    pairHost.Compiles (pairOptions output debugInfo) pairBinary := by
  have compiled : (compileIR .unlimited [] pairHost.loader (request (pairOptions "" "")) .initial
      [3, 2, 0x23, 7]).result = .ok pairBinary := rfl
  exact ⟨.initial, [3, 2, 0x23, 7], rfl, rfl, rfl, compiled⟩

/-- With three paths of their own, all three files are as the summary says. -/
theorem summary_matches_files_apart :
    let options := pairOptions "k.bin" "k.elf"
    let outcome := Program.run pairHost (pairArguments "k.bin" "k.elf")
    CommandLine.read (pairArguments "k.bin" "k.elf") = .ok ⟨false, .translate options⟩ ∧
      outcome.exitStatus = 0 ∧
      (∃ text, outcome.standardOutput = Text.Utf8.encode text ∧
        PrintedFacts.ofReport? options text =
          some ⟨4, Sha256.hexDigest pairBinary.kernel, some 5⟩) ∧
      outcome.files.read (Path.ofText "k.bin") = .ok pairBinary.kernel ∧
      outcome.files.read (Path.ofText "k.elf") = .ok pairBinary.debugInfo ∧
      outcome.files.read (Path.ofText "k.spv") = .ok [3, 2, 0x23, 7] := by
  intro options outcome
  have accepted : CommandLine.read (pairArguments "k.bin" "k.elf") =
      .ok ⟨false, .translate options⟩ := rfl
  have succeeded : outcome.exitStatus = 0 := rfl
  have input : pairHost.files.locate options.input = .ok [Text.Utf8.encode "k.spv"] := rfl
  have kernel : pairHost.files.locate (kernelPath options) = .ok [Text.Utf8.encode "k.bin"] := rfl
  have debugInfo : pairHost.files.locate (debugInfoPath options) =
      .ok [Text.Utf8.encode "k.elf"] := rfl
  obtain ⟨ir, binary, text, printed, read, -, -, compiles, -, alone, -, printedIs, rfl,
    kernelRead, debugInfoRead, inputRead, -⟩ :=
      summary_matches_files pairHost _ false options accepted rfl succeeded
  obtain rfl := compiles.unique (pairHost_compiles "k.bin" "k.elf")
  obtain rfl : ir = [3, 2, 0x23, 7] := Except.ok.inj (read.symm.trans rfl)
  have apart : ∀ other location, pairHost.files.locate other = .ok location →
      location ≠ [Text.Utf8.encode "k.elf"] →
      ¬ pairHost.files.Overwrites (debugInfoPath options) other := by
    intro other location named different
    exact FileTree.not_overwrites debugInfo named different.symm
  have elsewhere : OutputsElsewhere pairHost options pairBinary :=
    ⟨fun _ => nofun, fun _ _ => nofun⟩
  obtain ⟨content, isRead, rfl, -, -⟩ :=
    kernelRead rfl fun _ => apart _ _ kernel (by decide)
  obtain ⟨debugContent, debugIsRead, rfl, -⟩ := debugInfoRead (by decide) rfl
  refine ⟨accepted, succeeded, ⟨text, alone elsewhere, printedIs⟩, isRead, debugIsRead, ?_⟩
  exact inputRead (FileTree.not_overwrites kernel input (by decide))
    fun _ => apart _ _ input (by decide)

/-- With one path for both outputs the summary shows four bytes for a file that holds five;
with the input's path for the kernel binary the input is gone; and a device that is said to
hold the kernel binary holds nothing. -/
theorem summary_misses_shared_files :
    pairHost.Compiles (pairOptions "k.bin" "k.bin") pairBinary ∧
      (Program.run pairHost (pairArguments "k.bin" "k.bin")).exitStatus = 0 ∧
      (∃ text printed,
        (Program.run pairHost (pairArguments "k.bin" "k.bin")).standardOutput =
          Text.Utf8.encode text ∧
        PrintedFacts.ofReport? (pairOptions "k.bin" "k.bin") text = some printed ∧
        printed.kernelSize = 4) ∧
      (Program.run pairHost (pairArguments "k.bin" "k.bin")).files.read (Path.ofText "k.bin") =
        .ok [1, 2, 3, 4, 5] ∧
      (Program.run pairHost (pairArguments "k.spv" "k.elf")).exitStatus = 0 ∧
      pairHost.files.read (Path.ofText "k.spv") = .ok [3, 2, 0x23, 7] ∧
      (Program.run pairHost (pairArguments "k.spv" "k.elf")).files.read (Path.ofText "k.spv") =
        .ok pairBinary.kernel ∧
      (Program.run pairHost (pairArguments "/dev/null" "k.elf")).exitStatus = 0 ∧
      (Program.run pairHost (pairArguments "/dev/null" "k.elf")).files.read
        (Path.ofText "/dev/null") = .ok [] := by
  have compiles := pairHost_compiles "k.bin" "k.bin"
  have elsewhere : OutputsElsewhere pairHost (pairOptions "k.bin" "k.bin") pairBinary :=
    ⟨fun _ => nofun, fun _ _ => nofun⟩
  have succeeded : (Program.runJob pairHost
      ⟨false, .translate (pairOptions "k.bin" "k.bin")⟩).exitStatus = 0 := rfl
  obtain ⟨binary, sent, otherCompiles, -, output⟩ := printed_of_succeeded rfl succeeded
  obtain rfl := otherCompiles.unique compiles
  rw [onOutput_of_elsewhere elsewhere, List.nil_append] at output
  exact ⟨compiles, rfl, ⟨_, _, output, PrintedFacts.ofReport?_report _ _, rfl⟩, rfl, rfl, rfl,
    rfl, rfl, rfl⟩

end KernelForge.Translate
