import KernelForge.Proofs.JsonRoundTrip
import KernelForge.Proofs.SummaryOnDisk
import KernelForge.Proofs.TolerantReading

/-!
Contract: what a reader of the JSON summary gets.

Owns: the value that is read back from the standard output of a translation that was asked
for JSON, member by member.

Paths become texts before they are escaped: what is read back shows a path as the tolerant
reading does, and texts that were given come back as they are, whatever stands in them. The
document stands alone on standard output only if no output of the compiler is written there.

Does not own: what the files hold that a summary speaks of.
-/

namespace KernelForge.Translate

open KernelForge.Text.Utf8 (ShownAs decodeLossy_eq_iff)

/-- The value that a JSON summary is, given what its three paths show as. -/
def summaryValue (options : TranslateOptions) (binary : DeviceBinary)
    (input kernel debugInfo : String) : Json :=
  .object
    [("binary-format", .text options.binaryFormat),
     ("debug-info",
       if binary.debugInfo = [] then .null
       else .object [("path", .text debugInfo), ("size", .integer binary.debugInfo.length)]),
     ("input", .text input),
     ("kernel-binary",
       .object
         [("path", .text kernel), ("sha256", .text (Sha256.hexDigest binary.kernel)),
          ("size", .integer binary.kernel.length)]),
     ("platform", .text options.platform)]

theorem summary_json (options : TranslateOptions) (binary : DeviceBinary) :
    (summary options binary (reportedPath options binary)).json =
      summaryValue options binary options.input.display (kernelPath options).display
        (debugInfoPath options).display := by
  by_cases noDebugInfo : binary.debugInfo = []
  · rw [reportedPath, if_pos noDebugInfo, summaryValue, if_pos noDebugInfo]
    rfl
  · rw [reportedPath, if_neg noDebugInfo, summaryValue, if_neg noDebugInfo]
    rfl

/-- **A JSON summary is read back exactly.** A translation that runs, succeeds and was asked
for JSON prints one document and a line end, behind the outputs whose paths lead to standard
output. Reading the document gives an object with five members: the texts that were given, the
input as its path shows, the kernel binary with its path, digest and size, and the debug info
with its path and size, or null if there is none. -/
theorem json_summary_read_back (host : Host) (arguments : List Bytes) (verbose : Bool)
    (options : TranslateOptions)
    (accepted : CommandLine.read arguments = .ok ⟨verbose, .translate options⟩)
    (wet : options.dryRun = false) (asJson : options.json = true)
    (succeeded : (Program.run host arguments).exitStatus = 0) :
    let output := (Program.run host arguments).standardOutput
    ∃ binary document input kernel debugInfo,
      host.Compiles options binary ∧
      output = onOutput host options binary ++ Text.Utf8.encode (document ++ "\n") ∧
      (OutputsElsewhere host options binary → output = Text.Utf8.encode (document ++ "\n")) ∧
      ShownAs options.input.bytes input.toList ∧
      ShownAs (kernelPath options).bytes kernel.toList ∧
      ShownAs (debugInfoPath options).bytes debugInfo.toList ∧
      Json.read? document = some (summaryValue options binary input kernel debugInfo) := by
  have isRun : Program.run host arguments = Program.runJob host ⟨verbose, .translate options⟩ :=
    Program.run_of_read accepted
  rw [isRun] at succeeded ⊢
  obtain ⟨binary, sent, compiles, -, printed⟩ := printed_of_succeeded wet succeeded
  rw [report, if_pos asJson] at printed
  refine ⟨binary, (summary options binary (reportedPath options binary)).json.pretty, _, _, _,
    compiles, printed, ?_, decodeLossy_eq_iff.mp rfl, decodeLossy_eq_iff.mp rfl,
    decodeLossy_eq_iff.mp rfl, ?_⟩
  · intro elsewhere
    rw [printed, onOutput_of_elsewhere elsewhere, List.nil_append]
  · rw [Json.read?_pretty, summary_json]
    rfl

/-- A machine whose input has a byte in its name that is no text, and the compiler of a kernel
binary and debug info. -/
def illFormedHost : Host where
  files := ⟨[([[0x6B, 0xFF]], .file [3, 2, 0x23, 7])], []⟩
  environment := []
  loader := pairHost.loader

/-- Options with a binary format that must be escaped. -/
def escapedOptions : TranslateOptions :=
  ⟨"TGLLP", "c\"\\\x01\x7fé", ⟨[0x6B, 0xFF]⟩, "", [], false, none, none, none, false, true⟩

def escapedArguments : List Bytes :=
  ["translate", "--json", "--platform=TGLLP", "--binary-format=c\"\\\x01\x7fé"].map
      Text.Utf8.encode ++
    [Text.Utf8.encode "--input=" ++ [0x6B, 0xFF]]

/-- A quote, a backslash, control characters and a byte that is no text survive. -/
theorem json_summary_read_back_of_escaped :
    CommandLine.read escapedArguments = .ok ⟨false, .translate escapedOptions⟩ ∧
      (Program.run illFormedHost escapedArguments).exitStatus = 0 ∧
      ∃ document, (Program.run illFormedHost escapedArguments).standardOutput =
          Text.Utf8.encode (document ++ "\n") ∧
        Json.read? document = some
          (.object
            [("binary-format", .text "c\"\\\x01\x7fé"),
             ("debug-info", .object [("path", .text "k\uFFFD.dbg"), ("size", .integer 5)]),
             ("input", .text "k\uFFFD"),
             ("kernel-binary",
               .object
                 [("path", .text "k\uFFFD.gen"),
                  ("sha256", .text (Sha256.hexDigest pairBinary.kernel)),
                  ("size", .integer 4)]),
             ("platform", .text "TGLLP")]) := by
  have accepted : CommandLine.read escapedArguments = .ok ⟨false, .translate escapedOptions⟩ := rfl
  have succeeded : (Program.run illFormedHost escapedArguments).exitStatus = 0 := rfl
  have compiled : illFormedHost.Compiles escapedOptions pairBinary :=
    ⟨.initial, [3, 2, 0x23, 7], rfl, rfl, rfl, rfl⟩
  obtain ⟨binary, document, input, kernel, debugInfo, compiles, -, alone, inputShown, kernelShown,
    debugInfoShown, read⟩ := json_summary_read_back illFormedHost escapedArguments false
      escapedOptions accepted rfl rfl succeeded
  obtain rfl := compiles.unique compiled
  obtain rfl : input = "k\uFFFD" := (decodeLossy_eq_iff.mpr inputShown).symm.trans rfl
  obtain rfl : kernel = "k\uFFFD.gen" := (decodeLossy_eq_iff.mpr kernelShown).symm.trans rfl
  obtain rfl : debugInfo = "k\uFFFD.dbg" := (decodeLossy_eq_iff.mpr debugInfoShown).symm.trans rfl
  have elsewhere : OutputsElsewhere illFormedHost escapedOptions pairBinary :=
    ⟨fun _ => nofun, fun _ _ => nofun⟩
  exact ⟨accepted, succeeded, document, alone elsewhere, read⟩

/-- What the kernel binary starts with starts no value. -/
theorem read?_kernel_append (rest : String) : Json.read? ("\x7f\x00\x00E" ++ rest) = none := by
  rw [Json.read?, String.toList_append]
  rfl

/-- Options that ask for JSON, and for the kernel binary on standard output. -/
def streamedOptions : TranslateOptions :=
  { pairOptions "/dev/stdout" "k.elf" with json := true }

def streamedArguments : List Bytes :=
  pairArguments "/dev/stdout" "k.elf" ++ [Text.Utf8.encode "--json"]

/-- With the kernel binary on standard output what stands there is no document. -/
theorem json_summary_behind_kernel :
    CommandLine.read streamedArguments = .ok ⟨false, .translate streamedOptions⟩ ∧
      (Program.run pairHost streamedArguments).exitStatus = 0 ∧
      ∀ document,
        (Program.run pairHost streamedArguments).standardOutput =
          Text.Utf8.encode (document ++ "\n") →
        Json.read? document = none := by
  have succeeded : (Program.runJob pairHost ⟨false, .translate streamedOptions⟩).exitStatus = 0 :=
    rfl
  refine ⟨rfl, succeeded, fun document isDocument => ?_⟩
  obtain ⟨binary, sent, compiles, -, printed⟩ := printed_of_succeeded rfl succeeded
  obtain rfl := compiles.unique (pairHost_compiles "/dev/stdout" "k.elf")
  have inFront : onOutput pairHost streamedOptions pairBinary =
      Text.Utf8.encode "\x7f\x00\x00E" := rfl
  have asJson : streamedOptions.json = true := rfl
  have same := isDocument.symm.trans printed
  rw [inFront, ← Text.Utf8.encode_append, Text.Utf8.encode_inj, report, if_pos asJson,
    ← String.append_assoc, String.append_left_inj] at same
  rw [same]
  exact read?_kernel_append _

end KernelForge.Translate
