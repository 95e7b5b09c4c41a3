import Mathlib.Data.List.Basic
import KernelForge.Proofs.JsonRoundTrip
import KernelForge.Proofs.TranslationStages

/-!
Contract: the sizes and the digest that a summary prints are read out of it.

Owns: a reader for each form of a summary, what such a reader finds, and that it finds the
sizes and the digest of the binary in what a translation prints.

In a summary for people a path stands as it is, and it may hold line ends, brackets and
digits. The reader knows what the translation was asked for, so it expects these texts and
takes what stands between them. It refuses every other text.

Does not own: what the files hold.
-/

namespace KernelForge.Translate

/-- What a summary says of the outputs: the size and the digest of the kernel binary, and the
size of the debug info, if there is any. -/
structure PrintedFacts where
  kernelSize : Nat
  kernelDigest : String
  debugInfoSize : Option Nat
deriving DecidableEq, Repr

namespace PrintedFacts

/-! ### The readers -/

/-- Reads a size behind a text. -/
def sizeBehind? (lead : String) (characters : List Char) : Option (Nat × List Char) :=
  (lead.toList.isPrefixOf? characters).bind Json.readMagnitude

/-- What stands in front of the size of the kernel binary. -/
def kernelLead (options : TranslateOptions) : String :=
  "Translated " ++ options.input.display ++ " for " ++ options.platform ++ "\n" ++
    "  kernel binary: " ++ (kernelPath options).display ++ " ("

/-- What stands in front of the size of the debug info. -/
def debugInfoLead (options : TranslateOptions) : String :=
  "  debug info:    " ++ (debugInfoPath options).display ++ " ("

/-- Reads the line about the debug info. -/
def ofDebugInfoLine? (options : TranslateOptions) (line : List Char) : Option (Option Nat) :=
  if line = "  debug info:    none\n".toList then some none
  else
    match sizeBehind? (debugInfoLead options) line with
    | none => none
    | some (size, rest) => if rest = " bytes)\n".toList then some (some size) else none

/-- Reads a summary for people. -/
def ofText? (options : TranslateOptions) (text : String) : Option PrintedFacts := do
  let (kernelSize, behindSize) ← sizeBehind? (kernelLead options) text.toList
  let digestOn ← " bytes, sha256 ".toList.isPrefixOf? behindSize
  let line ← ")\n".toList.isPrefixOf? (digestOn.dropWhile (· ≠ ')'))
  let debugInfoSize ← ofDebugInfoLine? options line
  some ⟨kernelSize, String.ofList (digestOn.takeWhile (· ≠ ')')), debugInfoSize⟩

def member? (name : String) : Json → Option Json
  | .object members => members.lookup name
  | _ => none

def text? : Json → Option String
  | .text value => some value
  | _ => none

def size? : Json → Option Nat
  | .integer (.ofNat size) => some size
  | _ => none

/-- Reads the size of a file that must be said to be at the path. -/
def ofFile? (path : Path) (file : Json) : Option Nat :=
  if (member? "path" file).bind text? = some path.display then (member? "size" file).bind size?
  else none

/-- Reads a JSON summary. -/
def ofJson? (options : TranslateOptions) (document : Json) : Option PrintedFacts := do
  let kernel ← member? "kernel-binary" document
  let kernelSize ← ofFile? (kernelPath options) kernel
  let kernelDigest ← (member? "sha256" kernel).bind text?
  match ← member? "debug-info" document with
  | .null => some ⟨kernelSize, kernelDigest, none⟩
  | debugInfo =>
      (ofFile? (debugInfoPath options) debugInfo).map fun size =>
        ⟨kernelSize, kernelDigest, some size⟩

/-- Reads what a translation prints when it succeeds. -/
def ofReport? (options : TranslateOptions) (text : String) : Option PrintedFacts :=
  if options.json then (Json.read? text).bind (ofJson? options) else ofText? options text

/-! ### What is read in a written summary -/

/-- The facts about a binary. -/
def ofBinary (binary : DeviceBinary) : PrintedFacts where
  kernelSize := binary.kernel.length
  kernelDigest := Sha256.hexDigest binary.kernel
  debugInfoSize := if binary.debugInfo = [] then none else some binary.debugInfo.length

theorem isPrefixOf?_append (front behind : List Char) :
    front.isPrefixOf? (front ++ behind) = some behind :=
  List.isPrefixOf?_eq_some_iff_append_eq.mpr rfl

/-- A size ends where a blank stands. -/
theorem endsNumber_blank (rest : List Char) : Json.EndsNumber (' ' :: rest) :=
  ⟨rfl, rfl, rfl⟩

theorem sizeBehind?_append (lead : String) (size : Nat) {rest : List Char}
    (ends : Json.EndsNumber rest) :
    sizeBehind? lead (lead.toList ++ ((toString size).toList ++ rest)) = some (size, rest) := by
  have digits : (toString size).toList = Nat.toDigits 10 size := Json.toList_ofNat size
  rw [sizeBehind?, isPrefixOf?_append, Option.bind_some, digits,
    Json.readMagnitude_toDigits size ends]

/-- No digit of a digest ends it. -/
theorem hexDigit_ne_bracket {value : Nat} (small : value < 16) : hexDigit value ≠ ')' := by
  have noBracket : ∀ digit : Fin 16, hexDigit digit.val ≠ ')' := by decide
  exact noBracket ⟨value, small⟩

theorem ne_bracket_of_mem_hexChars (bytes : Bytes) :
    ∀ character ∈ bytes.hexChars, character ≠ ')' := by
  induction bytes with
  | nil => exact fun _ member => nomatch member
  | cons byte rest inductionHypothesis =>
      have below := byte.toNat_lt
      simp only [Bytes.hexChars, List.forall_mem_cons]
      exact ⟨hexDigit_ne_bracket (by omega), hexDigit_ne_bracket (by omega), inductionHypothesis⟩

variable {options : TranslateOptions}

/-- The line without debug info shows no size, so it has no bracket. -/
theorem debugInfoLead_ne_none (options : TranslateOptions) (rest : List Char) :
    (debugInfoLead options).toList ++ rest ≠ "  debug info:    none\n".toList := by
  have someBracket : '(' ∈ (debugInfoLead options).toList := by
    unfold debugInfoLead
    rw [String.toList_append]
    exact List.mem_append_right _ (.tail _ (.head _))
  intro equal
  have member := List.mem_append_left rest someBracket
  rw [equal] at member
  simp at member

theorem ofDebugInfoLine?_size (options : TranslateOptions) (size : Nat) :
    ofDebugInfoLine? options
      ((debugInfoLead options).toList ++ ((toString size).toList ++ " bytes)\n".toList)) =
        some (some size) := by
  have ends : Json.EndsNumber " bytes)\n".toList := endsNumber_blank "bytes)\n".toList
  rw [ofDebugInfoLine?, if_neg (debugInfoLead_ne_none options _), sizeBehind?_append _ _ ends]
  simp only [if_true]

theorem ofDebugInfoLine?_summary (options : TranslateOptions) (binary : DeviceBinary) :
    ofDebugInfoLine? options
      (summary options binary (reportedPath options binary)).debugInfoLine.toList =
        some (ofBinary binary).debugInfoSize := by
  by_cases noDebugInfo : binary.debugInfo = []
  · rw [reportedPath, if_pos noDebugInfo, ofBinary, if_pos noDebugInfo]
    exact if_pos rfl
  · rw [reportedPath, if_neg noDebugInfo, ofBinary, if_neg noDebugInfo,
      ← ofDebugInfoLine?_size options]
    unfold summary Summary.debugInfoLine debugInfoLead
    rw [String.toList_append, String.toList_append, List.append_assoc]

theorem toList_text (summary : Summary) :
    summary.text.toList =
      ("Translated " ++ summary.input.display ++ " for " ++ summary.platform ++ "\n" ++
          "  kernel binary: " ++ summary.kernelPath.display ++ " (").toList ++
        ((toString summary.binary.kernel.length).toList ++ (" bytes, sha256 ".toList ++
          (summary.binary.kernelDigest.toList ++
            (")\n".toList ++ summary.debugInfoLine.toList)))) := by
  unfold Summary.text
  rw [String.toList_append, String.toList_append, String.toList_append, String.toList_append,
    String.toList_append, List.append_assoc, List.append_assoc, List.append_assoc,
    List.append_assoc]

/-- The text reader finds what stands in the gaps. -/
theorem ofText?_of_toList {text digest : String} {size : Nat} {line : List Char}
    {debugInfoSize : Option Nat}
    (parts : text.toList = (kernelLead options).toList ++ ((toString size).toList ++
      (" bytes, sha256 ".toList ++ (digest.toList ++ (")\n".toList ++ line)))))
    (noBracket : ∀ character ∈ digest.toList, decide (character ≠ ')') = true)
    (reads : ofDebugInfoLine? options line = some debugInfoSize) :
    ofText? options text = some ⟨size, digest, debugInfoSize⟩ := by
  have ends : Json.EndsNumber
      (" bytes, sha256 ".toList ++ (digest.toList ++ (")\n".toList ++ line))) :=
    endsNumber_blank ("bytes, sha256 ".toList ++ (digest.toList ++ (")\n".toList ++ line)))
  have taken : (digest.toList ++ (")\n".toList ++ line)).takeWhile (· ≠ ')') =
      digest.toList := by
    have nothing : (")\n".toList ++ line).takeWhile (· ≠ ')') = [] := rfl
    rw [List.takeWhile_append_of_pos noBracket, nothing, List.append_nil]
  have dropped : (digest.toList ++ (")\n".toList ++ line)).dropWhile (· ≠ ')') =
      ")\n".toList ++ line := by
    rw [List.dropWhile_append_of_pos noBracket]
    rfl
  unfold ofText?
  rw [parts, sizeBehind?_append _ _ ends]
  simp only [Option.bind_eq_bind, Option.bind_some, isPrefixOf?_append, taken, dropped, reads,
    String.ofList_toList]

theorem ofText?_text (options : TranslateOptions) (binary : DeviceBinary) :
    ofText? options (summary options binary (reportedPath options binary)).text =
      some (ofBinary binary) := by
  refine ofText?_of_toList (toList_text _) ?_ (ofDebugInfoLine?_summary options binary)
  intro character member
  have inDigest : character ∈ (Sha256.hexDigest binary.kernel).toList := member
  rw [Sha256.hexDigest, Bytes.toHex, String.toList_ofList] at inDigest
  exact decide_eq_true (ne_bracket_of_mem_hexChars _ character inDigest)

theorem ofFile?_kernelJson (options : TranslateOptions) (binary : DeviceBinary)
    (debugInfo : Option Path) :
    ofFile? (kernelPath options) (summary options binary debugInfo).kernelJson =
      some binary.kernel.length :=
  if_pos rfl

theorem ofFile?_debugInfoJson (options : TranslateOptions) (binary : DeviceBinary) :
    ofFile? (debugInfoPath options)
        (summary options binary (some (debugInfoPath options))).debugInfoJson =
      some binary.debugInfo.length :=
  if_pos rfl

theorem ofJson?_json (options : TranslateOptions) (binary : DeviceBinary) :
    ofJson? options (summary options binary (reportedPath options binary)).json =
      some (ofBinary binary) := by
  have kernel : member? "kernel-binary"
      (summary options binary (reportedPath options binary)).json =
        some (summary options binary (reportedPath options binary)).kernelJson := rfl
  rw [ofJson?, kernel, Option.bind_eq_bind, Option.bind_some, ofFile?_kernelJson]
  by_cases noDebugInfo : binary.debugInfo = []
  · rw [reportedPath, if_pos noDebugInfo, ofBinary, if_pos noDebugInfo]
    rfl
  · rw [reportedPath, if_neg noDebugInfo, ofBinary, if_neg noDebugInfo]
    exact congrArg (Option.map _) (ofFile?_debugInfoJson options binary)

/-- **What a translation prints of its outputs is read out of its report**, in both forms. -/
theorem ofReport?_report (options : TranslateOptions) (binary : DeviceBinary) :
    ofReport? options (report options (summary options binary (reportedPath options binary))) =
      some (ofBinary binary) := by
  rw [ofReport?, report]
  by_cases asJson : options.json = true
  · rw [if_pos asJson, if_pos asJson, Json.read?_pretty_line, Option.bind_some, ofJson?_json]
  · rw [if_neg asJson, if_neg asJson, ofText?_text]

end PrintedFacts

end KernelForge.Translate
