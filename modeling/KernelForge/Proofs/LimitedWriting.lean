import KernelForge.Proofs.ComposedCommand

/-!
Contract: a writer that fills up holds the first bytes of what is offered to it.

Owns: writers that hold a view of everything offered so far, the unlimited and the limited
writer as two of them, the escaped forms and the echo of a command in such a writer, and
the whole echo as one text.

The invariant is `Writer.Holds`: it speaks of all bytes offered since the beginning, taken
or not, and of no success. So it also carries over a failure that the echo ignores: what
is offered after it lies behind the first bytes, and the view does not change.

Does not own: what else a failed write means; composing a command does not look at it.
-/

namespace KernelForge

namespace Writer

/-- After any offers, successful or not, the state of the writer is the view of all bytes
that were offered. -/
def Holds (writer : Writer Bytes) (view : Bytes → Bytes) : Prop :=
  ∀ offered pieces,
    (writer.acceptAll (view offered) pieces).1 = view (offered ++ pieces.flatten)

theorem holds_unlimited : unlimited.Holds id := by
  intro offered pieces
  simp only [id, acceptAll_unlimited]

/-! ### The limited writer, piece by piece -/

section Limited

variable (capacity : Nat) (offered piece : Bytes)

theorem accept_limited_fst :
    ((limited capacity).accept (offered.take capacity) piece).1 =
      (offered ++ piece).take capacity := by
  have room : capacity - (offered.take capacity).length = capacity - offered.length := by
    rw [List.length_take]
    omega
  simp only [limited, room, List.take_append]

/-- A piece is taken whole as long as everything so far fits. Once it does not, an empty
piece still is. -/
theorem accept_limited_snd (fits : offered.length ≤ capacity) :
    ((limited capacity).accept (offered.take capacity) piece).2 =
      decide ((offered ++ piece).length ≤ capacity) := by
  simp only [limited, List.take_of_length_le fits, List.length_append]
  apply decide_eq_decide.mpr
  omega

theorem overflows_of_not_accepted
    (refused : ((limited capacity).accept (offered.take capacity) piece).2 = false) :
    capacity < (offered ++ piece).length := by
  simp only [limited, List.length_take, decide_eq_false_iff_not] at refused
  rw [List.length_append]
  omega

end Limited

/-- The induction is on the pieces that follow. At the first one that is refused the first
bytes are complete, so the pieces that are not offered any more would not show. -/
theorem holds_limited (capacity : Nat) : (limited capacity).Holds (List.take capacity) := by
  intro offered pieces
  induction pieces generalizing offered with
  | nil => simp [acceptAll]
  | cons piece rest inductionHypothesis =>
      have kept := accept_limited_fst capacity offered piece
      have overflows := overflows_of_not_accepted capacity offered piece
      rw [acceptAll, List.flatten_cons, ← List.append_assoc]
      cases accepted : (limited capacity).accept (offered.take capacity) piece with
      | mk next taken =>
          rw [accepted] at kept overflows
          cases taken with
          | true =>
              simp only at kept ⊢
              rw [kept]
              exact inductionHypothesis (offered ++ piece)
          | false =>
              have full : capacity ≤ (offered ++ piece).length := Nat.le_of_lt (overflows rfl)
              rw [List.take_append_of_le_length full]
              exact kept

/-- All pieces are taken whole exactly if all bytes fit. -/
theorem acceptAll_limited_snd (capacity : Nat) {offered : Bytes}
    (fits : offered.length ≤ capacity) (pieces : List Bytes) :
    ((limited capacity).acceptAll (offered.take capacity) pieces).2 =
      decide ((offered ++ pieces.flatten).length ≤ capacity) := by
  induction pieces generalizing offered with
  | nil => simp [acceptAll, fits]
  | cons piece rest inductionHypothesis =>
      have kept := accept_limited_fst capacity offered piece
      have taken := accept_limited_snd capacity offered piece fits
      rw [acceptAll, List.flatten_cons, ← List.append_assoc]
      by_cases pieceFits : (offered ++ piece).length ≤ capacity
      · have accepted : (limited capacity).accept (offered.take capacity) piece =
            ((offered ++ piece).take capacity, true) :=
          Prod.ext kept (taken.trans (decide_eq_true pieceFits))
        rw [accepted]
        exact inductionHypothesis pieceFits
      · have refused : (limited capacity).accept (offered.take capacity) piece =
            ((offered ++ piece).take capacity, false) :=
          Prod.ext kept (taken.trans (decide_eq_false pieceFits))
        rw [refused]
        apply Eq.symm
        apply decide_eq_false
        rw [List.length_append]
        omega

theorem acceptAll_limited (capacity : Nat) (pieces : List Bytes) :
    (limited capacity).acceptAll [] pieces =
      (pieces.flatten.take capacity, decide (pieces.flatten.length ≤ capacity)) := by
  have start : ([] : Bytes) = List.take capacity [] := List.take_nil.symm
  apply Prod.ext
  · rw [start]
    exact holds_limited capacity [] pieces
  · rw [start]
    have fits : ([] : Bytes).length ≤ capacity := Nat.zero_le capacity
    exact acceptAll_limited_snd capacity fits pieces

end Writer

/-! ### Lines in a writer that holds a view -/

namespace Echo

/-- A label and a value on one line. -/
def labelledLine (label value : String) : String :=
  label ++ ": " ++ value ++ "\n"

/-- A label and an escaped argument list on one line. -/
def labelledArguments (label : String) (arguments : List String) : String :=
  label ++ ": " ++ escapedLine '"' arguments

section Views

variable {writer : Writer Bytes} {view : Bytes → Bytes} (holds : writer.Holds view)
include holds

theorem echoLine_of_holds (offered : Bytes) (label value : String) :
    echoLine writer (view offered) label value =
      view (offered ++ Text.Utf8.encode (labelledLine label value)) := by
  rw [echoLine, holds]
  simp [labelledLine, Text.Utf8.encode_append]

theorem echoArguments_of_holds (offered : Bytes) (label : String) (arguments : List String) :
    echoArguments writer (view offered) label arguments =
      view (offered ++ Text.Utf8.encode (labelledArguments label arguments)) := by
  simp only [echoArguments, writeEscapedLine]
  rw [holds, holds, linePieces_flatten]
  simp [labelledArguments, Text.Utf8.encode_append]

end Views

/-! ### Escaped forms under a limit -/

/-- One escaped argument is one piece. -/
theorem writeEscaped_eq_acceptAll {σ : Type} (writer : Writer σ) (state : σ) (quote : Char)
    (argument : String) :
    writeEscaped writer state quote argument =
      writer.acceptAll state [Text.Utf8.encode (escaped quote argument)] := by
  simp only [writeEscaped, Writer.acceptAll]
  cases writer.accept state (Text.Utf8.encode (escaped quote argument)) with
  | mk next taken => cases taken <;> rfl

theorem writeEscaped_unlimited (quote : Char) (argument : String) :
    writeEscaped .unlimited [] quote argument =
      (Text.Utf8.encode (escaped quote argument), true) := by
  rw [writeEscaped_eq_acceptAll, Writer.acceptAll_unlimited, List.flatten_singleton,
    List.nil_append]

theorem writeEscaped_limited (capacity : Nat) (quote : Char) (argument : String) :
    writeEscaped (.limited capacity) [] quote argument =
      ((Text.Utf8.encode (escaped quote argument)).take capacity,
        decide ((Text.Utf8.encode (escaped quote argument)).length ≤ capacity)) := by
  rw [writeEscaped_eq_acceptAll, Writer.acceptAll_limited, List.flatten_singleton]

theorem writeEscapedLine_limited (capacity : Nat) (quote : Char) (arguments : List String) :
    writeEscapedLine (.limited capacity) [] quote arguments =
      ((Text.Utf8.encode (escapedLine quote arguments)).take capacity,
        decide ((Text.Utf8.encode (escapedLine quote arguments)).length ≤ capacity)) := by
  rw [writeEscapedLine, Writer.acceptAll_limited, linePieces_flatten]

end Echo

/-! ### The echo of a command -/

namespace Command

/-- What is echoed of a composed command: its arguments. -/
def argumentsEcho : Except Failure Command → String
  | .error _ => ""
  | .ok command => Echo.labelledArguments "oclocInvoke options" command.arguments

/-- The whole echo in debug mode: four labelled lines, then the arguments if the request
can be composed. -/
def echoText (request : Request) (configuration : Configuration) : String :=
  Echo.labelledLine "requested platform for translateIL" request.platform ++
    Echo.labelledLine "requested runtime for translateIL" request.binaryFormat ++
    Echo.labelledLine "IGC Translation Options" (composeOptions configuration) ++
    Echo.labelledLine "IGC Translation Internal"
      (composeInternalOptions configuration request.binaryFormat request.backendOptions
        request.features request.timePasses) ++
    argumentsEcho (compose request configuration)

theorem composeEchoing_of_holds {writer : Writer Bytes} {view : Bytes → Bytes}
    (holds : writer.Holds view) {configuration : Configuration}
    (debug : configuration.debug = true) (offered : Bytes) (request : Request) :
    (composeEchoing writer (view offered) request configuration).1 =
      view (offered ++ Text.Utf8.encode (echoText request configuration)) := by
  simp only [composeEchoing, debug, if_true, Echo.echoLine_of_holds holds,
    Echo.echoArguments_of_holds holds, echoText, compose, Text.Utf8.encode_append]
  cases Platform.deviceCode request.platform with
  | none => simp [argumentsEcho, Text.Utf8.encode, Text.Utf8.encodeChars]
  | some device => simp [argumentsEcho]

theorem composeEchoing_unlimited {configuration : Configuration}
    (debug : configuration.debug = true) (request : Request) :
    composeEchoing .unlimited [] request configuration =
      (Text.Utf8.encode (echoText request configuration), compose request configuration) := by
  have echoed := composeEchoing_of_holds Writer.holds_unlimited debug [] request
  simp only [id, List.nil_append] at echoed
  rw [← echoed, ← composeEchoing_snd .unlimited [] request configuration]

theorem composeEchoing_limited (capacity : Nat) {configuration : Configuration}
    (debug : configuration.debug = true) (request : Request) :
    composeEchoing (.limited capacity) [] request configuration =
      ((Text.Utf8.encode (echoText request configuration)).take capacity,
        compose request configuration) := by
  have echoed := composeEchoing_of_holds (Writer.holds_limited capacity) debug [] request
  rw [List.take_nil, List.nil_append] at echoed
  rw [← echoed, ← composeEchoing_snd (.limited capacity) [] request configuration]

/-- **A writer that fills up sees a prefix.** With any limit, an escaped argument and an
escaped line are written whole exactly if they fit; the echo of a request in debug mode does
not say whether it fits. What is left in the writer are in each case the first bytes of what
an unlimited writer is left with, as many as fit. The echo of the arguments belongs to it
exactly if the platform is known. -/
theorem limited_writing_leaves_first_bytes (limit : Nat) :
    (∀ quote argument,
      let whole := Text.Utf8.encode (Echo.escaped quote argument)
      Echo.writeEscaped .unlimited [] quote argument = (whole, true) ∧
      Echo.writeEscaped (.limited limit) [] quote argument =
        (whole.take (min limit whole.length), decide (whole.length ≤ limit))) ∧
    (∀ quote arguments,
      let whole := Text.Utf8.encode (Echo.escapedLine quote arguments)
      Echo.writeEscapedLine .unlimited [] quote arguments = (whole, true) ∧
      Echo.writeEscapedLine (.limited limit) [] quote arguments =
        (whole.take (min limit whole.length), decide (whole.length ≤ limit))) ∧
    (∀ request configuration, configuration.debug = true →
      let whole := Text.Utf8.encode (echoText request configuration)
      composeEchoing .unlimited [] request configuration =
        (whole, compose request configuration) ∧
      composeEchoing (.limited limit) [] request configuration =
        (whole.take (min limit whole.length), compose request configuration)) ∧
    (∀ request configuration,
      (∃ command, compose request configuration = .ok command) ↔
        ∃ platform ∈ supportedPlatforms, platform.id = request.platform) := by
  refine ⟨?_, ?_, ?_, exists_compose_iff⟩
  · intro quote argument whole
    rw [← List.take_eq_take_min]
    exact ⟨Echo.writeEscaped_unlimited quote argument,
      Echo.writeEscaped_limited limit quote argument⟩
  · intro quote arguments whole
    have unlimited := Echo.writeEscapedLine_unlimited [] quote arguments
    rw [List.nil_append] at unlimited
    rw [← List.take_eq_take_min]
    exact ⟨unlimited, Echo.writeEscapedLine_limited limit quote arguments⟩
  · intro request configuration debug whole
    rw [← List.take_eq_take_min]
    exact ⟨composeEchoing_unlimited debug request, composeEchoing_limited limit debug request⟩

/-- The first line is cut inside a character of two bytes, and the platform is unknown. -/
theorem limited_writing_leaves_first_bytes_of_cut_character :
    let request : Request := ⟨"é", "cm", "", [], false⟩
    let configuration : Configuration := ⟨none, none, none, true⟩
    configuration.debug = true ∧
      composeEchoing (.limited 37) [] request configuration =
        (Text.Utf8.encode "requested platform for translateIL: " ++ [0xC3],
          .error (.contractViolation (.unmappedPlatform "é"))) := by
  intro request configuration
  have debug : configuration.debug = true := rfl
  have left := ((limited_writing_leaves_first_bytes 37).2.2.1 request configuration debug).2
  have inFirstLine : 37 ≤ (Text.Utf8.encode
      (Echo.labelledLine "requested platform for translateIL" "é")).length := by decide +kernel
  have cut : (Text.Utf8.encode (echoText request configuration)).take 37 =
      Text.Utf8.encode "requested platform for translateIL: " ++ [0xC3] := by
    rw [echoText, String.append_assoc, String.append_assoc, String.append_assoc,
      Text.Utf8.encode_append, List.take_append_of_le_length inFirstLine]
    decide +kernel
  rw [← List.take_eq_take_min, cut] at left
  exact ⟨debug, left⟩

end Command

end KernelForge
