import KernelForge.Proofs.ComposedCommand
import KernelForge.Proofs.OutputReading
import KernelForge.Proofs.SessionCalls

/-!
Contract: the complete outcome of a run of a command.

Owns: the six outcomes of a run in their order of precedence, and that a run has exactly
the first one that applies.

`RunOutcome` is stated over positions of the arrays and says in each case what keeps the
earlier ones from applying, so at most one case fits. What the compiler promises of a
successful call is a hypothesis; of a failing one nothing is assumed.

Does not own: the calls and the records of a run.
-/

namespace KernelForge

/-- The bytes that are taken for debug info: those of the first entry that is named so,
or none. -/
def OutParameters.DebugInfo (outputs : OutParameters) (debugInfo : Bytes) : Prop :=
  (∃ entry, outputs.First OutputEntry.isDebugInfo entry ∧ debugInfo = entry.content) ∨
    (outputs.HasNo OutputEntry.isDebugInfo ∧ debugInfo = [])

/-- The outcome of a run, from its arguments, the status of `oclocInvoke`, what that left
in the out-parameters, and the status that `oclocFreeOutput` would give for them. -/
inductive RunOutcome (arguments : List String) (status : Int) (outputs : OutParameters)
    (freeStatus : Int) : Except Failure DeviceBinary → Prop
  | zeroInArgument (before : List String) (argument : String) (after : List String)
      (position : arguments = before ++ argument :: after)
      (holdsZero : Session.HoldsZero argument)
      (earlier : ∀ other ∈ before, ¬ Session.HoldsZero other) :
      RunOutcome arguments status outputs freeStatus
        (.error (.contractViolation (.zeroInArgument argument)))
  | invokeFailed
      (passable : ∀ argument ∈ arguments, ¬ Session.HoldsZero argument)
      (failed : status ≠ 0) :
      RunOutcome arguments status outputs freeStatus (.error (.foreignCallFailed .invoke status))
  | missingData
      (passable : ∀ argument ∈ arguments, ¬ Session.HoldsZero argument)
      (succeeded : status = 0)
      (entry : OutputEntry) (lacking : outputs.First OutputEntry.lacksData entry) :
      RunOutcome arguments status outputs freeStatus
        (.error (.contractViolation (.missingData entry.nameBytes entry.length)))
  | missingKernel
      (passable : ∀ argument ∈ arguments, ¬ Session.HoldsZero argument)
      (succeeded : status = 0)
      (complete : outputs.HasNo OutputEntry.lacksData)
      (noKernel : outputs.HasNo OutputEntry.isKernel) :
      RunOutcome arguments status outputs freeStatus
        (.error (.contractViolation (.missingKernel outputs.consideredCount)))
  | releaseFailed
      (passable : ∀ argument ∈ arguments, ¬ Session.HoldsZero argument)
      (succeeded : status = 0)
      (complete : outputs.HasNo OutputEntry.lacksData)
      (kernel : OutputEntry) (first : outputs.First OutputEntry.isKernel kernel)
      (failed : freeStatus ≠ 0) :
      RunOutcome arguments status outputs freeStatus
        (.error (.foreignCallFailed .freeOutput freeStatus))
  | compiled
      (passable : ∀ argument ∈ arguments, ¬ Session.HoldsZero argument)
      (succeeded : status = 0)
      (complete : outputs.HasNo OutputEntry.lacksData)
      (kernel : OutputEntry) (first : outputs.First OutputEntry.isKernel kernel)
      (debugInfo : Bytes) (debug : outputs.DebugInfo debugInfo)
      (freed : freeStatus = 0) :
      RunOutcome arguments status outputs freeStatus (.ok ⟨kernel.content, debugInfo⟩)

namespace Session

/-! ### Results of the parts of a run -/

theorem debugInfo_iff (outputs : OutParameters) (debugInfo : Bytes) :
    outputs.DebugInfo debugInfo ↔
      debugInfo =
        ((outputs.entries.find? OutputEntry.isDebugInfo).map OutputEntry.content).getD [] := by
  unfold OutParameters.DebugInfo
  simp only [← OutParameters.find?_entries_eq_some_iff,
    ← OutParameters.find?_entries_eq_none_iff]
  cases outputs.entries.find? OutputEntry.isDebugInfo <;> simp

/-- The result of collecting, by the two searches and the status of the release. -/
theorem collect_result (compiler : DeviceCompiler) (outputs : OutParameters) :
    (collect compiler outputs).result =
      match outputs.entries.find? OutputEntry.lacksData with
      | some entry => .error (.contractViolation (.missingData entry.nameBytes entry.length))
      | none =>
          match outputs.entries.find? OutputEntry.isKernel with
          | none => .error (.contractViolation (.missingKernel outputs.entries.length))
          | some kernel =>
              if compiler.free outputs = 0 then
                .ok ⟨kernel.content,
                  ((outputs.entries.find? OutputEntry.isDebugInfo).map
                    OutputEntry.content).getD []⟩
              else .error (.foreignCallFailed .freeOutput (compiler.free outputs)) := by
  have reading := readEntries_result outputs.entries
  cases lacking : outputs.entries.find? OutputEntry.lacksData with
  | some entry =>
      rw [lacking] at reading
      rw [collect_misread reading]
      rfl
  | none =>
      rw [lacking] at reading
      have classified := classify_named outputs.entries
      cases kernel : outputs.entries.find? OutputEntry.isKernel with
      | none =>
          rw [kernel] at classified
          rw [collect_unclassified reading classified]
          rfl
      | some kernel =>
          simp only [kernel] at classified
          rw [collect_classified reading classified]
          rfl

/-- What follows a call has the outcome that the status and the out-parameters fix. -/
theorem conclude_result_iff {arguments : List String}
    (passable : ∀ argument ∈ arguments, ¬ HoldsZero argument) (compiler : DeviceCompiler)
    {status : Int} {outputs : OutParameters} (filled : status = 0 → outputs.Filled)
    (result : Except Failure DeviceBinary) :
    (conclude compiler status outputs).result = result ↔
      RunOutcome arguments status outputs (compiler.free outputs) result := by
  constructor
  · rintro rfl
    by_cases failed : status = 0
    · rw [conclude, if_pos failed, collect_result]
      cases lacking : outputs.entries.find? OutputEntry.lacksData with
      | some entry =>
          exact .missingData passable failed entry
            ((OutParameters.find?_entries_eq_some_iff _ _ _).mp lacking)
      | none =>
          have complete := (OutParameters.find?_entries_eq_none_iff _ _).mp lacking
          cases found : outputs.entries.find? OutputEntry.isKernel with
          | none =>
              have noKernel := (OutParameters.find?_entries_eq_none_iff _ _).mp found
              rw [OutParameters.entries_length (filled failed)]
              exact .missingKernel passable failed complete noKernel
          | some kernel =>
              have first := (OutParameters.find?_entries_eq_some_iff _ _ _).mp found
              by_cases freed : compiler.free outputs = 0
              · simp only [if_pos freed]
                exact .compiled passable failed complete kernel first _
                  ((debugInfo_iff _ _).mpr rfl) freed
              · simp only [if_neg freed]
                exact .releaseFailed passable failed complete kernel first freed
    · rw [conclude, if_neg failed]
      exact .invokeFailed passable failed
  · intro outcome
    cases outcome with
    | zeroInArgument before argument after position holdsZero earlier =>
        exact absurd holdsZero (passable argument (by simp [position]))
    | invokeFailed _ failed =>
        rw [conclude, if_neg failed]
        rfl
    | missingData _ succeeded entry lacking =>
        rw [conclude, if_pos succeeded, collect_result,
          (OutParameters.find?_entries_eq_some_iff _ _ _).mpr lacking]
    | missingKernel _ succeeded complete noKernel =>
        rw [conclude, if_pos succeeded, collect_result,
          (OutParameters.find?_entries_eq_none_iff _ _).mpr complete,
          ← OutParameters.entries_length (filled succeeded)]
        simp only [(OutParameters.find?_entries_eq_none_iff _ _).mpr noKernel]
    | releaseFailed _ succeeded complete kernel first failed =>
        rw [conclude, if_pos succeeded, collect_result,
          (OutParameters.find?_entries_eq_none_iff _ _).mpr complete]
        simp only [(OutParameters.find?_entries_eq_some_iff _ _ _).mpr first, if_neg failed]
    | compiled _ succeeded complete kernel first debugInfo debug freed =>
        rw [conclude, if_pos succeeded, collect_result,
          (OutParameters.find?_entries_eq_none_iff _ _).mpr complete]
        simp only [(OutParameters.find?_entries_eq_some_iff _ _ _).mpr first, if_pos freed]
        rw [(debugInfo_iff _ _).mp debug]

end Session

namespace Command

/-- What `oclocInvoke` answers to a command. -/
def reply (command : Command) (compiler : DeviceCompiler) (ir : Bytes) : InvokeReply :=
  compiler.invoke (Session.invokeCall command.arguments ir)

/-- The out-parameters as `oclocInvoke` leaves them. -/
def leftOutputs (command : Command) (compiler : DeviceCompiler) (ir : Bytes) : OutParameters :=
  (command.reply compiler ir).left (Session.invokeCall command.arguments ir)

/-- **The complete outcome of a run.** A composed command has exactly the outcome that
applies first, whatever the compiler does; a success promises no more than filled
arrays. -/
theorem run_result_iff_outcome {request : Request} {configuration : Configuration}
    {command : Command} (composed : compose request configuration = .ok command)
    (compiler : DeviceCompiler) (ir : Bytes)
    (filled : (command.reply compiler ir).status = 0 → (command.leftOutputs compiler ir).Filled) :
    (∀ result, (command.run compiler ir).result = result ↔
      RunOutcome command.arguments (command.reply compiler ir).status
        (command.leftOutputs compiler ir) (compiler.free (command.leftOutputs compiler ir))
        result) ∧
    (∀ count, (Violation.missingKernel count).detail =
      "gen binary is missing from " ++ toString count ++ " compiler output(s)") := by
  refine ⟨fun result => ?_, fun count => rfl⟩
  have short : command.arguments.length ≤ Session.argumentLimit :=
    Nat.le_trans (compose_arguments_length composed) (by decide)
  have refusal := Session.refusal_of_short short
  cases found : command.arguments.find? fun argument => argument.toList.contains '\x00' with
  | some argument =>
      rw [found] at refusal
      rw [run_refused refusal]
      obtain ⟨before, after, position, holdsZero, earlier⟩ :=
        (Session.find?_zero_eq_some_iff _ _).mp found
      constructor
      · rintro rfl
        exact .zeroInArgument before argument after position holdsZero earlier
      · intro outcome
        cases outcome with
        | zeroInArgument otherBefore other otherAfter otherPosition otherHolds otherEarlier =>
            have foundOther := (Session.find?_zero_eq_some_iff _ _).mpr
              ⟨otherBefore, otherAfter, otherPosition, otherHolds, otherEarlier⟩
            rw [Option.some.inj (found.symm.trans foundOther)]
        | _ passable =>
            exact absurd holdsZero (passable argument (by simp [position]))
  | none =>
      rw [found] at refusal
      have passable := (Session.find?_zero_eq_none_iff _).mp found
      rw [run_result refusal]
      exact Session.conclude_result_iff passable compiler filled result

/-- A kernel binary stands before an output without its data, and the release would
fail: the output without its data is named. -/
theorem run_result_iff_outcome_of_late_gap :
    let command : Command :=
      ⟨["ocloc", "compile", "-device", "tgllp", "-spirv_input", "-file", "cmoc_spirv",
        "-options", "-vc-codegen", "-internal_options", " -binary-format=cm", "-q"],
        "-vc-codegen", " -binary-format=cm"⟩
    let script : Script :=
      ⟨0, 7, none, [⟨some [0x6B, 0x2E, 0x67, 0x65, 0x6E], some [1, 2], none⟩,
        ⟨some [0x6C, 0x6F, 0x67], none, some 5⟩], none, false, false, false⟩
    compose ⟨"TGLLP", "cm", "", [], false⟩ .initial = .ok command ∧
      (command.reply script.compiler [3]).status = 0 ∧
      (command.leftOutputs script.compiler [3]).Filled ∧
      (command.run script.compiler [3]).result =
        .error (.contractViolation (.missingData [0x6C, 0x6F, 0x67] 5)) := by
  intro command script
  have composed : compose ⟨"TGLLP", "cm", "", [], false⟩ .initial = .ok command := rfl
  have filled : (command.leftOutputs script.compiler [3]).Filled :=
    OutParameters.Filled.scripted script
  have passable : ∀ argument ∈ command.arguments, ¬ Session.HoldsZero argument := by
    unfold Session.HoldsZero
    decide
  have lacking : (command.leftOutputs script.compiler [3]).First OutputEntry.lacksData
      ⟨some [0x6C, 0x6F, 0x67], none, 5⟩ := by
    refine ⟨1, rfl, rfl, ?_⟩
    intro earlier before other atEarlier
    obtain rfl : earlier = 0 := by omega
    cases atEarlier
    rfl
  exact ⟨composed, rfl, filled,
    ((run_result_iff_outcome composed script.compiler [3] fun _ => filled).1 _).mpr
      (.missingData passable rfl _ lacking)⟩

end Command

end KernelForge
