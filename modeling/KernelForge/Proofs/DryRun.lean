import KernelForge.Proofs.AddedFlag
import KernelForge.Proofs.ComposedCommand
import KernelForge.Proofs.TerminatedText
import KernelForge.Proofs.TranslationStages

/-!
Contract: showing the command of a translation agrees with running it.

Owns: the command of a translation, the outcome of the program that only shows it, the
arguments that the compiler receives in the program that runs it, and the agreement of
the two.

Both programs compose one command from the same settings. The one that runs it may stop
earlier, because of the library or because of a zero character in an argument.

Does not own: what else running the command does.
-/

namespace KernelForge

namespace Host

variable {host : Host} {options : TranslateOptions} {command : Command}

/-- The translation has a command: its settings load, its input can be read, and its
command can be composed. -/
def Composes (host : Host) (options : TranslateOptions) (command : Command) : Prop :=
  ∃ configuration ir, host.configuration options.configuration = .ok configuration ∧
    host.files.read options.input = .ok ir ∧
    Command.compose (Translate.request options) configuration = .ok command

theorem Composes.unique {other : Command} (composes : host.Composes options command)
    (otherComposes : host.Composes options other) : command = other := by
  obtain ⟨configuration, ir, loaded, -, composed⟩ := composes
  obtain ⟨otherConfiguration, otherIr, otherLoaded, -, otherComposed⟩ := otherComposes
  cases loaded.symm.trans otherLoaded
  exact Except.ok.inj (composed.symm.trans otherComposed)

theorem exists_composes_iff (host : Host) (options : TranslateOptions) :
    (∃ command, host.Composes options command) ↔
      (∃ configuration, host.configuration options.configuration = .ok configuration) ∧
        (∃ ir, host.files.read options.input = .ok ir) ∧
        ∃ platform ∈ supportedPlatforms, platform.id = options.platform := by
  constructor
  · rintro ⟨command, configuration, ir, loaded, input, composed⟩
    exact ⟨⟨configuration, loaded⟩, ⟨ir, input⟩,
      (Command.exists_compose_iff _ configuration).mp ⟨command, composed⟩⟩
  · rintro ⟨⟨configuration, loaded⟩, ⟨ir, input⟩, known⟩
    obtain ⟨command, composed⟩ :=
      (Command.exists_compose_iff (Translate.request options) configuration).mpr known
    exact ⟨command, configuration, ir, loaded, input, composed⟩

end Host

/-! ### Showing the command -/

namespace Translate

variable {host : Host} {options : TranslateOptions}

/-- A command that is only shown reaches no library and no compiler. -/
theorem perform_dry_quiet (host : Host) (dry : options.dryRun = true) :
    (Program.perform host (.translate options)).opened = [] ∧
      (Program.perform host (.translate options)).calls = [] := by
  have reaches := perform_reaches host options
  generalize Program.perform host (.translate options) = effects at reaches ⊢
  cases reaches with
  | unconfigured failure unloaded => exact ⟨rfl, rfl⟩
  | unread configuration cause loaded unread => exact ⟨rfl, rfl⟩
  | dry configuration ir loaded input dry => exact ⟨rfl, rfl⟩
  | wet configuration ir loaded input wet => cases dry.symm.trans wet

/-- Neither does it ask what the loader is. -/
theorem perform_dry_loader (dry : options.dryRun = true) (loader : Loader) :
    Program.perform { host with loader } (.translate options) =
      Program.perform host (.translate options) := by
  simp only [Program.perform, run, dry, if_true]
  rfl

theorem dryRun_result (host : Host) (options : TranslateOptions) (configuration : Configuration)
    (text : String) :
    (dryRun host options configuration).result = .ok text ↔
      ∃ command, Command.compose (request options) configuration = .ok command ∧
        text = Echo.escapedLine '"' command.arguments := by
  simp only [dryRun, Command.composeEchoing_snd]
  cases Command.compose (request options) configuration with
  | error cause => simp [Host.answers]
  | ok command => simp [Host.answers, eq_comm]

/-- What is shown is the command of the translation. -/
theorem perform_dry_result (dry : options.dryRun = true) (text : String) :
    (Program.perform host (.translate options)).result = .ok text ↔
      ∃ command, host.Composes options command ∧
        text = Echo.escapedLine '"' command.arguments := by
  have reaches := perform_reaches host options
  generalize Program.perform host (.translate options) = effects at reaches ⊢
  cases reaches with
  | unconfigured failure unloaded =>
      constructor
      · intro answered
        cases answered
      · rintro ⟨command, ⟨_, _, loads, -, -⟩, -⟩
        cases unloaded.symm.trans loads
  | unread configuration cause loaded unread =>
      constructor
      · intro answered
        cases answered
      · rintro ⟨command, ⟨_, _, -, reads, -⟩, -⟩
        cases unread.symm.trans reads
  | dry configuration ir loaded input dry =>
      rw [dryRun_result]
      constructor
      · rintro ⟨command, composed, shown⟩
        exact ⟨command, ⟨configuration, ir, loaded, input, composed⟩, shown⟩
      · rintro ⟨command, ⟨_, _, loads, -, composed⟩, shown⟩
        cases loaded.symm.trans loads
        exact ⟨command, composed, shown⟩
  | wet configuration ir loaded input wet => cases dry.symm.trans wet

theorem runJob_dry_of_composes {command : Command} (verbose : Bool) (dry : options.dryRun = true)
    (composes : host.Composes options command) :
    (Program.runJob host ⟨verbose, .translate options⟩).exitStatus = 0 ∧
      (Program.runJob host ⟨verbose, .translate options⟩).standardOutput =
        Text.Utf8.encode (Echo.escapedLine '"' command.arguments) := by
  have shown := (perform_dry_result dry _).mpr ⟨command, composes, rfl⟩
  obtain ⟨status, output⟩ := Program.runJob_of_ok ⟨verbose, .translate options⟩ shown
  rw [perform_dry_unsent host dry] at output
  exact ⟨status, output⟩

theorem runJob_dry_exitStatus (verbose : Bool) (dry : options.dryRun = true) :
    (Program.runJob host ⟨verbose, .translate options⟩).exitStatus = 0 ↔
      ∃ command, host.Composes options command := by
  constructor
  · intro succeeded
    cases result : (Program.perform host (.translate options)).result with
    | error failure =>
        have failed := (Program.runJob_of_error ⟨verbose, .translate options⟩ result).1
        cases failed.symm.trans succeeded
    | ok text =>
        obtain ⟨command, composes, -⟩ := (perform_dry_result dry text).mp result
        exact ⟨command, composes⟩
  · rintro ⟨command, composes⟩
    exact (runJob_dry_of_composes verbose dry composes).1

theorem runJob_dry_loader (verbose : Bool) (dry : options.dryRun = true) (loader : Loader) :
    Program.runJob { host with loader } ⟨verbose, .translate options⟩ =
      Program.runJob host ⟨verbose, .translate options⟩ := by
  simp only [Program.runJob, perform_dry_loader dry loader]

end Translate

/-! ### Running the command -/

theorem invoke_mem_compileIR {σ : Type} {writer : Writer σ} {state : σ} {loader : Loader}
    {request : Request} {configuration : Configuration} {ir : Bytes} {call : InvokeCall}
    {reply : InvokeReply}
    (called : .invoke call reply ∈ (compileIR writer state loader request configuration ir).calls) :
    ∃ command, Command.compose request configuration = .ok command ∧
      Session.refusal command.arguments = none ∧
      call = Session.invokeCall command.arguments ir := by
  have composes := Command.composeEchoing_snd writer state request configuration
  unfold compileIR at called
  cases composing : Command.composeEchoing writer state request configuration with
  | mk echo composed =>
      rw [composing] at called composes
      cases composed with
      | error failure => cases called
      | ok command =>
          refine ⟨command, composes.symm, ?_⟩
          simp only at called
          cases loading : (Library.load loader configuration).result with
          | error failure =>
              rw [loading] at called
              cases called
          | ok library =>
              rw [loading] at called
              exact Command.invoke_mem_run called

namespace Translate

variable {host : Host} {options : TranslateOptions}

/-- What the compiler is called with is the command of the translation. -/
theorem invoke_mem_perform {call : InvokeCall} {reply : InvokeReply}
    (called : .invoke call reply ∈ (Program.perform host (.translate options)).calls) :
    ∃ command ir, host.Composes options command ∧ Session.refusal command.arguments = none ∧
      call = Session.invokeCall command.arguments ir := by
  have reaches := perform_reaches host options
  generalize Program.perform host (.translate options) = effects at reaches called
  cases reaches with
  | unconfigured failure unloaded => cases called
  | unread configuration cause loaded unread => cases called
  | dry configuration ir loaded input dry => cases called
  | wet configuration ir loaded input wet =>
      obtain ⟨command, composed, accepted, isCall⟩ := invoke_mem_compileIR called
      exact ⟨command, ir, ⟨configuration, ir, loaded, input, composed⟩, accepted, isCall⟩

/-! ### The two programs -/

/-- The arguments of the second list are those of the first with `--dry-run` added, where an
option of the job may stand. -/
def AddsDryRun (arguments shown : List Bytes) : Prop :=
  ∃ before after, arguments = before ++ after ∧ CommandLine.TakesOption before ∧
    shown = before ++ CommandLine.dryRunArgument :: after

/-- **Showing the command agrees with running it.** With `--dry-run` added to the arguments
of a translation, the program opens no library, makes no call and does not depend on the
loader. It succeeds exactly if the settings load, the input can be read and the platform is
in the table. There is one argument list such that the program then writes it, escaped, to
standard output, and such that the compiler gets this list, read back as zero-terminated
texts, in every call that it receives without `--dry-run`, from whatever library. -/
theorem dry_run_agrees (host : Host) (arguments : List Bytes) (verbose : Bool)
    (options : TranslateOptions)
    (accepted : CommandLine.read arguments = .ok ⟨verbose, .translate options⟩)
    (wet : options.dryRun = false) :
    (∃ shown, AddsDryRun arguments shown) ∧
    ∀ shown, AddsDryRun arguments shown →
      let outcome := Program.run host shown
      outcome.opened = [] ∧ outcome.calls = [] ∧
      (∀ loader, Program.run { host with loader } shown = outcome) ∧
      (outcome.exitStatus = 0 ↔
        (∃ configuration, host.configuration options.configuration = .ok configuration) ∧
        (∃ ir, host.files.read options.input = .ok ir) ∧
        ∃ platform ∈ supportedPlatforms, platform.id = options.platform) ∧
      ∃ shownArguments : List String,
        (outcome.exitStatus = 0 →
          Echo.writeEscapedLine .unlimited [] '"' shownArguments =
            (outcome.standardOutput, true)) ∧
        ∀ loader call reply,
          .invoke call reply ∈ (Program.run { host with loader } arguments).calls →
            outcome.exitStatus = 0 ∧
            (∀ buffer ∈ call.arguments, 0 ∈ buffer) ∧
            call.arguments.map Bytes.untilZero = shownArguments.map Text.Utf8.encode := by
  constructor
  · obtain ⟨before, after, split, place⟩ := CommandLine.exists_takesOption accepted
    exact ⟨_, before, after, split, place, rfl⟩
  rintro shown ⟨before, after, rfl, place, rfl⟩ outcome
  let dryOptions : TranslateOptions := { options with dryRun := true }
  have shownRead := CommandLine.read_insert_dryRun place accepted wet
  have isRun : outcome = Program.runJob host ⟨verbose, .translate dryOptions⟩ :=
    Program.run_of_read shownRead
  have dry : dryOptions.dryRun = true := rfl
  obtain ⟨unopened, uncalled⟩ := perform_dry_quiet host dry
  -- The flag is no part of the command, so both programs compose the same one.
  have succeeds : outcome.exitStatus = 0 ↔ ∃ command, host.Composes options command := by
    rw [isRun]
    exact runJob_dry_exitStatus verbose dry
  refine ⟨?_, ?_, ?_, succeeds.trans (host.exists_composes_iff options), ?_⟩
  · rw [isRun, Program.runJob_opened]
    exact unopened
  · rw [isRun, Program.runJob_calls]
    exact uncalled
  · intro loader
    rw [isRun, Program.run_of_read shownRead]
    exact runJob_dry_loader verbose dry loader
  · by_cases composed : ∃ command, host.Composes options command
    · obtain ⟨command, composes⟩ := composed
      obtain ⟨succeeded, output⟩ := runJob_dry_of_composes verbose dry composes
      rw [← isRun] at succeeded output
      refine ⟨command.arguments, ?_, ?_⟩
      · intro _
        rw [output, Echo.writeEscapedLine_unlimited, List.nil_append]
      · intro loader call reply called
        rw [Program.run_of_read accepted, Program.runJob_calls] at called
        obtain ⟨other, ir, otherComposes, unrefused, rfl⟩ := invoke_mem_perform called
        cases composes.unique otherComposes
        refine ⟨succeeded, ?_, Session.invokeCall_arguments_untilZero unrefused ir⟩
        intro buffer member
        obtain ⟨argument, -, rfl⟩ := List.mem_map.mp member
        exact Session.zero_mem_terminated argument
    · refine ⟨[], fun succeeded => absurd (succeeds.mp succeeded) composed, ?_⟩
      intro loader call reply called
      rw [Program.run_of_read accepted, Program.runJob_calls] at called
      obtain ⟨command, ir, composes, -, -⟩ := invoke_mem_perform called
      exact absurd ⟨command, composes⟩ composed

/-- A machine on which the command is shown without a call, and run with one. -/
theorem dry_run_agrees_on_device :
    let shown := argumentsTo "/dev/null" ++ [CommandLine.dryRunArgument]
    AddsDryRun (argumentsTo "/dev/null") shown ∧
      (Program.run deviceHost shown).calls = [] ∧
      (Program.run deviceHost shown).exitStatus = 0 ∧
      ∃ call reply, .invoke call reply ∈
        (Program.run deviceHost (argumentsTo "/dev/null")).calls := by
  intro shown
  have accepted : CommandLine.read (argumentsTo "/dev/null") =
      .ok ⟨false, .translate (optionsTo "/dev/null")⟩ := rfl
  have adds : AddsDryRun (argumentsTo "/dev/null") shown :=
    ⟨argumentsTo "/dev/null", [], rfl, ⟨_, rfl, rfl, rfl⟩, rfl⟩
  obtain ⟨-, agrees⟩ := dry_run_agrees deviceHost _ false _ accepted rfl
  obtain ⟨-, uncalled, -, succeeds, -⟩ := agrees shown adds
  refine ⟨adds, uncalled, succeeds.mpr ⟨⟨_, rfl⟩, ⟨_, rfl⟩, ?_⟩, _, _, List.mem_cons_self⟩
  exact ⟨⟨"SKL", "skl", "Skylake", "Gen9"⟩, List.mem_cons_self, rfl⟩

end Translate

end KernelForge
