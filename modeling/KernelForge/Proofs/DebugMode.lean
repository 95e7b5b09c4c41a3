import KernelForge.Proofs.CompilationStages
import KernelForge.Proofs.VerboseFlag
import KernelForge.Proofs.TranslationStages

/-!
Contract: diagnostics do not steer a translation.

Owns: the command outside the debug mode against that in it, a compilation by a compiler
that does not care to be quiet, and the programs on two machines that differ only in what
diagnostics look at.

A command outside the debug mode is that in it with one more argument. So a result is
compared with the one in debug mode, and two results with each other through it.

Does not own: what is written to standard error.
-/

namespace KernelForge

/-! ### The debug mode of settings -/

namespace Configuration

/-- The settings in debug mode. -/
def loud (configuration : Configuration) : Configuration :=
  { configuration with debug := true }

/-- Two settings that differ in the debug mode or not at all. -/
structure SameButDebug (first second : Configuration) : Prop where
  libraryDirectory : first.libraryDirectory = second.libraryDirectory
  apiOptions : first.apiOptions = second.apiOptions
  internalOptions : first.internalOptions = second.internalOptions

theorem SameButDebug.loud_eq {first second : Configuration} (same : SameButDebug first second) :
    first.loud = second.loud := by
  simp only [loud, same.libraryDirectory, same.apiOptions, same.internalOptions]

theorem loud_of_debug {configuration : Configuration} (debug : configuration.debug = true) :
    configuration.loud = configuration := by
  unfold loud
  rw [← debug]

end Configuration

/-! ### Composing in debug mode and outside it -/

/-- What keeps the compiler quiet outside the debug mode. -/
def quietPart (debug : Bool) : List String :=
  if debug then [] else ["-q"]

namespace Command

/-- A command of the debug mode as it is in either mode. -/
def inMode (debug : Bool) (command : Command) : Command :=
  { command with arguments := command.arguments ++ quietPart debug }

theorem inMode_true (command : Command) : command.inMode true = command := by
  simp [inMode, quietPart]

theorem commandArguments_inMode (device id options internalOptions : String) (debug : Bool) :
    commandArguments device (Revision.ofPlatform id) options internalOptions (!debug) =
      commandArguments device (Revision.ofPlatform id) options internalOptions false ++
        quietPart debug := by
  cases debug <;> rfl

theorem compose_eq_inMode (request : Request) (configuration : Configuration) :
    compose request configuration =
      (compose request configuration.loud).map (inMode configuration.debug) := by
  unfold compose
  cases Platform.deviceCode request.platform with
  | none => rfl
  | some device =>
      simp only [commandArguments_inMode]
      rfl

theorem composeEchoing_fst_of_not_debug {σ : Type} (writer : Writer σ) (state : σ)
    (request : Request) {configuration : Configuration} (off : configuration.debug = false) :
    (composeEchoing writer state request configuration).1 = state := by
  simp only [composeEchoing, off, Bool.false_eq_true, if_false]
  cases Platform.deviceCode request.platform <;> rfl

/-- Settings that differ in the debug mode only compose alike, but for one argument. -/
theorem compose_of_sameButDebug {request : Request} {on off : Configuration}
    (same : on.SameButDebug off) (isOn : on.debug = true) (isOff : off.debug = false) :
    compose request off = (compose request on).map (inMode false) := by
  rw [compose_eq_inMode request off, isOff, ← same.loud_eq, Configuration.loud_of_debug isOn]

/-! ### Running in debug mode and outside it -/

theorem refusal_quiet {arguments : List String} (short : arguments.length < Session.argumentLimit)
    (debug : Bool) :
    Session.refusal (arguments ++ quietPart debug) = Session.refusal arguments := by
  have shortQuiet : (arguments ++ quietPart debug).length ≤ Session.argumentLimit := by
    cases debug <;> simp [quietPart] <;> omega
  have quietPassable : ((quietPart debug).find? fun argument => argument.toList.contains '\x00') =
      none := by
    cases debug <;> decide
  rw [Session.refusal_of_short shortQuiet, Session.refusal_of_short (by omega),
    List.find?_append, quietPassable, Option.or_none]

end Command

/-- The compiler does the same with and without the argument that keeps it quiet. -/
def DeviceCompiler.IgnoresQuiet (compiler : DeviceCompiler) : Prop :=
  ∀ call : InvokeCall,
    compiler.invoke { call with arguments := call.arguments ++ [Session.terminated "-q"] } =
      compiler.invoke call

namespace Command

theorem run_inMode {command : Command} {compiler : DeviceCompiler}
    (ignores : compiler.IgnoresQuiet) (short : command.arguments.length < Session.argumentLimit)
    (debug : Bool) (ir : Bytes) :
    ((command.inMode debug).run compiler ir).result = (command.run compiler ir).result := by
  have sameRefusal : Session.refusal (command.inMode debug).arguments =
      Session.refusal command.arguments := refusal_quiet short debug
  cases refused : Session.refusal command.arguments with
  | some violation =>
      rw [run_refused refused, run_refused (sameRefusal.trans refused)]
  | none =>
      rw [run_result refused, run_result (sameRefusal.trans refused)]
      cases debug with
      | true => rw [inMode_true]
      | false =>
          have call : Session.invokeCall (command.inMode false).arguments ir =
              { Session.invokeCall command.arguments ir with
                arguments := (Session.invokeCall command.arguments ir).arguments ++
                  [Session.terminated "-q"] } := by
            simp [Session.invokeCall, inMode, quietPart]
          simp only [call, ignores (Session.invokeCall command.arguments ir)]
          rfl

end Command

section Compilation

variable {σ : Type} {writer : Writer σ} {state : σ} {loader : Loader} {request : Request}
  {configuration : Configuration} {ir : Bytes}

/-- A compilation has the result that it has in debug mode. -/
theorem compileIR_eq_loud
    (ignores : ∀ path image, loader path = .ok image → image.compiler.IgnoresQuiet) :
    (compileIR writer state loader request configuration ir).result =
      (compileIR writer state loader request configuration.loud ir).result := by
  have inMode := Command.compose_eq_inMode request configuration
  cases composed : Command.compose request configuration.loud with
  | error failure =>
      rw [composed] at inMode
      rw [(compileIR_of_uncomposed inMode).1, (compileIR_of_uncomposed composed).1]
  | ok command =>
      rw [composed] at inMode
      obtain ⟨-, unloadedFails, loadedRuns⟩ :=
        @compileIR_of_composed σ writer state loader request configuration ir _ inMode
      obtain ⟨-, loudUnloadedFails, loudLoadedRuns⟩ :=
        @compileIR_of_composed σ writer state loader request configuration.loud ir _ composed
      -- The library is looked for at the same path.
      have sameLoading : Library.load loader configuration.loud =
          Library.load loader configuration := rfl
      rw [sameLoading] at loudUnloadedFails loudLoadedRuns
      cases loading : (Library.load loader configuration).result with
      | error failure =>
          rw [(unloadedFails failure loading).1, (loudUnloadedFails failure loading).1]
      | ok library =>
          obtain ⟨image, opened, rfl⟩ := Library.load_ok loading
          rw [(loadedRuns _ loading).1, (loudLoadedRuns _ loading).1]
          have few := Command.compose_arguments_length composed
          have short : command.arguments.length < Session.argumentLimit :=
            Nat.lt_of_le_of_lt few (by decide)
          exact Command.run_inMode (ignores _ image opened) short _ ir

theorem compileIR_of_sameButDebug {other : Configuration}
    (same : configuration.SameButDebug other)
    (ignores : ∀ path image, loader path = .ok image → image.compiler.IgnoresQuiet) :
    (compileIR writer state loader request configuration ir).result =
      (compileIR writer state loader request other ir).result := by
  rw [compileIR_eq_loud ignores, same.loud_eq, ← compileIR_eq_loud ignores]

end Compilation

/-! ### Two machines -/

namespace Host

/-- Two machines that differ in the debug variable and in the log specification or not at
all. -/
structure SameButDiagnostics (host other : Host) : Prop where
  files : host.files = other.files
  loader : host.loader = other.loader
  kernelStop : host.kernelStop = other.kernelStop
  debugInfoStop : host.debugInfoStop = other.debugInfoStop
  environment : ∀ name, name ≠ Configuration.debugVariable → name ≠ Program.logVariable →
    host.environment.lookup name = other.environment.lookup name

variable {host other : Host}

theorem SameButDiagnostics.texts (same : host.SameButDiagnostics other) {name : String}
    (notDebug : name ≠ Configuration.debugVariable) (notLog : name ≠ Program.logVariable) :
    host.environment.texts name = other.environment.texts name := by
  unfold Environment.texts
  rw [same.environment name notDebug notLog]

theorem SameButDiagnostics.overriddenBy (same : host.SameButDiagnostics other)
    (configuration : Configuration) :
    (configuration.overriddenBy host.environment.texts).SameButDebug
      (configuration.overriddenBy other.environment.texts) where
  libraryDirectory := by
    simp only [Configuration.overriddenBy, Configuration.ofVariables]
    rw [same.texts (by decide) (by decide)]
  apiOptions := by
    simp only [Configuration.overriddenBy, Configuration.ofVariables]
    rw [same.texts (by decide) (by decide)]
  internalOptions := by
    simp only [Configuration.overriddenBy, Configuration.ofVariables]
    rw [same.texts (by decide) (by decide)]

/-- Both load their settings, with the same ones but for the debug mode, or neither does, for
the same failure. -/
theorem SameButDiagnostics.configuration (same : host.SameButDiagnostics other)
    (document : Option Path) :
    (∃ failure, host.configuration document = .error failure ∧
      other.configuration document = .error failure) ∨
    ∃ loaded otherLoaded, host.configuration document = .ok loaded ∧
      other.configuration document = .ok otherLoaded ∧ loaded.SameButDebug otherLoaded := by
  cases document with
  | none => exact .inr ⟨_, _, rfl, rfl, same.overriddenBy .initial⟩
  | some path =>
      simp only [Host.configuration, ← same.files]
      cases Configuration.load host.files path with
      | error cause => exact .inl ⟨_, rfl, rfl⟩
      | ok configuration => exact .inr ⟨_, _, rfl, rfl, same.overriddenBy configuration⟩

end Host

/-! ### Two translations -/

namespace Translate

variable {host other : Host} {options : TranslateOptions}

theorem dryRun_result_eq (host : Host) (options : TranslateOptions)
    (configuration : Configuration) :
    (dryRun host options configuration).result =
      match Command.compose (request options) configuration.loud with
      | .error cause => .error (.composing cause)
      | .ok command =>
          .ok (Echo.escapedLine '"' (command.arguments ++ quietPart configuration.debug)) := by
  simp only [dryRun, Command.composeEchoing_snd, Host.answers]
  rw [Command.compose_eq_inMode]
  cases Command.compose (request options) configuration.loud <;> rfl

theorem compile_alike {configuration otherConfiguration : Configuration}
    (same : host.SameButDiagnostics other)
    (sameButDebug : configuration.SameButDebug otherConfiguration)
    (ignores : ∀ path image, host.loader path = .ok image → image.compiler.IgnoresQuiet)
    (options : TranslateOptions) (ir : Bytes) :
    (compile host options configuration ir).result =
        (compile other options otherConfiguration ir).result ∧
      (compile host options configuration ir).files =
        (compile other options otherConfiguration ir).files ∧
      (compile host options configuration ir).sent =
        (compile other options otherConfiguration ir).sent := by
  have sameResult :
      (compileIR .unlimited [] host.loader (request options) configuration ir).result =
        (compileIR .unlimited [] other.loader (request options) otherConfiguration ir).result := by
    rw [← same.loader]
    exact compileIR_of_sameButDebug sameButDebug ignores
  have sameWriting : ∀ binary,
      writeBinary host options binary = writeBinary other options binary := by
    intro binary
    simp only [writeBinary, same.files, same.kernelStop, same.debugInfoStop]
  simp only [compile, sameResult, same.files, sameWriting, and_self]

/-- How two translations end that differ in diagnostics only: they fail alike, they do the same,
or they show one command, each in its own mode. -/
inductive EndAlike (host other : Host) (options : TranslateOptions)
    (result otherResult : Except JobFailure String) : Prop
  | failed (failure : JobFailure) (isFailure : result = .error failure)
      (otherFailure : otherResult = .error failure)
  | wet (wet : options.dryRun = false) (same : result = otherResult)
  | shown (dry : options.dryRun = true) (configuration otherConfiguration : Configuration)
      (loaded : host.configuration options.configuration = .ok configuration)
      (otherLoaded : other.configuration options.configuration = .ok otherConfiguration)
      (arguments : List String)
      (isShown : result =
        .ok (Echo.escapedLine '"' (arguments ++ quietPart configuration.debug)))
      (otherShown : otherResult =
        .ok (Echo.escapedLine '"' (arguments ++ quietPart otherConfiguration.debug)))

theorem perform_endAlike (same : host.SameButDiagnostics other)
    (ignores : ∀ path image, host.loader path = .ok image → image.compiler.IgnoresQuiet)
    (options : TranslateOptions) :
    (Program.perform host (.translate options)).files =
        (Program.perform other (.translate options)).files ∧
      (Program.perform host (.translate options)).sent =
        (Program.perform other (.translate options)).sent ∧
      EndAlike host other options (Program.perform host (.translate options)).result
        (Program.perform other (.translate options)).result := by
  rcases same.configuration options.configuration with
    ⟨failure, unloaded, otherUnloaded⟩ |
    ⟨configuration, otherConfiguration, loaded, otherLoaded, sameButDebug⟩
  · rw [perform_unconfigured unloaded, perform_unconfigured otherUnloaded]
    exact ⟨same.files, rfl, .failed failure rfl rfl⟩
  · cases input : host.files.read options.input with
    | error cause =>
        rw [perform_unread loaded input, perform_unread otherLoaded (same.files ▸ input)]
        exact ⟨same.files, rfl, .failed _ rfl rfl⟩
    | ok ir =>
        cases dry : options.dryRun with
        | false =>
            rw [perform_wet loaded input dry, perform_wet otherLoaded (same.files ▸ input) dry]
            obtain ⟨result, files, sent⟩ := compile_alike same sameButDebug ignores options ir
            exact ⟨files, sent, .wet dry result⟩
        | true =>
            rw [perform_dry loaded input dry, perform_dry otherLoaded (same.files ▸ input) dry]
            refine ⟨same.files, rfl, ?_⟩
            have result := dryRun_result_eq host options configuration
            have otherResult := dryRun_result_eq other options otherConfiguration
            rw [← sameButDebug.loud_eq] at otherResult
            cases composed : Command.compose (request options) configuration.loud with
            | error cause =>
                rw [composed] at result otherResult
                exact .failed _ result otherResult
            | ok command =>
                rw [composed] at result otherResult
                exact .shown dry configuration otherConfiguration loaded otherLoaded
                  command.arguments result otherResult

end Translate

/-! ### Two programs -/

namespace Program

/-- A result and what was sent make the exit status and the standard output, on whatever
machine. -/
theorem runJob_of_result_eq {host other : Host} {commandLine otherCommandLine : CommandLine}
    (same : (perform host commandLine.job).result = (perform other otherCommandLine.job).result)
    (sameSent : (perform host commandLine.job).sent = (perform other otherCommandLine.job).sent) :
    (runJob host commandLine).exitStatus = (runJob other otherCommandLine).exitStatus ∧
      (runJob host commandLine).standardOutput =
        (runJob other otherCommandLine).standardOutput := by
  cases result : (perform host commandLine.job).result with
  | error failure =>
      obtain ⟨status, output⟩ := runJob_of_error commandLine result
      obtain ⟨otherStatus, otherOutput⟩ :=
        runJob_of_error otherCommandLine (same.symm.trans result)
      rw [← sameSent] at otherOutput
      exact ⟨status.trans otherStatus.symm, output.trans otherOutput.symm⟩
  | ok text =>
      obtain ⟨status, output⟩ := runJob_of_ok commandLine result
      obtain ⟨otherStatus, otherOutput⟩ := runJob_of_ok otherCommandLine (same.symm.trans result)
      rw [← sameSent] at otherOutput
      exact ⟨status.trans otherStatus.symm, output.trans otherOutput.symm⟩

end Program

namespace Translate

theorem outcomes_of_endAlike {host other : Host} {options : TranslateOptions}
    (verbose otherVerbose : Bool)
    (sameSent : (Program.perform host (.translate options)).sent =
      (Program.perform other (.translate options)).sent)
    (alike : EndAlike host other options (Program.perform host (.translate options)).result
      (Program.perform other (.translate options)).result) :
    let outcome := Program.runJob host ⟨verbose, .translate options⟩
    let otherOutcome := Program.runJob other ⟨otherVerbose, .translate options⟩
    outcome.exitStatus = otherOutcome.exitStatus ∧
    (options.dryRun = false ∨ outcome.exitStatus ≠ 0 →
      outcome.standardOutput = otherOutcome.standardOutput) ∧
    (options.dryRun = true → outcome.exitStatus = 0 →
      ∃ configuration otherConfiguration shown,
        host.configuration options.configuration = .ok configuration ∧
        other.configuration options.configuration = .ok otherConfiguration ∧
        outcome.standardOutput =
          Text.Utf8.encode (Echo.escapedLine '"' (shown ++ quietPart configuration.debug)) ∧
        otherOutcome.standardOutput =
          Text.Utf8.encode
            (Echo.escapedLine '"' (shown ++ quietPart otherConfiguration.debug))) := by
  intro outcome otherOutcome
  cases alike with
  | failed failure isFailure otherFailure =>
      obtain ⟨sameStatus, sameOutput⟩ :=
        @Program.runJob_of_result_eq host other ⟨verbose, .translate options⟩
          ⟨otherVerbose, .translate options⟩ (isFailure.trans otherFailure.symm) sameSent
      refine ⟨sameStatus, fun _ => sameOutput, fun _ succeeded => ?_⟩
      have failed := (Program.runJob_of_error ⟨verbose, .translate options⟩ isFailure).1
      cases failed.symm.trans succeeded
  | wet wet same =>
      obtain ⟨sameStatus, sameOutput⟩ :=
        @Program.runJob_of_result_eq host other ⟨verbose, .translate options⟩
          ⟨otherVerbose, .translate options⟩ same sameSent
      refine ⟨sameStatus, fun _ => sameOutput, fun dry => ?_⟩
      cases wet.symm.trans dry
  | shown dry configuration otherConfiguration loaded otherLoaded arguments isShown otherShown =>
      obtain ⟨status, output⟩ := Program.runJob_of_ok ⟨verbose, .translate options⟩ isShown
      obtain ⟨otherStatus, otherOutput⟩ :=
        Program.runJob_of_ok ⟨otherVerbose, .translate options⟩ otherShown
      rw [perform_dry_unsent host dry] at output
      rw [perform_dry_unsent other dry] at otherOutput
      refine ⟨status.trans otherStatus.symm, ?_, fun _ _ => ?_⟩
      · rintro (wet | failed)
        · cases dry.symm.trans wet
        · exact absurd status failed
      · exact ⟨configuration, otherConfiguration, arguments, loaded, otherLoaded, output,
          otherOutput⟩

/-- **Diagnostics do not steer.** Composing a request in debug mode and outside it fails alike
or gives commands with the same options, of which the second has one argument more; outside
the debug mode nothing is echoed, and in it no writer changes what is returned. So where the
compiler does not care to be quiet, two translations that differ in the debug variable, in the
log specification and in verbose flags only have the same exit status, files and standard
output, but for that argument in a command that is shown. -/
theorem diagnostics_do_not_steer :
    (∀ (request : Request) (on off : Configuration), on.SameButDebug off → on.debug = true →
      off.debug = false → ∀ {σ τ : Type} (writer : Writer σ) (state : σ) (other : Writer τ)
        (otherState : τ),
        let loudly := Command.composeEchoing writer state request on
        let quietly := Command.composeEchoing other otherState request off
        (∀ failure, loudly.2 = .error failure ↔ quietly.2 = .error failure) ∧
        (∀ command, loudly.2 = .ok command →
          ∃ quietCommand, quietly.2 = .ok quietCommand ∧
            quietCommand.options = command.options ∧
            quietCommand.internalOptions = command.internalOptions ∧
            quietCommand.arguments = command.arguments ++ ["-q"]) ∧
        quietly.1 = otherState ∧
        (Command.composeEchoing other otherState request on).2 = loudly.2) ∧
    ∀ host other : Host, host.SameButDiagnostics other →
      (∀ path image, host.loader path = .ok image → image.compiler.IgnoresQuiet) →
      ∀ arguments others, CommandLine.SameButVerbose arguments others →
      ∀ verbose otherVerbose options otherOptions,
        CommandLine.read arguments = .ok ⟨verbose, .translate options⟩ →
        CommandLine.read others = .ok ⟨otherVerbose, .translate otherOptions⟩ →
        let outcome := Program.run host arguments
        let otherOutcome := Program.run other others
        options = otherOptions ∧ outcome.files = otherOutcome.files ∧
        outcome.exitStatus = otherOutcome.exitStatus ∧
        (options.dryRun = false ∨ outcome.exitStatus ≠ 0 →
          outcome.standardOutput = otherOutcome.standardOutput) ∧
        (options.dryRun = true → outcome.exitStatus = 0 →
          ∃ configuration otherConfiguration shown,
            host.configuration options.configuration = .ok configuration ∧
            other.configuration options.configuration = .ok otherConfiguration ∧
            outcome.standardOutput =
              Text.Utf8.encode (Echo.escapedLine '"' (shown ++ quietPart configuration.debug)) ∧
            otherOutcome.standardOutput =
              Text.Utf8.encode
                (Echo.escapedLine '"' (shown ++ quietPart otherConfiguration.debug))) := by
  constructor
  · intro request on off same isOn isOff σ τ writer state other otherState loudly quietly
    have isLoud : loudly.2 = Command.compose request on :=
      Command.composeEchoing_snd writer state request on
    have isQuiet : quietly.2 = (Command.compose request on).map (Command.inMode false) :=
      (Command.composeEchoing_snd other otherState request off).trans
        (Command.compose_of_sameButDebug same isOn isOff)
    refine ⟨?_, ?_, Command.composeEchoing_fst_of_not_debug other otherState request isOff, ?_⟩
    · intro failure
      rw [isLoud, isQuiet]
      cases Command.compose request on <;> simp [Except.map]
    · intro command composed
      rw [isLoud] at composed
      rw [isQuiet, composed]
      exact ⟨command.inMode false, rfl, rfl, rfl, rfl⟩
    · rw [isLoud, Command.composeEchoing_snd]
  · intro host other same ignores arguments others sameButVerbose verbose otherVerbose options
      otherOptions accepted otherAccepted outcome otherOutcome
    have sameOptions : options = otherOptions := sameButVerbose.options_eq accepted otherAccepted
    subst sameOptions
    have isRun : outcome = Program.runJob host ⟨verbose, .translate options⟩ :=
      Program.run_of_read accepted
    have otherIsRun : otherOutcome = Program.runJob other ⟨otherVerbose, .translate options⟩ :=
      Program.run_of_read otherAccepted
    obtain ⟨sameFiles, sameSent, alike⟩ := perform_endAlike same ignores options
    rw [isRun, otherIsRun]
    refine ⟨rfl, ?_, outcomes_of_endAlike verbose otherVerbose sameSent alike⟩
    rw [Program.runJob_files, Program.runJob_files]
    exact sameFiles

/-- A machine in debug mode that is asked with the verbose flag, beside one without either. -/
theorem diagnostics_do_not_steer_on_device :
    let environment : Environment :=
      [(Configuration.debugVariable, [0x31]), (Program.logVariable, Text.Utf8.encode "trace")]
    let other : Host := { deviceHost with environment }
    let others := argumentsTo "/dev/null" ++ [Text.Utf8.encode "-v"]
    let outcome := Program.run deviceHost (argumentsTo "/dev/null")
    let otherOutcome := Program.run other others
    deviceHost.configuration none = .ok .initial ∧
      other.configuration none = .ok Configuration.initial.loud ∧
      outcome.files = otherOutcome.files ∧
      outcome.exitStatus = otherOutcome.exitStatus ∧
      outcome.standardOutput = otherOutcome.standardOutput := by
  intro environment other others outcome otherOutcome
  have same : deviceHost.SameButDiagnostics other := by
    refine ⟨rfl, rfl, rfl, rfl, fun name notDebug notLog => ?_⟩
    have isNotDebug : (name == Configuration.debugVariable) = false :=
      beq_eq_false_iff_ne.mpr notDebug
    have isNotLog : (name == Program.logVariable) = false := beq_eq_false_iff_ne.mpr notLog
    show none = List.lookup name environment
    rw [List.lookup_cons, isNotDebug]
    rw [List.lookup_cons, isNotLog]
    rfl
  have ignores : ∀ path image, deviceHost.loader path = .ok image →
      image.compiler.IgnoresQuiet := by
    intro path image opened
    cases opened
    exact fun call => rfl
  have sameButVerbose : CommandLine.SameButVerbose (argumentsTo "/dev/null") others :=
    ⟨argumentsTo "/dev/null", .refl, .single
      ⟨argumentsTo "/dev/null", Text.Utf8.encode "-v", [], _, rfl, rfl, by decide, rfl, rfl⟩⟩
  obtain ⟨-, sameFiles, sameStatus, sameOutput, -⟩ :=
    diagnostics_do_not_steer.2 deviceHost other same ignores (argumentsTo "/dev/null") others
      sameButVerbose false true (optionsTo "/dev/null") (optionsTo "/dev/null") rfl rfl
  exact ⟨rfl, rfl, sameFiles, sameStatus, sameOutput (.inl rfl)⟩

end Translate

end KernelForge
