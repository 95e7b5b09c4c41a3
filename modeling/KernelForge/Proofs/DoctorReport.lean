import KernelForge.Proofs.CompilationStages
import KernelForge.Proofs.TranslationStages

/-!
Contract: the report of the doctor foretells a translation.

Owns: the failures of loading the compiler library, that no other stage of a compilation
fails with one of them, what the report says about the library, and that a translation under
the same settings meets what the report says.

Both jobs load the library at the path of the same settings, and a loader is a function of
the path alone. The report shows a failure as a text; the text of a failure of loading leaves
no other one at that path.

Does not own: how a loader finds a library.
-/

namespace KernelForge

/-! ### The failures of loading -/

/-- A failure to load the library at a path: it cannot be opened, or an entry point is
missing in it. -/
inductive Failure.OfLoading (path : Path) : Failure → Prop
  | unopened (reason : String) : OfLoading path (.libraryLoad path reason)
  | missing (entry : EntryPoint) : OfLoading path (.symbolMissing entry)

theorem EntryPoint.symbol_inj {entry other : EntryPoint} (same : entry.symbol = other.symbol) :
    entry = other := by
  cases entry <;> cases other <;> first | rfl | exact absurd same (by decide)

theorem Failure.message_libraryLoad (path : Path) (reason : String) :
    (libraryLoad path reason).message =
      "failed to load " ++ path.display ++ ": " ++ reason :=
  rfl

theorem Failure.message_symbolMissing (entry : EntryPoint) :
    (symbolMissing entry).message = entry.symbol ++ " symbol is missing" :=
  rfl

theorem Failure.message_libraryLoad_ne (path : Path) (reason : String) (entry : EntryPoint) :
    (libraryLoad path reason).message ≠ (symbolMissing entry).message := by
  intro same
  rw [message_libraryLoad, message_symbolMissing] at same
  -- The two messages differ in their first character.
  have characters := congrArg String.toList same
  cases entry <;> simp [EntryPoint.symbol] at characters

/-- The message of a failure of loading tells it from every other one at its path. -/
theorem Failure.OfLoading.message_inj {path : Path} {first second : Failure}
    (ofLoading : first.OfLoading path) (otherOfLoading : second.OfLoading path)
    (same : first.message = second.message) : first = second := by
  cases ofLoading with
  | unopened reason =>
      cases otherOfLoading with
      | unopened other =>
          rw [message_libraryLoad, message_libraryLoad, String.append_right_inj] at same
          rw [same]
      | missing entry => exact absurd same (message_libraryLoad_ne path reason entry)
  | missing entry =>
      cases otherOfLoading with
      | unopened reason => exact absurd same.symm (message_libraryLoad_ne path reason entry)
      | missing other =>
          rw [message_symbolMissing, message_symbolMissing, String.append_left_inj] at same
          rw [EntryPoint.symbol_inj same]

namespace Library

variable {loader : Loader} {configuration : Configuration}

theorem load_error {failure : Failure}
    (unloaded : (load loader configuration).result = .error failure) :
    failure.OfLoading (libraryPath configuration) := by
  cases opened : loader (libraryPath configuration) with
  | error reason =>
      cases (load_of_refused opened).symm.trans unloaded
      exact .unopened reason
  | ok image =>
      by_cases invokeFound : image.missing .invoke = none
      · by_cases freeFound : image.missing .freeOutput = none
        · cases (load_of_found opened invokeFound freeFound).symm.trans unloaded
        · cases (load_of_freeMissing opened invokeFound freeFound).symm.trans unloaded
          exact .missing .freeOutput
      · cases (load_of_invokeMissing opened invokeFound).symm.trans unloaded
        exact .missing .invoke

end Library

/-! ### No other stage fails with one of them -/

theorem Command.run_error {command : Command} {compiler : DeviceCompiler} {ir : Bytes}
    {failure : Failure} (failed : (command.run compiler ir).result = .error failure)
    (path : Path) : ¬ failure.OfLoading path := by
  intro ofLoading
  cases refused : Session.refusal command.arguments with
  | some violation =>
      rw [run_refused refused] at failed
      cases failed
      cases ofLoading
  | none =>
      rw [run_result_extract refused] at failed
      split at failed
      · cases extracted : (command.leftOutputs compiler ir).extract with
        | error violation =>
            rw [extracted] at failed
            cases failed
            cases ofLoading
        | ok binary =>
            rw [extracted] at failed
            simp only at failed
            split at failed
            · cases failed
            · cases failed
              cases ofLoading
      · cases failed
        cases ofLoading

/-- A compilation of a known platform fails to load the library exactly if the library does
not load. -/
theorem compileIR_error_iff {σ : Type} {writer : Writer σ} {state : σ} {loader : Loader}
    {request : Request} {configuration : Configuration} {ir : Bytes} {path : Path}
    {failure : Failure} (known : ∃ platform ∈ supportedPlatforms, platform.id = request.platform)
    (ofLoading : failure.OfLoading path) :
    (compileIR writer state loader request configuration ir).result = .error failure ↔
      (Library.load loader configuration).result = .error failure := by
  obtain ⟨command, composed⟩ := (Command.exists_compose_iff request configuration).mpr known
  obtain ⟨-, unloadedFails, loadedRuns⟩ :=
    @compileIR_of_composed _ writer state loader request configuration ir command composed
  cases loading : (Library.load loader configuration).result with
  | error cause => simp only [(unloadedFails cause loading).1, Except.error.injEq]
  | ok library =>
      rw [(loadedRuns library loading).1]
      constructor
      · intro failed
        exact absurd ofLoading (Command.run_error failed path)
      · intro unloaded
        cases unloaded

/-! ### A translation under settings that load -/

/-- The failure below a failure of a job, if it is one of driving the compiler. -/
def JobFailure.cause? : JobFailure → Option Failure
  | .loadingConfiguration _ cause => some cause
  | .composing cause => some cause
  | .translating _ cause => some cause
  | _ => none

namespace Translate

variable {host : Host} {options : TranslateOptions} {configuration : Configuration} {ir : Bytes}
  {path : Path} {failure : Failure}

/-- The translation fails, and this is why. -/
def FailsBy (host : Host) (options : TranslateOptions) (failure : Failure) : Prop :=
  ∃ jobFailure, (Program.perform host (.translate options)).result = .error jobFailure ∧
    jobFailure.cause? = some failure

/-- A file that cannot be written is no failure of driving the compiler. -/
theorem cause?_of_ofWriting {jobFailure : JobFailure} (ofWriting : jobFailure.OfWriting) :
    jobFailure.cause? = none := by
  cases ofWriting <;> rfl

/-- A compilation that fails is what a translation fails by, under the heading of its
input. -/
theorem compile_result_iff (host : Host) (options : TranslateOptions)
    (configuration : Configuration) (ir : Bytes) (failure : Failure) :
    (∃ jobFailure, (compile host options configuration ir).result = .error jobFailure ∧
        jobFailure.cause? = some failure) ↔
      (compileIR .unlimited [] host.loader (request options) configuration ir).result =
        .error failure := by
  unfold compile
  cases compiled :
      (compileIR .unlimited [] host.loader (request options) configuration ir).result with
  | error cause => simp [compiled, JobFailure.cause?]
  | ok binary =>
      simp only [compiled, reduceCtorEq, iff_false]
      rintro ⟨jobFailure, failed, caused⟩
      have ends := writeBinary_ends host options binary
      generalize (writeBinary host options binary).result = result at ends failed
      cases ends with
      | failed writing ofWriting =>
          cases failed
          cases (cause?_of_ofWriting ofWriting).symm.trans caused
      | written => cases failed

/-- A translation of a readable input for a known platform fails to load the library exactly
if the library does not load. -/
theorem failsBy_iff (loaded : host.configuration options.configuration = .ok configuration)
    (input : host.files.read options.input = .ok ir) (wet : options.dryRun = false)
    (known : ∃ platform ∈ supportedPlatforms, platform.id = options.platform)
    (ofLoading : failure.OfLoading path) :
    FailsBy host options failure ↔
      (Library.load host.loader configuration).result = .error failure := by
  unfold FailsBy
  rw [perform_wet loaded input wet, compile_result_iff]
  exact compileIR_error_iff known ofLoading

end Translate

/-! ### What the report says -/

namespace Doctor

/-- The report up to the part about the library. -/
def heading (version : String) (configuration : Configuration) : String :=
  "=== cmoc doctor ===\n\n" ++ "cmoc version: " ++ version ++ "\n\n" ++
    settingsPart configuration ++ "\n"

/-- The part about the library up to what it says about loading it. -/
def libraryHeading (configuration : Configuration) : String :=
  "--- Device Compiler ---\n" ++ "  library: " ++ (libraryPath configuration).display ++ "\n"

/-- What every report on the settings has in common. -/
def preamble (version : String) (configuration : Configuration) : String :=
  heading version configuration ++ libraryHeading configuration

/-- The report says that the library is loaded. -/
def SaysLoaded (version : String) (configuration : Configuration) (report : String) : Prop :=
  report = preamble version configuration ++
    ("  loaded:  " ++ (libraryPath configuration).display ++ "\n" ++
      "  symbols: " ++ EntryPoint.invoke.symbol ++ ", " ++ EntryPoint.freeOutput.symbol ++ "\n")

/-- The report says that the library is not loaded, and why. -/
def SaysError (version : String) (configuration : Configuration) (failure : Failure)
    (report : String) : Prop :=
  report = preamble version configuration ++ ("  error:   " ++ failure.message ++ "\n")

variable {version : String} {configuration : Configuration} {failure : Failure} {path : Path}

theorem loadingLines_ok (library : Library) :
    loadingLines (.ok library) =
      "  loaded:  " ++ library.path.display ++ "\n" ++
        "  symbols: " ++ EntryPoint.invoke.symbol ++ ", " ++ EntryPoint.freeOutput.symbol ++ "\n" :=
  rfl

theorem loadingLines_error (failure : Failure) :
    loadingLines (.error failure) = "  error:   " ++ failure.message ++ "\n" :=
  rfl

theorem run_result (host : Host) (version : String) (configuration : Configuration) :
    (run host version configuration).result =
      .ok (preamble version configuration ++
        loadingLines (Library.load host.loader configuration).result) := by
  have parts : (run host version configuration).result =
      .ok (heading version configuration ++ (libraryHeading configuration ++
        loadingLines (Library.load host.loader configuration).result)) := rfl
  rw [parts, preamble, String.append_assoc]

theorem not_saysLoaded_of_saysError {report : String}
    (error : SaysError version configuration failure report) :
    ¬ SaysLoaded version configuration report := by
  intro loaded
  have lines := (String.append_right_inj _).mp (loaded.symm.trans error)
  have characters := congrArg String.toList lines
  simp at characters

theorem SaysError.inj {other : Failure} {report : String}
    (error : SaysError version configuration failure report)
    (otherError : SaysError version configuration other report)
    (ofLoading : failure.OfLoading path) (otherOfLoading : other.OfLoading path) :
    failure = other := by
  have lines := (String.append_right_inj _).mp (error.symm.trans otherError)
  rw [String.append_left_inj, String.append_right_inj] at lines
  exact ofLoading.message_inj otherOfLoading lines

/-- What the report says, in terms of what the loader does. -/
inductive Verdict (loader : Loader) (version : String) (configuration : Configuration)
    (report : String) : Prop
  | loaded (library : Library)
      (loads : (Library.load loader configuration).result = .ok library)
      (told : SaysLoaded version configuration report)
  | failed (failure : Failure)
      (unloaded : (Library.load loader configuration).result = .error failure)
      (ofLoading : failure.OfLoading (libraryPath configuration))
      (told : SaysError version configuration failure report)

theorem verdict_of_loading (loader : Loader) (version : String) (configuration : Configuration) :
    Verdict loader version configuration
      (preamble version configuration ++
        loadingLines (Library.load loader configuration).result) := by
  cases loading : (Library.load loader configuration).result with
  | ok library =>
      obtain ⟨image, -, rfl⟩ := Library.load_ok loading
      exact .loaded _ loading (congrArg _ (loadingLines_ok _))
  | error failure =>
      exact .failed failure loading (Library.load_error loading)
        (congrArg _ (loadingLines_error failure))

end Doctor

/-! ### The two jobs -/

namespace Program

variable {host : Host} {document : Option Path} {failure : JobFailure}

theorem perform_doctor {configuration : Configuration}
    (loaded : host.configuration document = .ok configuration) :
    perform host (.doctor document) = Doctor.run host version configuration := by
  simp only [perform, loaded]

theorem perform_doctor_result {configuration : Configuration}
    (loaded : host.configuration document = .ok configuration) :
    (perform host (.doctor document)).result =
      .ok (Doctor.preamble version configuration ++
        Doctor.loadingLines (Library.load host.loader configuration).result) := by
  rw [perform_doctor loaded]
  exact Doctor.run_result host version configuration

theorem perform_doctor_unconfigured (unloaded : host.configuration document = .error failure) :
    perform host (.doctor document) = host.answers (.error failure) := by
  simp only [perform, unloaded]

theorem perform_doctor_quiet (host : Host) (document : Option Path) :
    (perform host (.doctor document)).files = host.files ∧
      (perform host (.doctor document)).calls = [] ∧
      (perform host (.doctor document)).sent = .nothing := by
  cases loading : host.configuration document with
  | error failure =>
      rw [perform_doctor_unconfigured loading]
      exact ⟨rfl, rfl, rfl⟩
  | ok configuration =>
      rw [perform_doctor loading]
      exact ⟨rfl, rfl, rfl⟩

/-- Jobs that do nothing but fail alike have one outcome: without records the log filter does
not matter. -/
theorem runJob_of_answers {commandLine other : CommandLine}
    (performed : perform host commandLine.job = host.answers (.error failure))
    (otherPerformed : perform host other.job = host.answers (.error failure)) :
    runJob host commandLine = runJob host other := by
  simp only [runJob, diagnostics, performed, otherPerformed, Host.answers, List.filter_nil]

theorem failureLine_suffix (commandLine : CommandLine)
    (failed : (perform host commandLine.job).result = .error failure) :
    Text.Utf8.encode (failureLine failure) <:+ (runJob host commandLine).standardError := by
  simp only [runJob, diagnostics, failed]
  exact List.suffix_append _ _

end Program

namespace Doctor

open Program

variable {host : Host} {document : Option Path}

theorem runJob_exitStatus (host : Host) (verbose : Bool) (document : Option Path) :
    (runJob host ⟨verbose, .doctor document⟩).exitStatus = 0 ↔
      ∃ configuration, host.configuration document = .ok configuration := by
  cases loading : host.configuration document with
  | error failure =>
      have performed := congrArg Effects.result (perform_doctor_unconfigured loading)
      have failed := (runJob_of_error ⟨verbose, .doctor document⟩ performed).1
      simp [failed]
  | ok configuration =>
      have performed := perform_doctor_result loading
      have succeeded := (runJob_of_ok ⟨verbose, .doctor document⟩ performed).1
      simp [succeeded]

theorem verdict_of_runJob {configuration : Configuration} (verbose : Bool)
    (loaded : host.configuration document = .ok configuration) :
    ∃ report, (runJob host ⟨verbose, .doctor document⟩).standardOutput =
        Text.Utf8.encode report ∧
      Verdict host.loader version configuration report := by
  have output := (runJob_of_ok ⟨verbose, .doctor document⟩ (perform_doctor_result loaded)).2
  rw [(perform_doctor_quiet host document).2.2, Streams.nothing, List.nil_append] at output
  exact ⟨_, output, verdict_of_loading host.loader version configuration⟩

/-- A report foretells a translation: it says that the library is loaded, or by which failure
of loading the translation fails. -/
structure Foretells (host : Host) (configuration : Configuration) (options : TranslateOptions)
    (report : String) : Prop where
  told : SaysLoaded version configuration report ∨
    ∃ failure, failure.OfLoading (libraryPath configuration) ∧
      SaysError version configuration failure report
  loaded_iff : SaysLoaded version configuration report ↔
    ∀ path failure, failure.OfLoading path → ¬ Translate.FailsBy host options failure
  error_iff : ∀ failure, failure.OfLoading (libraryPath configuration) →
    (SaysError version configuration failure report ↔ Translate.FailsBy host options failure)

theorem Verdict.foretells {configuration : Configuration} {options : TranslateOptions}
    {report : String} {ir : Bytes} (verdict : Verdict host.loader version configuration report)
    (loaded : host.configuration options.configuration = .ok configuration)
    (input : host.files.read options.input = .ok ir) (wet : options.dryRun = false)
    (known : ∃ platform ∈ supportedPlatforms, platform.id = options.platform) :
    Foretells host configuration options report := by
  have fails {path : Path} {failure : Failure} (ofLoading : failure.OfLoading path) :
      Translate.FailsBy host options failure ↔
        (Library.load host.loader configuration).result = .error failure :=
    Translate.failsBy_iff loaded input wet known ofLoading
  cases verdict with
  | loaded library loads told =>
      have unfailing {path : Path} {failure : Failure} (ofLoading : failure.OfLoading path) :
          ¬ Translate.FailsBy host options failure := by
        intro failed
        cases loads.symm.trans ((fails ofLoading).mp failed)
      refine ⟨.inl told, iff_of_true told fun _ _ => unfailing, ?_⟩
      intro failure ofLoading
      exact iff_of_false (fun error => not_saysLoaded_of_saysError error told)
        (unfailing ofLoading)
  | failed failure unloaded ofLoading told =>
      refine ⟨.inr ⟨failure, ofLoading, told⟩, ?_, ?_⟩
      · refine iff_of_false (not_saysLoaded_of_saysError told) ?_
        intro unfailing
        exact unfailing _ failure ofLoading ((fails ofLoading).mpr unloaded)
      · intro other otherOfLoading
        rw [fails otherOfLoading]
        constructor
        · intro otherSays
          rw [unloaded, told.inj otherSays ofLoading otherOfLoading]
        · intro otherUnloaded
          cases unloaded.symm.trans otherUnloaded
          exact told

end Doctor

namespace Translate

/-- What a failure of loading does to the whole program. -/
theorem outcome_of_failsBy {host : Host} {options : TranslateOptions}
    {configuration : Configuration} {ir : Bytes} {failure : Failure} (verbose : Bool)
    (loaded : host.configuration options.configuration = .ok configuration)
    (input : host.files.read options.input = .ok ir) (wet : options.dryRun = false)
    (fails : FailsBy host options failure) :
    (Program.runJob host ⟨verbose, .translate options⟩).exitStatus = 1 ∧
      Text.Utf8.encode (Program.failureLine (.translating options.input failure)) <:+
        (Program.runJob host ⟨verbose, .translate options⟩).standardError := by
  have compiled := fails
  unfold FailsBy at compiled
  rw [perform_wet loaded input wet, compile_result_iff] at compiled
  have failed : (Program.perform host (.translate options)).result =
      .error (.translating options.input failure) := by
    rw [perform_wet loaded input wet]
    simp only [compile, compiled]
  exact ⟨(Program.runJob_of_error ⟨verbose, .translate options⟩ failed).1,
    Program.failureLine_suffix ⟨verbose, .translate options⟩ failed⟩

end Translate

namespace Doctor

open Program

/-- **The doctor and a translation agree.** The doctor succeeds exactly if the settings load,
changes no file and makes no call. A translation that names the same document has the very
same outcome where the settings do not load. Where they do, its input can be read, its
platform is known and it is not only shown, the report foretells whether it fails to load the
library, and by which failure. -/
theorem doctor_agrees_with_translation (host : Host) (doctorArguments : List Bytes)
    (verbose : Bool) (document : Option Path)
    (accepted : CommandLine.read doctorArguments = .ok ⟨verbose, .doctor document⟩) :
    let doctor := Program.run host doctorArguments
    (doctor.exitStatus = 0 ↔ ∃ configuration, host.configuration document = .ok configuration) ∧
    (doctor.exitStatus = 0 ∨ doctor.exitStatus = 1) ∧
    doctor.files = host.files ∧ doctor.calls = [] ∧
    ∀ arguments otherVerbose options,
      CommandLine.read arguments = .ok ⟨otherVerbose, .translate options⟩ →
      options.configuration = document →
      let translation := Program.run host arguments
      (∀ failure, host.configuration document = .error failure →
        translation = doctor ∧ doctor.exitStatus = 1 ∧
          Text.Utf8.encode (failureLine failure) <:+ doctor.standardError) ∧
      ∀ configuration ir, host.configuration document = .ok configuration →
        host.files.read options.input = .ok ir → options.dryRun = false →
        (∃ platform ∈ supportedPlatforms, platform.id = options.platform) →
        (∃ report, doctor.standardOutput = Text.Utf8.encode report ∧
          Foretells host configuration options report) ∧
        ∀ failure, Translate.FailsBy host options failure →
          translation.exitStatus = 1 ∧
            Text.Utf8.encode (failureLine (.translating options.input failure)) <:+
              translation.standardError := by
  intro doctor
  have isJob : doctor = runJob host ⟨verbose, .doctor document⟩ := run_of_read accepted
  obtain ⟨unchanged, uncalled, -⟩ := perform_doctor_quiet host document
  refine ⟨?_, ?_, ?_, ?_, ?_⟩
  · rw [isJob]
    exact runJob_exitStatus host verbose document
  · rw [isJob]
    exact (Program.runJob_exitStatus host ⟨verbose, .doctor document⟩).1
  · rw [isJob, runJob_files]
    exact unchanged
  · rw [isJob, runJob_calls]
    exact uncalled
  · rintro arguments otherVerbose options otherAccepted rfl translation
    have isTranslation : translation = runJob host ⟨otherVerbose, .translate options⟩ :=
      run_of_read otherAccepted
    rw [isJob, isTranslation]
    constructor
    · intro failure unloaded
      have performed := perform_doctor_unconfigured unloaded
      have otherPerformed := Translate.perform_unconfigured unloaded
      have failed := congrArg Effects.result performed
      refine ⟨runJob_of_answers otherPerformed performed, ?_, ?_⟩
      · exact (runJob_of_error ⟨verbose, .doctor options.configuration⟩ failed).1
      · exact failureLine_suffix ⟨verbose, .doctor options.configuration⟩ failed
    · intro configuration ir loaded input wet known
      obtain ⟨report, output, verdict⟩ := verdict_of_runJob verbose loaded
      refine ⟨⟨report, output, verdict.foretells loaded input wet known⟩, ?_⟩
      intro failure fails
      exact Translate.outcome_of_failsBy otherVerbose loaded input wet fails

/-- A library without its release: the doctor succeeds, and says what a translation fails by. -/
theorem doctor_agrees_without_release :
    let loader : Loader := fun _ =>
      .ok ⟨⟨fun _ => ⟨0, none⟩, fun _ => 0⟩, fun entry =>
        if entry = .freeOutput then some "undefined symbol" else none⟩
    let host : Host := { Translate.deviceHost with loader }
    let doctor := Program.run host [Text.Utf8.encode "doctor"]
    doctor.exitStatus = 0 ∧
      (∃ report, doctor.standardOutput = Text.Utf8.encode report ∧
        SaysError version Configuration.initial (.symbolMissing .freeOutput) report ∧
        ¬ SaysLoaded version Configuration.initial report) ∧
      (Program.run host (Translate.argumentsTo "/dev/null")).exitStatus = 1 := by
  intro loader host doctor
  let options := Translate.optionsTo "/dev/null"
  have loaded : host.configuration none = .ok Configuration.initial := rfl
  have input : host.files.read options.input = .ok [3] := rfl
  have known : ∃ platform ∈ supportedPlatforms, platform.id = options.platform :=
    ⟨⟨"SKL", "skl", "Skylake", "Gen9"⟩, List.mem_cons_self, rfl⟩
  have unloaded : (Library.load host.loader Configuration.initial).result =
      .error (.symbolMissing .freeOutput) := Library.load_of_freeMissing rfl rfl nofun
  have ofLoading := Library.load_error unloaded
  have fails : Translate.FailsBy host options (.symbolMissing .freeOutput) :=
    (Translate.failsBy_iff loaded input rfl known ofLoading).mpr unloaded
  obtain ⟨succeeds, -, -, -, agrees⟩ :=
    doctor_agrees_with_translation host [Text.Utf8.encode "doctor"] false none rfl
  obtain ⟨-, foretold⟩ := agrees (Translate.argumentsTo "/dev/null") false options rfl rfl
  obtain ⟨⟨report, output, foretells⟩, failing⟩ :=
    foretold Configuration.initial [3] loaded input rfl known
  refine ⟨succeeds.mpr ⟨_, loaded⟩,
    ⟨report, output, (foretells.error_iff _ ofLoading).mpr fails, ?_⟩, (failing _ fails).1⟩
  intro told
  exact foretells.loaded_iff.mp told _ _ ofLoading fails

end Doctor

end KernelForge
