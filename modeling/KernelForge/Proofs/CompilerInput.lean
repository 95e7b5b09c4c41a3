import KernelForge.Proofs.OptionTexts
import KernelForge.Proofs.RunStages
import KernelForge.Proofs.TerminatedText

/-!
Contract: what the compiler is given in a run of a composed command.

Owns: which of the given texts get into which option text, that a zero character in any of
them reaches the arguments and stops the run, and the call of `oclocInvoke` otherwise.

The words of a command besides the two option texts are fixed, or come from the platform
table, and hold no zero character, so the first argument that does is the value of
`-options` or else that of `-internal_options`.

Does not own: what the compiler answers.
-/

namespace KernelForge

namespace Session

instance (text : String) : Decidable (HoldsZero text) :=
  inferInstanceAs (Decidable (_ ∈ _))

/-! ### Zero characters in the option texts -/

theorem holdsZero_append_iff {first second : String} :
    HoldsZero (first ++ second) ↔ HoldsZero first ∨ HoldsZero second := by
  simp only [HoldsZero, String.toList_append, List.mem_append]

theorem holdsZero_configuredPart_iff (configured : Option String) :
    HoldsZero (configuredPart configured) ↔ ∃ text ∈ configured, HoldsZero text := by
  cases configured with
  | none =>
      constructor
      · intro holdsZero
        cases holdsZero
      · rintro ⟨text, isNone, -⟩
        cases isNone
  | some text =>
      have space : ¬ HoldsZero " " := by decide
      simp only [configuredPart, holdsZero_append_iff, space, false_or, Option.mem_def,
        Option.some.injEq, exists_eq_left']

theorem holdsZero_backendPart_iff (backendOptions : List String) :
    HoldsZero (backendPart backendOptions) ↔ ∃ option ∈ backendOptions, HoldsZero option := by
  by_cases noOptions : backendOptions = []
  · rw [noOptions]
    constructor
    · intro holdsZero
      cases holdsZero
    · rintro ⟨option, member, -⟩
      cases member
  · have flag : ¬ HoldsZero " -llvm-options='" := by decide
    have quote : ¬ HoldsZero "'" := by decide
    rw [backendPart_of_ne_nil noOptions]
    simp only [holdsZero_append_iff, flag, quote, false_or, or_false]
    exact mem_toList_intercalate_iff (by decide) backendOptions

theorem holdsZero_featuresPart_iff (features : String) :
    HoldsZero (featuresPart features) ↔ HoldsZero features := by
  by_cases noFeatures : features = ""
  · rw [noFeatures]
    exact Iff.rfl
  · have flag : ¬ HoldsZero " -target-features=" := by decide
    rw [featuresPart_of_ne_empty noFeatures, holdsZero_append_iff]
    simp only [flag, false_or]

theorem not_holdsZero_timePart (timePasses : Bool) : ¬ HoldsZero (timePart timePasses) := by
  cases timePasses <;> decide

/-- Leaving an empty text out leaves no zero character out. -/
theorem holdsZero_composeOptions_iff (configuration : Configuration) :
    HoldsZero (composeOptions configuration) ↔
      ∃ text ∈ configuration.apiOptions, HoldsZero text := by
  have flag : ¬ HoldsZero codegenFlag := by decide
  rw [composeOptions_eq, holdsZero_append_iff, holdsZero_configuredPart_iff]
  simp only [flag, false_or, Configuration.effectiveApiOptions, Option.mem_filter_iff]
  constructor
  · rintro ⟨text, ⟨given, -⟩, holdsZero⟩
    exact ⟨text, given, holdsZero⟩
  · rintro ⟨text, given, holdsZero⟩
    refine ⟨text, ⟨given, bne_iff_ne.mpr ?_⟩, holdsZero⟩
    rintro rfl
    cases holdsZero

end Session

/-- The texts that get into the internal options. -/
def internalTexts (request : Request) (configuration : Configuration) : List String :=
  request.binaryFormat :: request.backendOptions ++
    request.features :: configuration.internalOptions.toList

namespace Session

theorem holdsZero_composeInternalOptions_iff (request : Request) (configuration : Configuration) :
    HoldsZero (composeInternalOptions configuration request.binaryFormat request.backendOptions
        request.features request.timePasses) ↔
      ∃ text ∈ internalTexts request configuration, HoldsZero text := by
  have flag : ¬ HoldsZero " -binary-format=" := by decide
  have time := not_holdsZero_timePart request.timePasses
  rw [composeInternalOptions_eq]
  simp only [holdsZero_append_iff, holdsZero_backendPart_iff, holdsZero_featuresPart_iff,
    holdsZero_configuredPart_iff, flag, time, false_or, or_false]
  simp only [internalTexts, List.cons_append, List.mem_cons, List.mem_append,
    Option.mem_toList, Option.mem_def, or_and_right, exists_or, exists_eq_left]

end Session

/-! ### Zero characters in the arguments -/

namespace Command

variable {request : Request} {configuration : Configuration} {command : Command}

/-- The words of a command up to the name in front of the public options. -/
def leadingWords (device : String) : List String :=
  ["ocloc", "compile", "-device", device, inputFlag, "-file", sourceLabel, "-options"]

/-- The arguments of a composed command, word by word. -/
theorem arguments_eq (composed : compose request configuration = .ok command) :
    ∃ device, Platform.deviceCode request.platform = some device ∧
      command.arguments =
        leadingWords device ++ command.options :: "-internal_options" ::
          command.internalOptions :: (if configuration.debug then [] else ["-q"]) := by
  obtain ⟨device, coded, rfl⟩ := compose_ok_iff.mp composed
  refine ⟨device, coded, ?_⟩
  rw [commandArguments_unrevised]
  cases configuration.debug <;> rfl

theorem leadingWords_passable {id device : String}
    (coded : Platform.deviceCode id = some device) :
    ∀ word ∈ leadingWords device, ¬ Session.HoldsZero word := by
  obtain ⟨platform, found, rfl⟩ := Option.map_eq_some_iff.mp coded
  unfold Platform.lookup at found
  have fromTable : ∀ platform ∈ supportedPlatforms,
      ∀ word ∈ leadingWords platform.device, ¬ Session.HoldsZero word := by decide
  exact fromTable platform (List.mem_of_find?_eq_some found)

/-- Where the first zero character of the arguments is, if there is one. -/
theorem arguments_passable_iff (composed : compose request configuration = .ok command) :
    (∀ argument ∈ command.arguments, ¬ Session.HoldsZero argument) ↔
      ¬ Session.HoldsZero command.options ∧ ¬ Session.HoldsZero command.internalOptions := by
  obtain ⟨device, coded, arguments⟩ := arguments_eq composed
  have leading := leadingWords_passable coded
  have name : ¬ Session.HoldsZero "-internal_options" := by decide
  have quiet : ∀ word ∈ (if configuration.debug then [] else ["-q"]),
      ¬ Session.HoldsZero word := by
    cases configuration.debug <;> decide
  rw [arguments]
  simp only [List.forall_mem_append, List.forall_mem_cons]
  exact ⟨fun ⟨_, options, _, internal, _⟩ => ⟨options, internal⟩,
    fun ⟨options, internal⟩ => ⟨leading, options, name, internal, quiet⟩⟩

theorem refused_of_options (composed : compose request configuration = .ok command)
    (holdsZero : Session.HoldsZero command.options) :
    Session.refusal command.arguments = some (.zeroInArgument command.options) := by
  obtain ⟨device, coded, arguments⟩ := arguments_eq composed
  exact refused_of_holdsZero composed arguments holdsZero (leadingWords_passable coded)

theorem refused_of_internalOptions (composed : compose request configuration = .ok command)
    (passable : ¬ Session.HoldsZero command.options)
    (holdsZero : Session.HoldsZero command.internalOptions) :
    Session.refusal command.arguments = some (.zeroInArgument command.internalOptions) := by
  obtain ⟨device, coded, arguments⟩ := arguments_eq composed
  have name : ¬ Session.HoldsZero "-internal_options" := by decide
  have position : command.arguments =
      (leadingWords device ++ [command.options, "-internal_options"]) ++
        command.internalOptions :: (if configuration.debug then [] else ["-q"]) := by
    rw [arguments, List.append_assoc]
    rfl
  apply refused_of_holdsZero composed position holdsZero
  simp only [List.forall_mem_append, List.forall_mem_cons]
  exact ⟨leadingWords_passable coded, passable, name, fun _ member => nomatch member⟩

/-! ### What is handed over -/

/-- A call hands a command and an IR over in full: as many arguments as there are, each of
them zero-terminated and received as it was composed, the IR as the only source, no
headers, and clear out-parameters. -/
structure HandsOver (command : Command) (debug : Bool) (ir : Bytes) (call : InvokeCall) :
    Prop where
  argumentCount : call.arguments.length = 11 + if debug then 0 else 1
  terminated : ∀ buffer ∈ call.arguments, 0 ∈ buffer
  arguments : call.arguments.map Bytes.untilZero = command.arguments.map Text.Utf8.encode
  source : ∃ source, call.sources = [source] ∧ 0 ∈ source.label ∧
    source.label.untilZero = Text.Utf8.encode "cmoc_spirv" ∧ source.data = ir ∧
    source.length = ir.length
  headers : call.headers = none
  outputs : call.outputs = ⟨0, none, none, none⟩

theorem invokeCall_handsOver (composed : compose request configuration = .ok command)
    (accepted : Session.refusal command.arguments = none) (ir : Bytes) :
    command.HandsOver configuration.debug ir (Session.invokeCall command.arguments ir) := by
  have labelUnbroken : ¬ Session.HoldsZero sourceLabel := by decide
  refine ⟨?_, ?_, Session.invokeCall_arguments_untilZero accepted ir,
    ⟨_, rfl, Session.zero_mem_terminated sourceLabel, Session.untilZero_terminated labelUnbroken,
      rfl, rfl⟩, rfl, rfl⟩
  · obtain ⟨device, -, arguments⟩ := arguments_eq composed
    show (command.arguments.map Session.terminated).length = _
    rw [List.length_map, arguments]
    cases configuration.debug <;> rfl
  · intro buffer member
    obtain ⟨argument, -, rfl⟩ := List.mem_map.mp member
    exact Session.zero_mem_terminated argument

/-- Behind the call of `oclocInvoke` there is no other one. -/
theorem releaseCalls_not_invoke (compiler : DeviceCompiler) (outputs : OutParameters) :
    ∀ call ∈ Session.releaseCalls compiler outputs, call.isInvoke = false := by
  intro call member
  unfold Session.releaseCalls at member
  split at member
  · cases member
  · obtain rfl := List.mem_singleton.mp member
    rfl

/-- **What the compiler is given.** A request for a known platform has a command, and every
run of it, however often it was run before, does one of three things: without a zero
character in any text it calls `oclocInvoke` once and hands everything over; with one in the
text for the public options it is refused for the value of `-options`, and with one only in
another text for that of `-internal_options`, and it calls nothing. It never finds too many
arguments. -/
theorem run_hands_over_everything {request : Request} (configuration : Configuration)
    (known : ∃ platform ∈ supportedPlatforms, platform.id = request.platform) :
    ∃ command, compose request configuration = .ok command ∧
      (∃ leading trailing, command.arguments =
        leading ++ "-options" :: command.options :: "-internal_options" ::
          command.internalOptions :: trailing) ∧
      ∀ (steps : List (DeviceCompiler × Bytes)) (position : Nat) compiler ir,
        steps[position]? = some (compiler, ir) →
        ∃ run, (command.runAll steps)[position]? = some run ∧
          ((¬ ∃ text ∈ configuration.apiOptions, Session.HoldsZero text) →
            (¬ ∃ text ∈ internalTexts request configuration, Session.HoldsZero text) →
            ∃ call others, run.calls = .invoke call (compiler.invoke call) :: others ∧
              (∀ other ∈ others, other.isInvoke = false) ∧
              command.HandsOver configuration.debug ir call) ∧
          ((∃ text ∈ configuration.apiOptions, Session.HoldsZero text) →
            run.result = .error (.contractViolation (.zeroInArgument command.options)) ∧
              run.calls = []) ∧
          ((¬ ∃ text ∈ configuration.apiOptions, Session.HoldsZero text) →
            (∃ text ∈ internalTexts request configuration, Session.HoldsZero text) →
            run.result = .error (.contractViolation (.zeroInArgument command.internalOptions)) ∧
              run.calls = []) ∧
          ∀ count, run.result ≠ .error (.contractViolation (.tooManyArguments count)) := by
  obtain ⟨command, composed⟩ := (exists_compose_iff request configuration).mpr known
  obtain ⟨device, -, arguments⟩ := arguments_eq composed
  have inOptions : Session.HoldsZero command.options ↔
      ∃ text ∈ configuration.apiOptions, Session.HoldsZero text := by
    obtain ⟨_, -, rfl⟩ := compose_ok_iff.mp composed
    exact Session.holdsZero_composeOptions_iff configuration
  have inInternal : Session.HoldsZero command.internalOptions ↔
      ∃ text ∈ internalTexts request configuration, Session.HoldsZero text := by
    obtain ⟨_, -, rfl⟩ := compose_ok_iff.mp composed
    exact Session.holdsZero_composeInternalOptions_iff request configuration
  refine ⟨command, composed, ⟨(leadingWords device).dropLast, _, arguments⟩, ?_⟩
  intro steps position compiler ir atPosition
  refine ⟨command.run compiler ir, ?_, ?_, ?_, ?_,
    run_result_ne_tooManyArguments composed compiler ir⟩
  · rw [runAll, List.getElem?_map, atPosition]
    rfl
  · intro apiFree internalFree
    have passable := (arguments_passable_iff composed).mpr
      ⟨mt inOptions.mp apiFree, mt inInternal.mp internalFree⟩
    have accepted := accepted_of_passable composed passable
    rw [run_calls accepted]
    exact ⟨_, _, rfl, releaseCalls_not_invoke compiler _, invokeCall_handsOver composed accepted ir⟩
  · intro apiHolds
    rw [run_refused (refused_of_options composed (inOptions.mpr apiHolds))]
    exact ⟨rfl, rfl⟩
  · intro apiFree internalHolds
    rw [run_refused (refused_of_internalOptions composed (mt inOptions.mp apiFree)
      (inInternal.mpr internalHolds))]
    exact ⟨rfl, rfl⟩

/-- A zero character in the second backend option stops the second run, too. -/
theorem run_hands_over_everything_but_late_zero :
    let request : Request := ⟨"TGLLP", "cm", "", ["-O2", "-g\x00"], false⟩
    let compiler : DeviceCompiler := ⟨fun _ => ⟨0, none⟩, fun _ => 0⟩
    (∃ platform ∈ supportedPlatforms, platform.id = request.platform) ∧
      ∃ command, compose request .initial = .ok command ∧
        ∃ run, (command.runAll [(compiler, [3]), (compiler, [0])])[1]? = some run ∧
          run.result = .error (.contractViolation (.zeroInArgument command.internalOptions)) ∧
          run.calls = [] := by
  intro request compiler
  have known : ∃ platform ∈ supportedPlatforms, platform.id = request.platform := by decide
  have apiFree : ¬ ∃ text ∈ Configuration.initial.apiOptions, Session.HoldsZero text := by
    rintro ⟨text, isNone, -⟩
    cases isNone
  have internalHolds : ∃ text ∈ internalTexts request .initial, Session.HoldsZero text := by
    decide
  obtain ⟨command, composed, -, runs⟩ := run_hands_over_everything .initial known
  obtain ⟨run, atPosition, -, -, refused, -⟩ :=
    runs [(compiler, [3]), (compiler, [0])] 1 compiler [0] rfl
  exact ⟨known, command, composed, run, atPosition, refused apiFree internalHolds⟩

end Command

end KernelForge
