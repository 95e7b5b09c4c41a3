import KernelForge.Proofs.ComposedCommand
import KernelForge.Proofs.OptionTexts

/-!
Contract: the arguments of a composed command determine the request.

Owns: which requests are well-formed, that a device code belongs to one platform, and
reading the request and the settings that matter back from the arguments.

The configured text of the internal options has to be known, for nothing marks where it
begins: a text that names target features gives the same arguments as these features.

Does not own: how the option texts are cut; that is `KernelForge.Proofs.OptionTexts`.
-/

namespace KernelForge

/-- The texts of a request can be told apart in the option texts: no space separates
parts of one text, and no backend option closes the quotes around it. -/
structure Request.WellFormed (request : Request) : Prop where
  binaryFormat : ' ' ∉ request.binaryFormat.toList
  features : ' ' ∉ request.features.toList
  backendOptions :
    ∀ option ∈ request.backendOptions, ' ' ∉ option.toList ∧ backendQuote ∉ option.toList

instance (request : Request) : Decidable request.WellFormed :=
  decidable_of_iff
    (' ' ∉ request.binaryFormat.toList ∧ ' ' ∉ request.features.toList ∧
      ∀ option ∈ request.backendOptions, ' ' ∉ option.toList ∧ backendQuote ∉ option.toList)
    ⟨fun holds => ⟨holds.1, holds.2.1, holds.2.2⟩,
      fun formed => ⟨formed.binaryFormat, formed.features, formed.backendOptions⟩⟩

/-- A device code belongs to one platform. -/
theorem Platform.deviceCode_inj {first second device : String}
    (firstCoded : Platform.deviceCode first = some device)
    (secondCoded : Platform.deviceCode second = some device) : first = second := by
  have entry : ∀ {id : String}, Platform.deviceCode id = some device →
      ∃ platform ∈ supportedPlatforms, platform.id = id ∧ platform.device = device := by
    intro id coded
    obtain ⟨platform, found, sameDevice⟩ := Option.map_eq_some_iff.mp coded
    unfold Platform.lookup at found
    have sameId := List.find?_some found
    exact ⟨platform, List.mem_of_find?_eq_some found, beq_iff_eq.mp sameId, sameDevice⟩
  have distinct : ∀ platform ∈ supportedPlatforms, ∀ other ∈ supportedPlatforms,
      platform.device = other.device → platform = other := by decide
  obtain ⟨platform, member, rfl, rfl⟩ := entry firstCoded
  obtain ⟨other, otherMember, rfl, sameDevice⟩ := entry secondCoded
  rw [distinct platform member other otherMember sameDevice.symm]

/-- The internal options determine the four texts of a well-formed request in them. -/
theorem composeInternalOptions_inj {first second : Request}
    {firstConfiguration secondConfiguration : Configuration}
    (firstFormed : first.WellFormed) (secondFormed : second.WellFormed)
    (sameConfigured : firstConfiguration.internalOptions = secondConfiguration.internalOptions)
    (same :
      composeInternalOptions firstConfiguration first.binaryFormat first.backendOptions
          first.features first.timePasses =
        composeInternalOptions secondConfiguration second.binaryFormat second.backendOptions
          second.features second.timePasses) :
    first.binaryFormat = second.binaryFormat ∧ first.backendOptions = second.backendOptions ∧
      first.features = second.features ∧ first.timePasses = second.timePasses := by
  rw [composeInternalOptions_eq, composeInternalOptions_eq, sameConfigured,
    String.append_right_inj] at same
  have configuredOpens := opensWith_configuredPart secondConfiguration.internalOptions
  have restOpens : ∀ request : Request, OpensWith ' '
      (backendPart request.backendOptions ++ (featuresPart request.features ++
        (configuredPart secondConfiguration.internalOptions ++ timePart request.timePasses))) :=
    fun request =>
      (opensWith_backendPart _).append ((opensWith_featuresPart _).append
        (configuredOpens.append (opensWith_timePart _)))
  obtain ⟨sameFormat, afterFormat⟩ := append_inj_of_opensWith firstFormed.binaryFormat
    secondFormed.binaryFormat (restOpens first) (restOpens second) same
  have sameBackend := backendPart_inj firstFormed.backendOptions secondFormed.backendOptions
    afterFormat
  rw [sameBackend, String.append_right_inj] at afterFormat
  have sameFeatures := featuresPart_inj firstFormed.features secondFormed.features
    configuredOpens afterFormat
  rw [sameFeatures, String.append_right_inj, String.append_right_inj] at afterFormat
  exact ⟨sameFormat, sameBackend, sameFeatures, timePart_inj afterFormat⟩

namespace Command

/-- Equal argument lists have equal devices, option texts and quietness. -/
theorem commandArguments_inj {device otherDevice id otherId options otherOptions internalOptions
    otherInternalOptions : String} {quiet otherQuiet : Bool} :
    commandArguments device (Revision.ofPlatform id) options internalOptions quiet =
        commandArguments otherDevice (Revision.ofPlatform otherId) otherOptions
          otherInternalOptions otherQuiet ↔
      device = otherDevice ∧ options = otherOptions ∧ internalOptions = otherInternalOptions ∧
        quiet = otherQuiet := by
  rw [commandArguments_unrevised, commandArguments_unrevised]
  cases quiet <;> cases otherQuiet <;> simp

/-- **The arguments determine the request.** Two well-formed requests for known platforms,
composed under settings with the same configured text for the internal options, give the
same arguments exactly if they are the same request and the settings agree on the debug
mode and on the text that is added to the public options. -/
theorem composed_arguments_eq_iff {σ τ : Type} (firstWriter : Writer σ) (firstState : σ)
    (secondWriter : Writer τ) (secondState : τ) {first second : Request}
    {firstConfiguration secondConfiguration : Configuration}
    (firstFormed : first.WellFormed) (secondFormed : second.WellFormed)
    (firstKnown : ∃ platform ∈ supportedPlatforms, platform.id = first.platform)
    (secondKnown : ∃ platform ∈ supportedPlatforms, platform.id = second.platform)
    (sameConfigured : firstConfiguration.internalOptions = secondConfiguration.internalOptions) :
    ∃ firstCommand secondCommand,
      (composeEchoing firstWriter firstState first firstConfiguration).2 = .ok firstCommand ∧
      (composeEchoing secondWriter secondState second secondConfiguration).2 =
        .ok secondCommand ∧
      (firstCommand.arguments = secondCommand.arguments ↔
        first = second ∧ firstConfiguration.debug = secondConfiguration.debug ∧
          firstConfiguration.effectiveApiOptions = secondConfiguration.effectiveApiOptions) := by
  obtain ⟨firstCommand, firstComposed⟩ :=
    (exists_compose_iff first firstConfiguration).mpr firstKnown
  obtain ⟨secondCommand, secondComposed⟩ :=
    (exists_compose_iff second secondConfiguration).mpr secondKnown
  refine ⟨firstCommand, secondCommand, ?_, ?_, ?_⟩
  · rw [composeEchoing_snd, firstComposed]
  · rw [composeEchoing_snd, secondComposed]
  obtain ⟨firstDevice, firstCoded, rfl⟩ := compose_ok_iff.mp firstComposed
  obtain ⟨secondDevice, secondCoded, rfl⟩ := compose_ok_iff.mp secondComposed
  rw [commandArguments_inj, composeOptions_inj]
  constructor
  · rintro ⟨rfl, sameApi, sameInternal, sameQuiet⟩
    have samePlatform := Platform.deviceCode_inj firstCoded secondCoded
    obtain ⟨sameFormat, sameBackend, sameFeatures, sameTime⟩ :=
      composeInternalOptions_inj firstFormed secondFormed sameConfigured sameInternal
    refine ⟨?_, Bool.not_inj sameQuiet, sameApi⟩
    cases first
    cases second
    simp only at samePlatform sameFormat sameBackend sameFeatures sameTime
    rw [samePlatform, sameFormat, sameBackend, sameFeatures, sameTime]
  · rintro ⟨rfl, sameDebug, sameApi⟩
    have sameDevice := Option.some.inj (firstCoded.symm.trans secondCoded)
    refine ⟨sameDevice, sameApi, ?_, ?_⟩
    · unfold composeInternalOptions
      rw [sameConfigured]
    · rw [sameDebug]

/-- An empty added text changes nothing, and a configured text that repeats the timing
flag hides neither that flag nor a list of one empty backend option. -/
theorem composed_arguments_eq_iff_beside_repeated_flag :
    let settings : Configuration := ⟨none, some "", some "-ftime-report", false⟩
    let bare : Configuration := ⟨none, none, some "-ftime-report", false⟩
    let request : Request := ⟨"TGLLP", "cm", "", [""], false⟩
    let other : Request := ⟨"TGLLP", "cm", "", [], true⟩
    request.WellFormed ∧ other.WellFormed ∧
      (∃ command bareCommand,
        (composeEchoing .unlimited [] request settings).2 = .ok command ∧
        (composeEchoing .unlimited [] request bare).2 = .ok bareCommand ∧
        command.arguments = bareCommand.arguments) ∧
      ∃ command otherCommand,
        (composeEchoing .unlimited [] request settings).2 = .ok command ∧
        (composeEchoing .unlimited [] other settings).2 = .ok otherCommand ∧
        command.arguments ≠ otherCommand.arguments := by
  intro settings bare request other
  have formed : request.WellFormed := by decide
  have otherFormed : other.WellFormed := by decide
  have known : ∃ platform ∈ supportedPlatforms, platform.id = "TGLLP" := by decide
  refine ⟨formed, otherFormed, ?_, ?_⟩
  · obtain ⟨command, bareCommand, composed, bareComposed, same⟩ :=
      composed_arguments_eq_iff .unlimited [] .unlimited [] formed formed known known
        (rfl : settings.internalOptions = bare.internalOptions)
    exact ⟨command, bareCommand, composed, bareComposed, same.mpr ⟨rfl, rfl, rfl⟩⟩
  · obtain ⟨command, otherCommand, composed, otherComposed, same⟩ :=
      composed_arguments_eq_iff .unlimited [] .unlimited [] formed otherFormed known known
        (rfl : settings.internalOptions = settings.internalOptions)
    refine ⟨command, otherCommand, composed, otherComposed, fun equal => ?_⟩
    exact absurd (same.mp equal).1 (by decide)

end Command

end KernelForge
