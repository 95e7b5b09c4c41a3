import KernelForge.Command

/-!
Contract: what a composed command looks like.

Owns: when composing succeeds, and the argument list that it then gives.

Does not own: running the command.
-/

namespace KernelForge.Command

variable {request : Request} {configuration : Configuration} {command : Command}

/-- The arguments for a device: a request names no revision, so eleven are fixed and a
twelfth keeps the compiler quiet. -/
theorem commandArguments_unrevised (device id options internalOptions : String) (quiet : Bool) :
    commandArguments device (Revision.ofPlatform id) options internalOptions quiet =
      ["ocloc", "compile", "-device", device, inputFlag, "-file", sourceLabel, "-options",
       options, "-internal_options", internalOptions] ++ (if quiet then ["-q"] else []) :=
  rfl

theorem compose_ok_iff :
    compose request configuration = .ok command ↔
      ∃ device, Platform.deviceCode request.platform = some device ∧
        command =
          ⟨commandArguments device (Revision.ofPlatform request.platform)
              (composeOptions configuration)
              (composeInternalOptions configuration request.binaryFormat
                request.backendOptions request.features request.timePasses)
              (!configuration.debug),
            composeOptions configuration,
            composeInternalOptions configuration request.binaryFormat request.backendOptions
              request.features request.timePasses⟩ := by
  unfold compose
  cases Platform.deviceCode request.platform with
  | none => simp
  | some device =>
      simp only [Except.ok.injEq, Option.some.injEq, exists_eq_left']
      exact eq_comm

theorem compose_arguments_length (composed : compose request configuration = .ok command) :
    command.arguments.length ≤ 12 := by
  obtain ⟨device, -, rfl⟩ := compose_ok_iff.mp composed
  cases configuration.debug <;>
    simp [commandArguments_unrevised]

/-- Composing needs a known platform and nothing else. -/
theorem exists_compose_iff (request : Request) (configuration : Configuration) :
    (∃ command, compose request configuration = .ok command) ↔
      ∃ platform ∈ supportedPlatforms, platform.id = request.platform := by
  constructor
  · rintro ⟨command, composed⟩
    obtain ⟨device, coded, -⟩ := compose_ok_iff.mp composed
    obtain ⟨platform, found, -⟩ := Option.map_eq_some_iff.mp coded
    unfold Platform.lookup at found
    have sameId := List.find?_some found
    exact ⟨platform, List.mem_of_find?_eq_some found, beq_iff_eq.mp sameId⟩
  · rintro ⟨platform, member, sameId⟩
    cases found : Platform.lookup request.platform with
    | none =>
        have different := List.find?_eq_none.mp found platform member
        exact absurd (beq_iff_eq.mpr sameId) different
    | some platform =>
        have coded : Platform.deviceCode request.platform = some platform.device := by
          rw [Platform.deviceCode, found, Option.map_some]
        exact ⟨_, compose_ok_iff.mpr ⟨platform.device, coded, rfl⟩⟩

end KernelForge.Command
