import KernelForge.Library
import KernelForge.Proofs.OutputRelease
import KernelForge.Proofs.RunStages

/-!
Contract: a compilation ends with its first failing stage.

Owns: the stages of a compilation in their order, that a compilation has exactly the outcome
of the first one that fails, and which paths it opens and which calls it makes until then.

`CompilationOutcome` says in each case that every earlier stage succeeds and leaves the later
ones open, so it holds whatever else is broken. The loader is a function of the path alone.

Does not own: the stages of the run itself, which are those of
`KernelForge.Proofs.RunStages`.
-/

namespace KernelForge

/-! ### Loading the library -/

/-- Every stage in front of the run succeeds: the command is composed, the library is
opened, and both entry points are found in it. -/
structure Loads (loader : Loader) (request : Request) (configuration : Configuration)
    (command : Command) (image : LibraryImage) : Prop where
  composed : Command.compose request configuration = .ok command
  opened : loader (libraryPath configuration) = .ok image
  invokeFound : image.missing .invoke = none
  freeFound : image.missing .freeOutput = none

namespace Library

variable {loader : Loader} {configuration : Configuration} {image : LibraryImage}

theorem load_of_refused {reason : String}
    (refused : loader (libraryPath configuration) = .error reason) :
    (load loader configuration).result =
      .error (.libraryLoad (libraryPath configuration) reason) := by
  simp only [load, loadFrom, refused]

/-- The compiler is looked for before the release, so it is what is missing if both are. -/
theorem load_of_invokeMissing (opened : loader (libraryPath configuration) = .ok image)
    (missing : image.missing .invoke ≠ none) :
    (load loader configuration).result = .error (.symbolMissing .invoke) := by
  obtain ⟨reason, said⟩ := Option.ne_none_iff_exists'.mp missing
  simp only [load, loadFrom, opened, resolve, said, Except.map]

theorem load_of_freeMissing (opened : loader (libraryPath configuration) = .ok image)
    (found : image.missing .invoke = none) (missing : image.missing .freeOutput ≠ none) :
    (load loader configuration).result = .error (.symbolMissing .freeOutput) := by
  obtain ⟨reason, said⟩ := Option.ne_none_iff_exists'.mp missing
  simp only [load, loadFrom, opened, resolve, found, said, Except.map]

theorem load_of_found (opened : loader (libraryPath configuration) = .ok image)
    (invokeFound : image.missing .invoke = none) (freeFound : image.missing .freeOutput = none) :
    (load loader configuration).result =
      .ok ⟨libraryPath configuration, image.compiler⟩ := by
  simp only [load, loadFrom, opened, resolve, invokeFound, freeFound, Except.map]

/-- A library that is loaded is the image at its path. -/
theorem load_ok {library : Library} (loaded : (load loader configuration).result = .ok library) :
    ∃ image, loader (libraryPath configuration) = .ok image ∧
      library = ⟨libraryPath configuration, image.compiler⟩ := by
  unfold load loadFrom at loaded
  split at loaded
  · cases loaded
  · next image opened =>
      refine ⟨image, opened, ?_⟩
      cases resolved : (resolve image [.invoke, .freeOutput]).2 with
      | error failure => simp [resolved, Except.map] at loaded
      | ok found =>
          simp only [resolved, Except.map, Except.ok.injEq] at loaded
          exact loaded.symm

end Library

/-! ### The stages of a compilation -/

section Stages

variable {σ : Type} {writer : Writer σ} {state : σ} {loader : Loader} {request : Request}
  {configuration : Configuration} {ir : Bytes}

/-- The outcome of a compilation: the first of its stages that fails, or a device binary. -/
inductive CompilationOutcome (loader : Loader) (request : Request)
    (configuration : Configuration) (ir : Bytes) : Except Failure DeviceBinary → Prop
  | unmapped
      (unknown : ∀ platform ∈ supportedPlatforms, platform.id ≠ request.platform) :
      CompilationOutcome loader request configuration ir
        (.error (.contractViolation (.unmappedPlatform request.platform)))
  | unopened
      (known : ∃ platform ∈ supportedPlatforms, platform.id = request.platform)
      (reason : String) (refused : loader (libraryPath configuration) = .error reason) :
      CompilationOutcome loader request configuration ir
        (.error (.libraryLoad (libraryPath configuration) reason))
  | invokeMissing
      (known : ∃ platform ∈ supportedPlatforms, platform.id = request.platform)
      (image : LibraryImage) (opened : loader (libraryPath configuration) = .ok image)
      (missing : image.missing .invoke ≠ none) :
      CompilationOutcome loader request configuration ir (.error (.symbolMissing .invoke))
  | freeMissing
      (known : ∃ platform ∈ supportedPlatforms, platform.id = request.platform)
      (image : LibraryImage) (opened : loader (libraryPath configuration) = .ok image)
      (found : image.missing .invoke = none) (missing : image.missing .freeOutput ≠ none) :
      CompilationOutcome loader request configuration ir (.error (.symbolMissing .freeOutput))
  | zeroInArgument (command : Command) (image : LibraryImage)
      (loads : Loads loader request configuration command image)
      (before : List String) (argument : String) (after : List String)
      (position : command.arguments = before ++ argument :: after)
      (holdsZero : Session.HoldsZero argument)
      (earlier : ∀ other ∈ before, ¬ Session.HoldsZero other) :
      CompilationOutcome loader request configuration ir
        (.error (.contractViolation (.zeroInArgument argument)))
  | invokeFailed (command : Command) (image : LibraryImage)
      (loads : Loads loader request configuration command image)
      (passable : ∀ argument ∈ command.arguments, ¬ Session.HoldsZero argument)
      (failed : (command.reply image.compiler ir).status ≠ 0) :
      CompilationOutcome loader request configuration ir
        (.error (.foreignCallFailed .invoke (command.reply image.compiler ir).status))
  | unreadable (command : Command) (image : LibraryImage)
      (loads : Loads loader request configuration command image)
      (passable : ∀ argument ∈ command.arguments, ¬ Session.HoldsZero argument)
      (succeeded : (command.reply image.compiler ir).status = 0)
      (violation : Violation)
      (broken : (command.leftOutputs image.compiler ir).extract = .error violation) :
      CompilationOutcome loader request configuration ir (.error (.contractViolation violation))
  | releaseFailed (command : Command) (image : LibraryImage)
      (loads : Loads loader request configuration command image)
      (passable : ∀ argument ∈ command.arguments, ¬ Session.HoldsZero argument)
      (succeeded : (command.reply image.compiler ir).status = 0)
      (binary : DeviceBinary)
      (extracted : (command.leftOutputs image.compiler ir).extract = .ok binary)
      (failed : image.compiler.free (command.leftOutputs image.compiler ir) ≠ 0) :
      CompilationOutcome loader request configuration ir
        (.error (.foreignCallFailed .freeOutput
          (image.compiler.free (command.leftOutputs image.compiler ir))))
  | compiled (command : Command) (image : LibraryImage)
      (loads : Loads loader request configuration command image)
      (passable : ∀ argument ∈ command.arguments, ¬ Session.HoldsZero argument)
      (succeeded : (command.reply image.compiler ir).status = 0)
      (binary : DeviceBinary)
      (extracted : (command.leftOutputs image.compiler ir).extract = .ok binary)
      (freed : image.compiler.free (command.leftOutputs image.compiler ir) = 0) :
      CompilationOutcome loader request configuration ir (.ok binary)

theorem compose_of_unknown
    (unknown : ∀ platform ∈ supportedPlatforms, platform.id ≠ request.platform) :
    Command.compose request configuration =
      .error (.contractViolation (.unmappedPlatform request.platform)) := by
  have notFound : Platform.lookup request.platform = none := by
    apply List.find?_eq_none.mpr
    intro platform member
    simpa using unknown platform member
  simp only [Command.compose, Platform.deviceCode, notFound, Option.map_none]

/-! ### What each stage does -/

theorem compileIR_of_uncomposed {failure : Failure}
    (uncomposed : Command.compose request configuration = .error failure) :
    (compileIR writer state loader request configuration ir).result = .error failure ∧
      (compileIR writer state loader request configuration ir).opened = [] ∧
      (compileIR writer state loader request configuration ir).calls = [] := by
  rw [← Command.composeEchoing_snd writer state] at uncomposed
  unfold compileIR
  cases composing : Command.composeEchoing writer state request configuration with
  | mk echo composed =>
      rw [composing] at uncomposed
      simp only at uncomposed
      subst uncomposed
      exact ⟨rfl, rfl, rfl⟩

theorem compileIR_of_composed {command : Command}
    (composed : Command.compose request configuration = .ok command) :
    (compileIR writer state loader request configuration ir).opened =
        [libraryPath configuration] ∧
      (∀ failure, (Library.load loader configuration).result = .error failure →
        (compileIR writer state loader request configuration ir).result = .error failure ∧
          (compileIR writer state loader request configuration ir).calls = []) ∧
      ∀ library, (Library.load loader configuration).result = .ok library →
        (compileIR writer state loader request configuration ir).result =
            (command.run library.compiler ir).result ∧
          (compileIR writer state loader request configuration ir).calls =
            (command.run library.compiler ir).calls := by
  rw [← Command.composeEchoing_snd writer state] at composed
  unfold compileIR
  cases composing : Command.composeEchoing writer state request configuration with
  | mk echo result =>
      rw [composing] at composed
      simp only at composed
      subst composed
      refine ⟨?_, fun failure unloaded => ?_, fun library loaded => ?_⟩
      · cases loading : (Library.load loader configuration).result <;> simp only [loading]
      · simp only [unloaded, and_self]
      · simp only [loaded, and_self]

theorem compileIR_of_unloaded {command : Command} {failure : Failure}
    (composed : Command.compose request configuration = .ok command)
    (unloaded : (Library.load loader configuration).result = .error failure) :
    (compileIR writer state loader request configuration ir).result = .error failure ∧
      (compileIR writer state loader request configuration ir).calls = [] :=
  (compileIR_of_composed composed).2.1 failure unloaded

theorem compileIR_of_loads {command : Command} {image : LibraryImage}
    (loads : Loads loader request configuration command image) :
    (compileIR writer state loader request configuration ir).result =
        (command.run image.compiler ir).result ∧
      (compileIR writer state loader request configuration ir).calls =
        (command.run image.compiler ir).calls :=
  (compileIR_of_composed loads.composed).2.2 _
    (Library.load_of_found loads.opened loads.invokeFound loads.freeFound)

/-! ### One of the stages decides -/

/-- How far a compilation gets before its command is run, if it is. -/
inductive Approach (loader : Loader) (request : Request) (configuration : Configuration) : Prop
  | unmapped (unknown : ∀ platform ∈ supportedPlatforms, platform.id ≠ request.platform)
  | unopened (command : Command)
      (composed : Command.compose request configuration = .ok command) (reason : String)
      (refused : loader (libraryPath configuration) = .error reason)
  | invokeMissing (command : Command)
      (composed : Command.compose request configuration = .ok command) (image : LibraryImage)
      (opened : loader (libraryPath configuration) = .ok image)
      (missing : image.missing .invoke ≠ none)
  | freeMissing (command : Command)
      (composed : Command.compose request configuration = .ok command) (image : LibraryImage)
      (opened : loader (libraryPath configuration) = .ok image)
      (found : image.missing .invoke = none) (missing : image.missing .freeOutput ≠ none)
  | loads (command : Command) (image : LibraryImage)
      (loads : Loads loader request configuration command image)

theorem approach (loader : Loader) (request : Request) (configuration : Configuration) :
    Approach loader request configuration := by
  by_cases known : ∃ platform ∈ supportedPlatforms, platform.id = request.platform
  · obtain ⟨command, composed⟩ := (Command.exists_compose_iff request configuration).mpr known
    cases opened : loader (libraryPath configuration) with
    | error reason => exact .unopened command composed reason opened
    | ok image =>
        by_cases invokeFound : image.missing .invoke = none
        · by_cases freeFound : image.missing .freeOutput = none
          · exact .loads command image ⟨composed, opened, invokeFound, freeFound⟩
          · exact .freeMissing command composed image opened invokeFound freeFound
        · exact .invokeMissing command composed image opened invokeFound
  · simp only [not_exists, not_and] at known
    exact .unmapped known

/-- The stages of the run itself. -/
theorem outcome_of_loads {command : Command} {image : LibraryImage}
    (loads : Loads loader request configuration command image) (ir : Bytes) :
    CompilationOutcome loader request configuration ir (command.run image.compiler ir).result := by
  rcases Command.holdsZero_or_passable command.arguments with
    ⟨before, argument, after, position, holdsZero, earlier⟩ | passable
  · have refusal :=
      Command.refused_of_holdsZero loads.composed position holdsZero earlier
    rw [Command.run_refused refusal]
    exact .zeroInArgument command image loads before argument after position holdsZero earlier
  · have accepted := Command.accepted_of_passable loads.composed passable
    rw [Command.run_result_extract accepted]
    by_cases succeeded : (command.reply image.compiler ir).status = 0
    · rw [if_pos succeeded]
      cases extracted : (command.leftOutputs image.compiler ir).extract with
      | error violation =>
          exact .unreadable command image loads passable succeeded violation extracted
      | ok binary =>
          simp only
          split
          · next freed =>
              exact .compiled command image loads passable succeeded binary extracted freed
          · next failed =>
              exact .releaseFailed command image loads passable succeeded binary extracted failed
    · rw [if_neg succeeded]
      exact .invokeFailed command image loads passable succeeded

theorem outcome_compileIR (writer : Writer σ) (state : σ) (loader : Loader) (request : Request)
    (configuration : Configuration) (ir : Bytes) :
    CompilationOutcome loader request configuration ir
      (compileIR writer state loader request configuration ir).result := by
  cases approach loader request configuration with
  | unmapped unknown =>
      rw [(compileIR_of_uncomposed (compose_of_unknown unknown)).1]
      exact .unmapped unknown
  | unopened command composed reason refused =>
      have known := (Command.exists_compose_iff _ _).mp ⟨command, composed⟩
      rw [(compileIR_of_unloaded composed (Library.load_of_refused refused)).1]
      exact .unopened known reason refused
  | invokeMissing command composed image opened missing =>
      have known := (Command.exists_compose_iff _ _).mp ⟨command, composed⟩
      rw [(compileIR_of_unloaded composed (Library.load_of_invokeMissing opened missing)).1]
      exact .invokeMissing known image opened missing
  | freeMissing command composed image opened found missing =>
      have known := (Command.exists_compose_iff _ _).mp ⟨command, composed⟩
      rw [(compileIR_of_unloaded composed (Library.load_of_freeMissing opened found missing)).1]
      exact .freeMissing known image opened found missing
  | loads command image loads =>
      rw [(compileIR_of_loads loads).1]
      exact outcome_of_loads loads ir

/-- An outcome names the result: whatever the later stages are, they change nothing. -/
theorem result_of_outcome {result : Except Failure DeviceBinary}
    (outcome : CompilationOutcome loader request configuration ir result) :
    (compileIR writer state loader request configuration ir).result = result := by
  cases outcome with
  | unmapped unknown => exact (compileIR_of_uncomposed (compose_of_unknown unknown)).1
  | unopened known reason refused =>
      obtain ⟨command, composed⟩ := (Command.exists_compose_iff request configuration).mpr known
      exact (compileIR_of_unloaded composed (Library.load_of_refused refused)).1
  | invokeMissing known image opened missing =>
      obtain ⟨command, composed⟩ := (Command.exists_compose_iff request configuration).mpr known
      exact (compileIR_of_unloaded composed (Library.load_of_invokeMissing opened missing)).1
  | freeMissing known image opened found missing =>
      obtain ⟨command, composed⟩ := (Command.exists_compose_iff request configuration).mpr known
      exact (compileIR_of_unloaded composed (Library.load_of_freeMissing opened found missing)).1
  | zeroInArgument command image loads before argument after position holdsZero earlier =>
      have refusal := Command.refused_of_holdsZero loads.composed position holdsZero earlier
      rw [(compileIR_of_loads loads).1, Command.run_refused refusal]
  | invokeFailed command image loads passable failed =>
      have accepted := Command.accepted_of_passable loads.composed passable
      rw [(compileIR_of_loads loads).1, Command.run_result_extract accepted, if_neg failed]
  | unreadable command image loads passable succeeded violation broken =>
      have accepted := Command.accepted_of_passable loads.composed passable
      rw [(compileIR_of_loads loads).1, Command.run_result_extract accepted, if_pos succeeded,
        broken]
  | releaseFailed command image loads passable succeeded binary extracted failed =>
      have accepted := Command.accepted_of_passable loads.composed passable
      rw [(compileIR_of_loads loads).1, Command.run_result_extract accepted, if_pos succeeded,
        extracted]
      exact if_neg failed
  | compiled command image loads passable succeeded binary extracted freed =>
      have accepted := Command.accepted_of_passable loads.composed passable
      rw [(compileIR_of_loads loads).1, Command.run_result_extract accepted, if_pos succeeded,
        extracted]
      exact if_pos freed

/-! ### Paths and calls -/

theorem opened_of_unknown
    (unknown : ∀ platform ∈ supportedPlatforms, platform.id ≠ request.platform) :
    (compileIR writer state loader request configuration ir).opened = [] :=
  (compileIR_of_uncomposed (compose_of_unknown unknown)).2.1

/-- The calls are those of one run, or there are none. -/
theorem calls_of_approach (writer : Writer σ) (state : σ) (loader : Loader) (request : Request)
    (configuration : Configuration) (ir : Bytes) :
    (compileIR writer state loader request configuration ir).calls = [] ∨
      ∃ command image, Loads loader request configuration command image ∧
        (compileIR writer state loader request configuration ir).calls =
          (command.run image.compiler ir).calls := by
  cases approach loader request configuration with
  | unmapped unknown => exact .inl (compileIR_of_uncomposed (compose_of_unknown unknown)).2.2
  | unopened command composed reason refused =>
      exact .inl (compileIR_of_unloaded composed (Library.load_of_refused refused)).2
  | invokeMissing command composed image opened missing =>
      exact .inl
        (compileIR_of_unloaded composed (Library.load_of_invokeMissing opened missing)).2
  | freeMissing command composed image opened found missing =>
      exact .inl
        (compileIR_of_unloaded composed (Library.load_of_freeMissing opened found missing)).2
  | loads command image loads => exact .inr ⟨command, image, loads, (compileIR_of_loads loads).2⟩

theorem invokes_compileIR_le_one (writer : Writer σ) (state : σ) (loader : Loader)
    (request : Request) (configuration : Configuration) (ir : Bytes) :
    (compileIR writer state loader request configuration ir).calls.countP
      ForeignCall.isInvoke ≤ 1 := by
  rcases calls_of_approach writer state loader request configuration ir with
    uncalled | ⟨command, image, -, called⟩
  · rw [uncalled]
    exact Nat.zero_le 1
  · rw [called]
    exact (run_accounted command image.compiler ir).invokes_le_one

/-- Whatever is called, `oclocInvoke` is called, and every argument can be handed over. -/
theorem passable_of_calls_ne_nil
    (called : (compileIR writer state loader request configuration ir).calls ≠ []) :
    ∃ command image, Loads loader request configuration command image ∧
      ∀ argument ∈ command.arguments, ¬ Session.HoldsZero argument := by
  rcases calls_of_approach writer state loader request configuration ir with
    uncalled | ⟨command, image, loads, calls⟩
  · exact absurd uncalled called
  · refine ⟨command, image, loads, ?_⟩
    cases refused : Session.refusal command.arguments with
    | some violation =>
        rw [calls, Command.run_refused refused] at called
        exact absurd rfl called
    | none => exact Session.refusal_none refused

theorem invoke_mem_of_passable {command : Command} {image : LibraryImage}
    (loads : Loads loader request configuration command image)
    (passable : ∀ argument ∈ command.arguments, ¬ Session.HoldsZero argument) :
    ∃ call reply,
      .invoke call reply ∈ (compileIR writer state loader request configuration ir).calls := by
  have accepted := Command.accepted_of_passable loads.composed passable
  rw [(compileIR_of_loads loads).2, Command.run_calls accepted]
  exact ⟨_, _, List.mem_cons_self⟩

/-- **A compilation ends with its first failing stage.** Its result is the outcome of the
first stage that fails, and a device binary only if none does; once the library is loaded,
it is what the run of the command gives. A path is opened exactly if the platform is known,
and only that of the library; `oclocInvoke` is called at most once, exactly if every stage
before succeeds and no argument holds a zero character, and otherwise nothing is called. -/
theorem compileIR_ends_at_first_failure (writer : Writer σ) (state : σ) (loader : Loader)
    (request : Request) (configuration : Configuration) (ir : Bytes) :
    let compilation := compileIR writer state loader request configuration ir
    (∀ result, compilation.result = result ↔
      CompilationOutcome loader request configuration ir result) ∧
    (∀ command image, Loads loader request configuration command image →
      compilation.result = (command.run image.compiler ir).result ∧
        compilation.calls = (command.run image.compiler ir).calls) ∧
    ((∀ platform ∈ supportedPlatforms, platform.id ≠ request.platform) →
      compilation.opened = []) ∧
    ((∃ platform ∈ supportedPlatforms, platform.id = request.platform) →
      compilation.opened = [libraryPath configuration]) ∧
    compilation.calls.countP ForeignCall.isInvoke ≤ 1 ∧
    ((∃ call reply, .invoke call reply ∈ compilation.calls) ↔
      ∃ command image, Loads loader request configuration command image ∧
        ∀ argument ∈ command.arguments, ¬ Session.HoldsZero argument) ∧
    ((¬ ∃ call reply, .invoke call reply ∈ compilation.calls) → compilation.calls = []) ∧
    (∀ id, (Violation.unmappedPlatform id).detail = "unexpected CPU model '" ++ id ++ "'") := by
  intro compilation
  refine ⟨fun result => ⟨?_, result_of_outcome⟩, fun command image loads => ?_,
    opened_of_unknown, fun known => ?_,
    invokes_compileIR_le_one writer state loader request configuration ir, ⟨?_, ?_⟩, ?_,
    fun id => rfl⟩
  · rintro rfl
    exact outcome_compileIR writer state loader request configuration ir
  · exact ⟨(compileIR_of_loads loads).1, (compileIR_of_loads loads).2⟩
  · obtain ⟨command, composed⟩ := (Command.exists_compose_iff request configuration).mpr known
    exact (compileIR_of_composed composed).1
  · rintro ⟨call, reply, called⟩
    exact passable_of_calls_ne_nil (List.ne_nil_of_mem called)
  · rintro ⟨command, image, loads, passable⟩
    exact invoke_mem_of_passable loads passable
  · intro uninvoked
    apply Decidable.byContradiction
    intro called
    obtain ⟨command, image, loads, passable⟩ := passable_of_calls_ne_nil called
    exact uninvoked (invoke_mem_of_passable loads passable)

end Stages

end KernelForge
