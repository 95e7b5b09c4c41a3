import KernelForge.Proofs.RunOutcome

/-!
Contract: the stages of a run of a composed command.

Owns: reading the outputs as one stage with a device binary or a violation, when a composed
command is refused, and the result of a run that is not refused, stage by stage.

Does not own: which position of the arrays breaks which promise; that is
`KernelForge.Proofs.RunOutcome`.
-/

namespace KernelForge

/-! ### Reading the outputs as one stage -/

/-- The device binary in out-parameters, or the first promise that they break. -/
def OutParameters.extract (outputs : OutParameters) : Except Violation DeviceBinary :=
  (readEntries outputs.entries).2.bind classify

/-- Outputs break a promise by an entry without its data or by having no kernel binary. -/
theorem OutParameters.extract_error {outputs : OutParameters} {violation : Violation}
    (broken : outputs.extract = .error violation) :
    (∃ name length, violation = .missingData name length) ∨
      ∃ count, violation = .missingKernel count := by
  unfold OutParameters.extract at broken
  have reading := readEntries_result outputs.entries
  cases lacking : outputs.entries.find? OutputEntry.lacksData with
  | some entry =>
      rw [lacking] at reading
      rw [reading] at broken
      cases broken
      exact .inl ⟨_, _, rfl⟩
  | none =>
      rw [lacking] at reading
      rw [reading] at broken
      have classified :
          classify (outputs.entries.map OutputEntry.named) = .error violation := broken
      rw [classify_named] at classified
      split at classified
      · cases classified
        exact .inr ⟨_, rfl⟩
      · cases classified

namespace Session

theorem collect_result_extract (compiler : DeviceCompiler) (outputs : OutParameters) :
    (collect compiler outputs).result =
      match outputs.extract with
      | .error violation => .error (.contractViolation violation)
      | .ok binary =>
          if compiler.free outputs = 0 then .ok binary
          else .error (.foreignCallFailed .freeOutput (compiler.free outputs)) := by
  unfold OutParameters.extract
  cases reading : (readEntries outputs.entries).2 with
  | error violation =>
      rw [collect_misread reading]
      rfl
  | ok named =>
      simp only [Except.bind]
      cases classified : classify named with
      | error violation =>
          rw [collect_unclassified reading classified]
          rfl
      | ok binary =>
          rw [collect_classified reading classified]
          rfl

end Session

namespace Command

variable {request : Request} {configuration : Configuration} {command : Command}

/-- A composed command has few enough arguments to be refused for a zero character only. -/
theorem refusal_of_composed (composed : compose request configuration = .ok command) :
    Session.refusal command.arguments =
      (command.arguments.find? fun argument => argument.toList.contains '\x00').map
        Violation.zeroInArgument :=
  Session.refusal_of_short (Nat.le_trans (compose_arguments_length composed) (by decide))

theorem refused_of_holdsZero (composed : compose request configuration = .ok command)
    {before after : List String} {argument : String}
    (position : command.arguments = before ++ argument :: after)
    (holdsZero : Session.HoldsZero argument)
    (earlier : ∀ other ∈ before, ¬ Session.HoldsZero other) :
    Session.refusal command.arguments = some (.zeroInArgument argument) := by
  rw [refusal_of_composed composed, (Session.find?_zero_eq_some_iff _ _).mpr
    ⟨before, after, position, holdsZero, earlier⟩]
  rfl

theorem accepted_of_passable (composed : compose request configuration = .ok command)
    (passable : ∀ argument ∈ command.arguments, ¬ Session.HoldsZero argument) :
    Session.refusal command.arguments = none := by
  rw [refusal_of_composed composed, (Session.find?_zero_eq_none_iff _).mpr passable]
  rfl

/-- Either an argument is the first with a zero character, or every one can be handed over. -/
theorem holdsZero_or_passable (arguments : List String) :
    (∃ before argument after, arguments = before ++ argument :: after ∧
      Session.HoldsZero argument ∧ ∀ other ∈ before, ¬ Session.HoldsZero other) ∨
    ∀ argument ∈ arguments, ¬ Session.HoldsZero argument := by
  cases found : arguments.find? fun argument => argument.toList.contains '\x00' with
  | some argument =>
      obtain ⟨before, after, first⟩ := (Session.find?_zero_eq_some_iff _ _).mp found
      exact .inl ⟨before, argument, after, first⟩
  | none => exact .inr ((Session.find?_zero_eq_none_iff _).mp found)

theorem run_result_extract (accepted : Session.refusal command.arguments = none)
    (compiler : DeviceCompiler) (ir : Bytes) :
    (command.run compiler ir).result =
      if (command.reply compiler ir).status = 0 then
        match (command.leftOutputs compiler ir).extract with
        | .error violation => .error (.contractViolation violation)
        | .ok binary =>
            if compiler.free (command.leftOutputs compiler ir) = 0 then .ok binary
            else
              .error (.foreignCallFailed .freeOutput
                (compiler.free (command.leftOutputs compiler ir)))
      else .error (.foreignCallFailed .invoke (command.reply compiler ir).status) := by
  rw [run_result accepted]
  by_cases succeeded : (command.reply compiler ir).status = 0
  · rw [if_pos succeeded, ← Session.collect_result_extract]
    unfold reply at succeeded
    simp only [Session.conclude, succeeded, if_true]
    rfl
  · rw [if_neg succeeded]
    unfold reply at succeeded ⊢
    simp only [Session.conclude, succeeded, if_false]
    rfl

/-- No stage counts the arguments of a composed command and finds too many. -/
theorem run_result_ne_tooManyArguments (composed : compose request configuration = .ok command)
    (compiler : DeviceCompiler) (ir : Bytes) (count : Nat) :
    (command.run compiler ir).result ≠ .error (.contractViolation (.tooManyArguments count)) := by
  intro result
  rcases holdsZero_or_passable command.arguments with
    ⟨before, argument, after, position, holdsZero, earlier⟩ | passable
  · rw [run_refused (refused_of_holdsZero composed position holdsZero earlier)] at result
    cases result
  · rw [run_result_extract (accepted_of_passable composed passable)] at result
    split at result
    · cases extracted : (command.leftOutputs compiler ir).extract with
      | error violation =>
          rw [extracted] at result
          rcases OutParameters.extract_error extracted with ⟨_, _, rfl⟩ | ⟨_, rfl⟩ <;>
            cases result
      | ok binary =>
          rw [extracted] at result
          simp only at result
          split at result <;> cases result
    · cases result

end Command

end KernelForge
