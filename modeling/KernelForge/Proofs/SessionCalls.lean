import KernelForge.Session

/-!
Contract: the calls that a run of a command makes.

Owns: when arguments are refused, the calls by which out-parameters are given back,
and the calls of a whole run as one equation.

Does not own: the result and the records of a run.
-/

namespace KernelForge

namespace Session

/-! ### Arguments that cannot be handed over -/

/-- The text holds a zero character. -/
def HoldsZero (argument : String) : Prop := '\x00' ∈ argument.toList

theorem find?_zero_eq_some_iff (arguments : List String) (argument : String) :
    (arguments.find? fun argument => argument.toList.contains '\x00') = some argument ↔
      ∃ before after, arguments = before ++ argument :: after ∧ HoldsZero argument ∧
        ∀ other ∈ before, ¬ HoldsZero other := by
  rw [List.find?_eq_some_iff_append]
  simp only [HoldsZero, List.contains_iff_mem, Bool.not_eq_true', ← Bool.not_eq_true]
  constructor
  · rintro ⟨holdsZero, before, after, position, earlier⟩
    exact ⟨before, after, position, holdsZero, earlier⟩
  · rintro ⟨before, after, position, holdsZero, earlier⟩
    exact ⟨holdsZero, before, after, position, earlier⟩

theorem find?_zero_eq_none_iff (arguments : List String) :
    (arguments.find? fun argument => argument.toList.contains '\x00') = none ↔
      ∀ argument ∈ arguments, ¬ HoldsZero argument := by
  simp only [List.find?_eq_none, HoldsZero, List.contains_iff_mem]

theorem refusal_none {arguments : List String} (accepted : refusal arguments = none) :
    ∀ argument ∈ arguments, ¬ HoldsZero argument := by
  unfold refusal at accepted
  split at accepted
  · cases accepted
  · next noneFound => exact (find?_zero_eq_none_iff arguments).mp noneFound

/-- A short argument list is refused for its first zero character or not at all. -/
theorem refusal_of_short {arguments : List String} (short : arguments.length ≤ argumentLimit) :
    refusal arguments =
      (arguments.find? fun argument => argument.toList.contains '\x00').map
        Violation.zeroInArgument := by
  unfold refusal
  split
  · next found => rw [found]; rfl
  · next noneFound => rw [noneFound, if_neg (Nat.not_lt.mpr short)]; rfl

/-! ### Giving out-parameters back -/

/-- The calls by which out-parameters are given back: none for clear ones. -/
def releaseCalls (compiler : DeviceCompiler) (outputs : OutParameters) : List ForeignCall :=
  if outputs = .clear then [] else [.free outputs (compiler.free outputs)]

theorem leave_released (compiler : DeviceCompiler) (outputs : OutParameters) :
    Guard.leave compiler ⟨outputs, true⟩ = ([], []) := by
  simp [Guard.leave]

theorem discard_calls (compiler : DeviceCompiler) (outputs : OutParameters) (failure : Failure) :
    (discard compiler outputs failure).calls = releaseCalls compiler outputs := by
  by_cases clear : outputs = .clear
  · simp [discard, Guard.leave, releaseCalls, clear]
  · simp [discard, Guard.leave, releaseCalls, clear]

/-- The open release does not look at what it gives back. -/
theorem release_calls (compiler : DeviceCompiler) (outputs : OutParameters)
    (binary : DeviceBinary) :
    (release compiler outputs binary).calls = [.free outputs (compiler.free outputs)] := by
  simp [release, leave_released]

theorem classify_ok_ne_nil {outputs : List Output} {binary : DeviceBinary}
    (classified : classify outputs = .ok binary) : outputs ≠ [] := by
  rintro rfl
  cases classified

/-- Clear out-parameters hold no kernel binary, so what is released openly was touched. -/
theorem touched_of_classified {outputs : OutParameters} {named : List Output}
    {binary : DeviceBinary} (reading : (readEntries outputs.entries).2 = .ok named)
    (classified : classify named = .ok binary) : outputs ≠ .clear := by
  rintro rfl
  have nothingNamed : named = [] := (Except.ok.inj reading).symm
  exact classify_ok_ne_nil classified nothingNamed

/-! ### The three ways to collect outputs -/

theorem collect_misread {outputs : OutParameters} {violation : Violation}
    (reading : (readEntries outputs.entries).2 = .error violation) (compiler : DeviceCompiler) :
    collect compiler outputs =
      let rest := discard compiler outputs (.contractViolation violation)
      ⟨rest.result, rest.calls, (readEntries outputs.entries).1 ++ rest.log⟩ := by
  simp only [collect, reading]

theorem collect_unclassified {outputs : OutParameters} {named : List Output}
    {violation : Violation} (reading : (readEntries outputs.entries).2 = .ok named)
    (unclassified : classify named = .error violation) (compiler : DeviceCompiler) :
    collect compiler outputs =
      let rest := discard compiler outputs (.contractViolation violation)
      ⟨rest.result, rest.calls, (readEntries outputs.entries).1 ++ rest.log⟩ := by
  simp only [collect, reading, unclassified]

theorem collect_classified {outputs : OutParameters} {named : List Output}
    {binary : DeviceBinary} (reading : (readEntries outputs.entries).2 = .ok named)
    (classified : classify named = .ok binary) (compiler : DeviceCompiler) :
    collect compiler outputs =
      let rest := release compiler outputs binary
      ⟨rest.result, rest.calls,
       (readEntries outputs.entries).1 ++ classifyRecord named ++ rest.log⟩ := by
  simp only [collect, reading, classified]

theorem collect_calls (compiler : DeviceCompiler) (outputs : OutParameters) :
    (collect compiler outputs).calls = releaseCalls compiler outputs := by
  cases reading : (readEntries outputs.entries).2 with
  | error violation =>
      rw [collect_misread reading]
      exact discard_calls compiler outputs (.contractViolation violation)
  | ok named =>
      cases classified : classify named with
      | error violation =>
          rw [collect_unclassified reading classified]
          exact discard_calls compiler outputs (.contractViolation violation)
      | ok binary =>
          have touched := touched_of_classified reading classified
          rw [collect_classified reading classified, releaseCalls, if_neg touched]
          exact release_calls compiler outputs binary

theorem conclude_calls (compiler : DeviceCompiler) (status : Int) (outputs : OutParameters) :
    (conclude compiler status outputs).calls = releaseCalls compiler outputs := by
  unfold conclude
  split
  · exact collect_calls compiler outputs
  · exact discard_calls compiler outputs _

end Session

/-! ### A whole run -/

namespace Command

theorem run_refused {command : Command} {violation : Violation}
    (refused : Session.refusal command.arguments = some violation) (compiler : DeviceCompiler)
    (ir : Bytes) :
    command.run compiler ir = ⟨.error (.contractViolation violation), [], []⟩ := by
  simp only [run, refused]

/-- The calls of a run that is not refused, whatever the compiler does. -/
theorem run_calls {command : Command} (accepted : Session.refusal command.arguments = none)
    (compiler : DeviceCompiler) (ir : Bytes) :
    (command.run compiler ir).calls =
      let call := Session.invokeCall command.arguments ir
      let reply := compiler.invoke call
      .invoke call reply :: Session.releaseCalls compiler (reply.left call) := by
  simp only [run, accepted, Session.conclude_calls]

/-- A run calls `oclocInvoke` with what its command hands over, unless that is refused. -/
theorem invoke_mem_run {command : Command} {compiler : DeviceCompiler} {ir : Bytes}
    {call : InvokeCall} {reply : InvokeReply}
    (called : .invoke call reply ∈ (command.run compiler ir).calls) :
    Session.refusal command.arguments = none ∧
      call = Session.invokeCall command.arguments ir := by
  cases refused : Session.refusal command.arguments with
  | some violation =>
      rw [run_refused refused] at called
      cases called
  | none =>
      rw [run_calls refused] at called
      refine ⟨rfl, ?_⟩
      rcases List.mem_cons.mp called with isCall | isRelease
      · exact (ForeignCall.invoke.inj isCall).1
      · unfold Session.releaseCalls at isRelease
        split at isRelease <;> simp at isRelease

/-- The result of a run that is not refused. -/
theorem run_result {command : Command} (accepted : Session.refusal command.arguments = none)
    (compiler : DeviceCompiler) (ir : Bytes) :
    (command.run compiler ir).result =
      let call := Session.invokeCall command.arguments ir
      let reply := compiler.invoke call
      (Session.conclude compiler reply.status (reply.left call)).result := by
  simp only [run, accepted]

end Command

end KernelForge
