import KernelForge.Proofs.SessionCalls

/-!
Contract: out-parameters that the compiler touched are given back exactly once.

Owns: what it means that out-parameters were touched, that the calls of one run are
accounted for, and who holds out-parameters along any sequence of calls.

The invariant is `Custody`: nothing is held between two runs. A run that calls
`oclocInvoke` takes what the call leaves into its hands, and every way out of the run
gives exactly that back, so no call ever finds something held that it would overwrite,
and none gives back what is not held.

Does not own: what the status of a release means for the result.
-/

namespace KernelForge

/-- The four out-parameters are not all zero or null. -/
def OutParameters.Touched (outputs : OutParameters) : Prop :=
  outputs.count ≠ 0 ∨ outputs.data ≠ none ∨ outputs.lengths ≠ none ∨ outputs.names ≠ none

instance (outputs : OutParameters) : Decidable outputs.Touched :=
  inferInstanceAs (Decidable (_ ∨ _))

theorem OutParameters.touched_iff (outputs : OutParameters) :
    outputs.Touched ↔ outputs ≠ .clear := by
  obtain ⟨count, data, lengths, names⟩ := outputs
  simp only [Touched, clear, ne_eq, OutParameters.mk.injEq, Classical.not_and_iff_not_or_not]

/-- The call is one of `oclocInvoke` that left something in the out-parameters. -/
def ForeignCall.leavesOutputs : ForeignCall → Bool
  | .invoke call reply => (reply.left call).Touched
  | .free _ _ => false

/-- A run's call of `oclocInvoke`, if there is one, left something in the
out-parameters. -/
def Run.leavesOutputs (run : Run) : Bool :=
  run.calls.any ForeignCall.leavesOutputs

/-! ### The calls of one run -/

/-- The calls of a run with a compiler are accounted for: either there are none, or
`oclocInvoke` is called once and nothing follows if it left nothing, or it is called
once and `oclocFreeOutput` once behind it with the very values that were left. -/
inductive Accounted (compiler : DeviceCompiler) : List ForeignCall → Prop
  | idle : Accounted compiler []
  | untouched (call : InvokeCall) (nothing : ¬ ((compiler.invoke call).left call).Touched) :
      Accounted compiler [.invoke call (compiler.invoke call)]
  | givenBack (call : InvokeCall) (something : ((compiler.invoke call).left call).Touched) :
      Accounted compiler
        [.invoke call (compiler.invoke call),
         .free ((compiler.invoke call).left call)
           (compiler.free ((compiler.invoke call).left call))]

theorem accounted_releaseCalls (compiler : DeviceCompiler) (call : InvokeCall) :
    Accounted compiler
      (.invoke call (compiler.invoke call) ::
        Session.releaseCalls compiler ((compiler.invoke call).left call)) := by
  unfold Session.releaseCalls
  split
  · next clear =>
      exact .untouched call fun touched => (OutParameters.touched_iff _).mp touched clear
  · next touched => exact .givenBack call ((OutParameters.touched_iff _).mpr touched)

/-- Every way out of a run leaves its calls accounted for. -/
theorem run_accounted (command : Command) (compiler : DeviceCompiler) (ir : Bytes) :
    Accounted compiler (command.run compiler ir).calls := by
  cases refused : Session.refusal command.arguments with
  | some violation =>
      rw [Command.run_refused refused]
      exact .idle
  | none =>
      rw [Command.run_calls refused]
      exact accounted_releaseCalls compiler (Session.invokeCall command.arguments ir)

namespace Accounted

variable {compiler : DeviceCompiler} {calls : List ForeignCall}

theorem invokes_le_one (accounted : Accounted compiler calls) :
    calls.countP ForeignCall.isInvoke ≤ 1 := by
  cases accounted with
  | idle => exact Nat.zero_le 1
  | untouched call nothing => exact Nat.le_refl 1
  | givenBack call something => exact Nat.le_refl 1

theorem frees_eq (accounted : Accounted compiler calls) :
    calls.countP ForeignCall.isFree = if calls.any ForeignCall.leavesOutputs then 1 else 0 := by
  cases accounted with
  | idle => rfl
  | untouched call nothing =>
      simp [ForeignCall.isFree, ForeignCall.leavesOutputs, nothing]
  | givenBack call something =>
      simp [ForeignCall.isFree, ForeignCall.leavesOutputs, something]

theorem frees_le_invokes (accounted : Accounted compiler calls) :
    calls.countP ForeignCall.isFree ≤ calls.countP ForeignCall.isInvoke := by
  cases accounted with
  | idle => exact Nat.le_refl 0
  | untouched call nothing => exact Nat.zero_le 1
  | givenBack call something => exact Nat.le_refl 1

end Accounted

/-! ### Custody along a sequence of calls -/

/-- Who holds out-parameters: nobody, or the caller, who owes them; or a promise was
broken before. -/
inductive Custody where
  | settled
  | owed (outputs : OutParameters)
  | broken
deriving DecidableEq, Repr

namespace Custody

/-- The custody after a call. Calling `oclocInvoke` while out-parameters are owed loses
them, and giving back what is not owed is a second release. -/
def after : Custody → ForeignCall → Custody
  | .settled, .invoke call reply =>
      if (reply.left call).Touched then .owed (reply.left call) else .settled
  | .owed outputs, .free given _ => if given = outputs then .settled else .broken
  | _, _ => .broken

/-- The custody after a sequence of calls, from none. -/
def afterAll (calls : List ForeignCall) : Custody :=
  calls.foldl after .settled

theorem afterAll_of_accounted {compiler : DeviceCompiler} {calls : List ForeignCall}
    (accounted : Accounted compiler calls) : afterAll calls = .settled := by
  cases accounted with
  | idle => rfl
  | untouched call nothing => simp [afterAll, after, nothing]
  | givenBack call something => simp [afterAll, after, something]

theorem afterAll_append {first : List ForeignCall} (settled : afterAll first = .settled)
    (second : List ForeignCall) : afterAll (first ++ second) = afterAll second := by
  unfold afterAll at settled ⊢
  rw [List.foldl_append, settled]

end Custody

/-! ### Whole sequences of runs -/

/-- The calls that a sequence of runs makes, in order. -/
def callsOf (runs : List Run) : List ForeignCall :=
  runs.flatMap Run.calls

section Sequence

variable {runs : List Run}

/-- Between two runs nothing is held: the induction is on the runs made so far, and
`Custody.settled` is what each of them preserves. -/
theorem custody_settled
    (accounted : ∀ run ∈ runs, ∃ compiler, Accounted compiler run.calls) :
    Custody.afterAll (callsOf runs) = .settled := by
  induction runs with
  | nil => rfl
  | cons run rest inductionHypothesis =>
      obtain ⟨compiler, headAccounted⟩ := accounted run (by simp)
      have headSettled := Custody.afterAll_of_accounted headAccounted
      have restSettled := inductionHypothesis fun other member =>
        accounted other (List.mem_cons_of_mem run member)
      simp only [callsOf, List.flatMap_cons]
      rw [Custody.afterAll_append headSettled]
      exact restSettled

theorem frees_le_invokes (accounted : ∀ run ∈ runs, ∃ compiler, Accounted compiler run.calls) :
    (callsOf runs).countP ForeignCall.isFree ≤ (callsOf runs).countP ForeignCall.isInvoke := by
  induction runs with
  | nil => exact Nat.le_refl 0
  | cons run rest inductionHypothesis =>
      obtain ⟨compiler, headAccounted⟩ := accounted run (by simp)
      have restBound := inductionHypothesis fun other member =>
        accounted other (List.mem_cons_of_mem run member)
      simp only [callsOf, List.flatMap_cons, List.countP_append]
      exact Nat.add_le_add headAccounted.frees_le_invokes restBound

theorem frees_eq_touching_runs
    (accounted : ∀ run ∈ runs, ∃ compiler, Accounted compiler run.calls) :
    (callsOf runs).countP ForeignCall.isFree = runs.countP Run.leavesOutputs := by
  induction runs with
  | nil => rfl
  | cons run rest inductionHypothesis =>
      obtain ⟨compiler, headAccounted⟩ := accounted run (by simp)
      have restCount := inductionHypothesis fun other member =>
        accounted other (List.mem_cons_of_mem run member)
      have headCount : run.calls.countP ForeignCall.isFree =
          if run.leavesOutputs then 1 else 0 := headAccounted.frees_eq
      simp only [callsOf, List.flatMap_cons, List.countP_append] at restCount ⊢
      rw [headCount, restCount, List.countP_cons, Nat.add_comm]

end Sequence

/-- **Outputs are given back exactly once, over whole sequences of runs.** Each step is
the run that it would be alone; its calls are accounted for and count as such, and after
any number of steps nothing is held. -/
theorem runAll_gives_back_once (command : Command) (steps : List (DeviceCompiler × Bytes)) :
    (∀ (position : Nat) compiler ir, steps[position]? = some (compiler, ir) →
      ∃ run, (command.runAll steps)[position]? = some run ∧
        run = command.run compiler ir ∧
        Accounted compiler run.calls ∧
        run.calls.countP ForeignCall.isInvoke ≤ 1 ∧
        (run.leavesOutputs = true → run.calls.countP ForeignCall.isFree = 1) ∧
        (run.leavesOutputs = false → run.calls.countP ForeignCall.isFree = 0) ∧
        Custody.afterAll run.calls = .settled) ∧
    (∀ taken, Custody.afterAll (callsOf (command.runAll (steps.take taken))) = .settled) ∧
    (callsOf (command.runAll steps)).countP ForeignCall.isFree ≤
      (callsOf (command.runAll steps)).countP ForeignCall.isInvoke ∧
    (callsOf (command.runAll steps)).countP ForeignCall.isFree =
      (command.runAll steps).countP Run.leavesOutputs := by
  have allAccounted : ∀ given : List (DeviceCompiler × Bytes),
      ∀ run ∈ command.runAll given, ∃ compiler, Accounted compiler run.calls := by
    intro given run member
    obtain ⟨step, -, rfl⟩ := List.mem_map.mp member
    exact ⟨step.1, run_accounted command step.1 step.2⟩
  refine ⟨?_, ?_, frees_le_invokes (allAccounted steps),
    frees_eq_touching_runs (allAccounted steps)⟩
  · intro position compiler ir atPosition
    have accounted := run_accounted command compiler ir
    have frees := accounted.frees_eq
    refine ⟨command.run compiler ir, ?_, rfl, accounted, accounted.invokes_le_one, ?_, ?_,
      Custody.afterAll_of_accounted accounted⟩
    · rw [Command.runAll, List.getElem?_map, atPosition]
      rfl
    · intro leaves
      rw [frees]
      exact if_pos leaves
    · intro leavesNot
      rw [frees]
      exact if_neg (by rw [← Run.leavesOutputs, leavesNot]; exact Bool.false_ne_true)
  · intro taken
    exact custody_settled (allAccounted (steps.take taken))

end KernelForge
