import KernelForge.Proofs.RunStages

/-!
Contract: the records of a run tell what became of its outputs.

Owns: the kinds of records that tell it, the records of reading position by position, the
ways in which what follows a call of `oclocInvoke` ends, and what the records of a whole
run say about its calls and its result.

`Ending` says once what can follow a call: nothing was left, what was left is given back
while leaving, or it is given back openly. Only the last of these looks at the status
before the result is settled, and only the second one warns.

Does not own: which records reach a reader; that is `KernelForge.Log.Filter`.
-/

namespace KernelForge

/-! ### Kinds of records -/

/-- The record says that outputs are about to be given back. -/
def LogRecord.announcesRelease (record : LogRecord) : Bool :=
  record.level = .debug ∧ "releasing ".toList <+: record.message.toList

/-- The record that announces a call of `oclocFreeOutput`. -/
def ForeignCall.announcement : ForeignCall → Option LogRecord
  | .invoke _ _ => none
  | .free given _ =>
      some ⟨.debug, .output, "releasing " ++ toString given.count ++ " compiler output(s)"⟩

theorem ForeignCall.length_announcements (calls : List ForeignCall) :
    (calls.filterMap announcement).length = calls.countP isFree := by
  rw [List.length_filterMap_eq_countP]
  congr 1
  funext call
  cases call <;> rfl

namespace Run

def announcements (run : Run) : List LogRecord :=
  run.log.filter LogRecord.announcesRelease

def traces (run : Run) : List LogRecord :=
  run.log.filter (·.level = .trace)

def warnings (run : Run) : List LogRecord :=
  run.log.filter (·.level = .warn)

end Run

/-- A message that begins with another character announces no release. -/
theorem LogRecord.not_announcesRelease {record : LogRecord} {first : Char}
    (begins : record.message.toList.head? = some first) (other : 'r' ≠ first) :
    record.announcesRelease = false := by
  have notPrefix : ¬ "releasing ".toList <+: record.message.toList := by
    rintro ⟨rest, whole⟩
    have letter : "releasing ".toList.head? = some 'r' := by decide
    rw [← whole, List.head?_append, letter] at begins
    exact other (Option.some.inj begins)
  simp only [announcesRelease, notPrefix, and_false, decide_false]

/-- All records are of one level. -/
def AllAt (level : LogLevel) (records : List LogRecord) : Prop :=
  ∀ record ∈ records, record.level = level

section AllAt

variable {level : LogLevel} {records : List LogRecord}

theorem AllAt.filter_same (uniform : AllAt level records) :
    records.filter (·.level = level) = records := by
  apply List.filter_eq_self.mpr
  intro record member
  simp [uniform record member]

theorem AllAt.filter_other (uniform : AllAt level records) {other : LogLevel}
    (different : level ≠ other) : records.filter (·.level = other) = [] := by
  apply List.filter_eq_nil_iff.mpr
  intro record member
  simp [uniform record member, different]

theorem AllAt.announcements (uniform : AllAt level records) (notDebug : level ≠ .debug) :
    records.filter LogRecord.announcesRelease = [] := by
  apply List.filter_eq_nil_iff.mpr
  intro record member
  simp [LogRecord.announcesRelease, uniform record member, notDebug]

end AllAt

/-! ### The records of reading -/

/-- The records name the considered entries, in order, up to the first one without its
data. -/
def OutParameters.TracedBy (outputs : OutParameters) (records : List LogRecord) : Prop :=
  ∀ position record, records[position]? = some record ↔
    ∃ entry, outputs.entryAt position = some entry ∧
      (∀ earlier other, earlier ≤ position → outputs.entryAt earlier = some other →
        other.lacksData = false) ∧
      record = ⟨.trace, .output,
        "output " ++ Text.Utf8.decodeLossy entry.nameBytes ++ " (" ++ toString entry.length ++
          " bytes)"⟩

/-- Reading records every entry in front of the first one without its data: the induction
is on the entries, and a position moves by one with each of them. -/
theorem readEntries_records (entries : List OutputEntry) (position : Nat) (record : LogRecord) :
    (readEntries entries).1[position]? = some record ↔
      ∃ entry, entries[position]? = some entry ∧
        (∀ earlier other, earlier ≤ position → entries[earlier]? = some other →
          other.lacksData = false) ∧
        record = entry.record := by
  induction entries generalizing position with
  | nil => simp [readEntries]
  | cons entry rest inductionHypothesis =>
      cases lacks : entry.lacksData with
      | true =>
          simp only [readEntries, OutputEntry.output_of_lacksData lacks, List.getElem?_nil]
          constructor
          · intro absent
            cases absent
          · rintro ⟨_, -, complete, -⟩
            have kept := complete 0 entry (Nat.zero_le position) rfl
            rw [lacks] at kept
            cases kept
      | false =>
          simp only [readEntries, OutputEntry.output_of_readable lacks]
          cases position with
          | zero =>
              constructor
              · rintro ⟨⟩
                refine ⟨entry, rfl, ?_, rfl⟩
                intro earlier other first atEarlier
                obtain rfl : earlier = 0 := Nat.le_zero.mp first
                cases atEarlier
                exact lacks
              · rintro ⟨_, ⟨⟩, -, rfl⟩
                rfl
          | succ position =>
              rw [List.getElem?_cons_succ, List.getElem?_cons_succ, inductionHypothesis]
              apply exists_congr
              intro found
              apply and_congr_right
              intro _
              apply and_congr_left
              intro _
              constructor
              · intro complete earlier other before atEarlier
                cases earlier with
                | zero =>
                    cases atEarlier
                    exact lacks
                | succ earlier =>
                    exact complete earlier other (Nat.le_of_succ_le_succ before) atEarlier
              · intro complete earlier other before atEarlier
                exact complete (earlier + 1) other (Nat.succ_le_succ before) atEarlier

theorem tracedBy_readEntries (outputs : OutParameters) :
    outputs.TracedBy (readEntries outputs.entries).1 := by
  intro position record
  rw [readEntries_records]
  simp only [OutParameters.entries_getElem?]
  rfl

theorem allAt_readEntries (entries : List OutputEntry) :
    AllAt .trace (readEntries entries).1 := by
  intro record member
  obtain ⟨position, atPosition⟩ := List.mem_iff_getElem?.mp member
  obtain ⟨entry, -, -, rfl⟩ := (readEntries_records entries position record).mp atPosition
  rfl

/-! ### What follows a call -/

/-- The failure is one of giving outputs back. -/
def Failure.OfRelease (failure : Failure) : Prop :=
  ∃ status, failure = .foreignCallFailed .freeOutput status

namespace Session

/-- The records of a release whose status is only recorded. -/
def discardWarnings (status : Int) : List LogRecord :=
  if status = 0 then [] else [discardRecord status]

/-- How what follows a call of `oclocInvoke` ends, with the records of reading in front.
Outputs are given back while leaving behind a failure that is settled, or openly. -/
inductive Ending (compiler : DeviceCompiler) (outputs : OutParameters)
    (reading : List LogRecord) : Run → Prop
  | untouched (failure : Failure) (earlier : ¬ failure.OfRelease) :
      Ending compiler outputs reading ⟨.error failure, [], reading⟩
  | discarded (failure : Failure) (earlier : ¬ failure.OfRelease) :
      Ending compiler outputs reading
        ⟨.error failure, [.free outputs (compiler.free outputs)],
          reading ++ releaseRecord outputs :: discardWarnings (compiler.free outputs)⟩
  | released (named : List Output) (binary : DeviceBinary) :
      Ending compiler outputs reading
        ⟨if compiler.free outputs = 0 then .ok binary
          else .error (.foreignCallFailed .freeOutput (compiler.free outputs)),
          [.free outputs (compiler.free outputs)],
          reading ++ classifyRecord named ++ [releaseRecord outputs]⟩

theorem ending_discard (compiler : DeviceCompiler) (outputs : OutParameters)
    (reading : List LogRecord) {failure : Failure} (earlier : ¬ failure.OfRelease) :
    Ending compiler outputs reading
      ⟨(discard compiler outputs failure).result, (discard compiler outputs failure).calls,
        reading ++ (discard compiler outputs failure).log⟩ := by
  by_cases clear : outputs = .clear
  · simp only [discard, Guard.leave, clear, or_true, if_true, List.append_nil]
    exact .untouched failure earlier
  · simp only [discard, Guard.leave, clear, Bool.false_eq_true, or_self, if_false]
    exact .discarded failure earlier

theorem not_ofRelease_violation (violation : Violation) :
    ¬ (Failure.contractViolation violation).OfRelease := by
  rintro ⟨_, ⟨⟩⟩

theorem not_ofRelease_invoke (status : Int) :
    ¬ (Failure.foreignCallFailed .invoke status).OfRelease := by
  rintro ⟨_, ⟨⟩⟩

theorem ending_collect (compiler : DeviceCompiler) (outputs : OutParameters) :
    Ending compiler outputs (readEntries outputs.entries).1 (collect compiler outputs) := by
  cases reading : (readEntries outputs.entries).2 with
  | error violation =>
      rw [collect_misread reading]
      exact ending_discard compiler outputs _ (not_ofRelease_violation violation)
  | ok named =>
      cases classified : classify named with
      | error violation =>
          rw [collect_unclassified reading classified]
          exact ending_discard compiler outputs _ (not_ofRelease_violation violation)
      | ok binary =>
          rw [collect_classified reading classified]
          simp only [release, leave_released]
          exact .released named binary

/-- Nothing is read after a failed call. -/
theorem ending_conclude (compiler : DeviceCompiler) (status : Int) (outputs : OutParameters) :
    Ending compiler outputs (if status = 0 then (readEntries outputs.entries).1 else [])
      (conclude compiler status outputs) := by
  by_cases succeeded : status = 0
  · rw [conclude, if_pos succeeded, if_pos succeeded]
    exact ending_collect compiler outputs
  · rw [conclude, if_neg succeeded, if_neg succeeded]
    exact ending_discard compiler outputs [] (not_ofRelease_invoke status)

/-! ### The records of an ending -/

theorem allAt_discardWarnings (status : Int) : AllAt .warn (discardWarnings status) := by
  intro record member
  unfold discardWarnings at member
  split at member
  · cases member
  · obtain rfl := List.mem_singleton.mp member
    rfl

theorem announcesRelease_releaseRecord (outputs : OutParameters) :
    (releaseRecord outputs).announcesRelease = true := by
  simp [LogRecord.announcesRelease, releaseRecord]

theorem announcesRelease_callRecord (arguments : List String) (ir : Bytes) :
    (callRecord arguments ir).announcesRelease = false := by
  have begins : (callRecord arguments ir).message.toList.head? = some 'c' := by
    simp [callRecord]
  exact LogRecord.not_announcesRelease begins (by decide)

/-- The record of a choice is one of what was chosen. -/
theorem level_and_begin_of_mem_classifyRecord {named : List Output} {record : LogRecord}
    (member : record ∈ classifyRecord named) :
    record.level = .debug ∧ record.message.toList.head? = some 'k' := by
  unfold classifyRecord at member
  split at member
  · cases member
  · obtain rfl := List.mem_singleton.mp member
    have begins : "kernel binary ".toList.head? = some 'k' := by decide
    simp only [String.append_assoc, String.toList_append, List.head?_append, begins,
      Option.some_or, and_self]

theorem allAt_classifyRecord (named : List Output) : AllAt .debug (classifyRecord named) := by
  intro record member
  exact (level_and_begin_of_mem_classifyRecord member).1

theorem announcements_classifyRecord (named : List Output) :
    (classifyRecord named).filter LogRecord.announcesRelease = [] := by
  apply List.filter_eq_nil_iff.mpr
  intro record member
  have begins := (level_and_begin_of_mem_classifyRecord member).2
  rw [LogRecord.not_announcesRelease begins (by decide)]
  exact Bool.false_ne_true

namespace Ending

variable {compiler : DeviceCompiler} {outputs : OutParameters} {reading : List LogRecord}
  {run : Run}

theorem announcements (ending : Ending compiler outputs reading run)
    (entries : AllAt .trace reading) :
    run.announcements = run.calls.filterMap ForeignCall.announcement := by
  have silent := entries.announcements (by decide)
  have announced := announcesRelease_releaseRecord outputs
  cases ending with
  | untouched failure earlier => exact silent
  | discarded failure earlier =>
      have warned := (allAt_discardWarnings (compiler.free outputs)).announcements (by decide)
      rw [Run.announcements, List.filter_append, silent, List.filter_cons_of_pos announced, warned]
      rfl
  | released named binary =>
      rw [Run.announcements, List.filter_append, List.filter_append, silent,
        announcements_classifyRecord, List.filter_cons_of_pos announced]
      rfl

theorem traces (ending : Ending compiler outputs reading run)
    (entries : AllAt .trace reading) : run.traces = reading := by
  have whole := entries.filter_same
  cases ending with
  | untouched failure earlier => exact whole
  | discarded failure earlier =>
      have warned := (allAt_discardWarnings (compiler.free outputs)).filter_other
        (by decide : LogLevel.warn ≠ .trace)
      rw [Run.traces, List.filter_append, whole, List.filter_cons_of_neg (by simp [releaseRecord]),
        warned, List.append_nil]
  | released named binary =>
      have chosen := (allAt_classifyRecord named).filter_other
        (by decide : LogLevel.debug ≠ .trace)
      rw [Run.traces, List.filter_append, List.filter_append, whole, chosen,
        List.filter_cons_of_neg (by simp [releaseRecord])]
      simp

/-- The only warning is that of a release while leaving. -/
theorem warnings_discarded (entries : AllAt .trace reading) (failure : Failure)
    (calls : List ForeignCall) (status : Int) :
    Run.warnings ⟨.error failure, calls,
      reading ++ releaseRecord outputs :: discardWarnings status⟩ = discardWarnings status := by
  have silent := entries.filter_other (by decide : LogLevel.trace ≠ .warn)
  rw [Run.warnings, List.filter_append, silent, List.filter_cons_of_neg (by simp [releaseRecord]),
    (allAt_discardWarnings status).filter_same, List.nil_append]

theorem warnings_released (entries : AllAt .trace reading)
    (result : Except Failure DeviceBinary) (calls : List ForeignCall) (named : List Output) :
    Run.warnings ⟨result, calls,
      reading ++ classifyRecord named ++ [releaseRecord outputs]⟩ = [] := by
  have silent := entries.filter_other (by decide : LogLevel.trace ≠ .warn)
  have chosen := (allAt_classifyRecord named).filter_other (by decide : LogLevel.debug ≠ .warn)
  rw [Run.warnings, List.filter_append, List.filter_append, silent, chosen,
    List.filter_cons_of_neg (by simp [releaseRecord])]
  rfl

/-- A release that fails is the result and warns of nothing, or it is behind a failure that
was settled before, and then it is the only warning. -/
theorem of_failedRelease (ending : Ending compiler outputs reading run)
    (entries : AllAt .trace reading) {given : OutParameters} {status : Int}
    (called : ForeignCall.free given status ∈ run.calls) (failed : status ≠ 0) :
    (run.result = .error (.foreignCallFailed .freeOutput status) ∧ run.warnings = []) ∨
    ∃ failure, ¬ failure.OfRelease ∧ run.result = .error failure ∧
      run.warnings = [discardRecord status] := by
  cases ending with
  | untouched failure earlier => cases called
  | discarded failure earlier =>
      obtain ⟨rfl, rfl⟩ := ForeignCall.free.inj (List.mem_singleton.mp called)
      refine .inr ⟨failure, earlier, rfl, ?_⟩
      rw [warnings_discarded entries, discardWarnings, if_neg failed]
  | released named binary =>
      obtain ⟨rfl, rfl⟩ := ForeignCall.free.inj (List.mem_singleton.mp called)
      exact .inl ⟨if_neg failed, warnings_released entries _ _ named⟩

theorem of_noFailedRelease (ending : Ending compiler outputs reading run)
    (entries : AllAt .trace reading)
    (clean : ∀ given status, ForeignCall.free given status ∈ run.calls → status = 0) :
    run.warnings = [] ∧ ∀ status, run.result ≠ .error (.foreignCallFailed .freeOutput status) := by
  have otherFailure : ∀ {failure : Failure}, ¬ failure.OfRelease →
      ∀ status, (Except.error failure : Except Failure DeviceBinary) ≠
        .error (.foreignCallFailed .freeOutput status) := by
    intro failure earlier status same
    exact earlier ⟨status, Except.error.inj same⟩
  cases ending with
  | untouched failure earlier =>
      exact ⟨entries.filter_other (by decide), otherFailure earlier⟩
  | discarded failure earlier =>
      have freed := clean outputs (compiler.free outputs) (List.mem_singleton.mpr rfl)
      refine ⟨?_, otherFailure earlier⟩
      rw [warnings_discarded entries, discardWarnings, if_pos freed]
  | released named binary =>
      have freed := clean outputs (compiler.free outputs) (List.mem_singleton.mpr rfl)
      refine ⟨warnings_released entries _ _ named, ?_⟩
      intro status same
      rw [if_pos freed] at same
      cases same

end Ending

end Session

/-! ### The records of a run -/

/-- A run has the result of another one, gives back the same and records the same kinds. -/
structure Run.EndsAs (run rest : Run) : Prop where
  result : run.result = rest.result
  released : ∀ given status,
    ForeignCall.free given status ∈ run.calls ↔ ForeignCall.free given status ∈ rest.calls
  announced : run.calls.filterMap ForeignCall.announcement =
    rest.calls.filterMap ForeignCall.announcement
  announcements : run.announcements = rest.announcements
  traces : run.traces = rest.traces
  warnings : run.warnings = rest.warnings

theorem Run.EndsAs.refl (run : Run) : run.EndsAs run :=
  ⟨rfl, fun _ _ => .rfl, rfl, rfl, rfl, rfl⟩

/-- The failure of a release is the result of the run, and nothing is warned of. -/
def Run.RaisesRelease (run : Run) (status : Int) : Prop :=
  run.result = .error (.foreignCallFailed .freeOutput status) ∧ run.warnings = []

namespace Command

/-- The result of a run is an earlier failure, which it would be whatever `oclocFreeOutput`
answered, and there is one warning, which names the status that it did answer. -/
def RecordsRelease (command : Command) (compiler : DeviceCompiler) (ir : Bytes)
    (status : Int) : Prop :=
  ∃ failure : Failure, ¬ failure.OfRelease ∧
    (command.run compiler ir).result = .error failure ∧
    (∀ free, (command.run ⟨compiler.invoke, free⟩ ir).result = .error failure) ∧
    (command.run compiler ir).warnings =
      [⟨.warn, .output, "oclocFreeOutput failed with status " ++ toString status ++
        " while discarding outputs"⟩]

/-- The records of reading in a run: none if the run is refused or the call fails. -/
def reading (command : Command) (compiler : DeviceCompiler) (ir : Bytes) : List LogRecord :=
  if Session.refusal command.arguments = none ∧ (command.reply compiler ir).status = 0 then
    (readEntries (command.leftOutputs compiler ir).entries).1
  else []

theorem allAt_reading (command : Command) (compiler : DeviceCompiler) (ir : Bytes) :
    AllAt .trace (command.reading compiler ir) := by
  unfold reading
  split
  · exact allAt_readEntries _
  · intro record member
    cases member

/-- The calls of a run tell whether it was refused and what `oclocInvoke` answered. -/
theorem invoke_mem_run_iff {command : Command} {compiler : DeviceCompiler} {ir : Bytes}
    {call : InvokeCall} {reply : InvokeReply} :
    ForeignCall.invoke call reply ∈ (command.run compiler ir).calls ↔
      Session.refusal command.arguments = none ∧
        call = Session.invokeCall command.arguments ir ∧ reply = command.reply compiler ir := by
  cases refused : Session.refusal command.arguments with
  | some violation =>
      rw [run_refused refused]
      simp
  | none =>
      have notRelease : ForeignCall.invoke call reply ∉
          Session.releaseCalls compiler (command.leftOutputs compiler ir) := by
        unfold Session.releaseCalls
        split <;> simp
      rw [run_calls refused]
      show _ ∈ _ :: Session.releaseCalls compiler (command.leftOutputs compiler ir) ↔ _
      rw [List.mem_cons, or_iff_left notRelease, ForeignCall.invoke.injEq]
      simp only [true_and]
      rfl

/-- A run has the result, the releases and the records of an ending. A run that is refused
ends before the call with nothing to give back; any other one has the call in front, which
is no release, and its record, which is of none of the kinds. -/
theorem run_ending (command : Command) (compiler : DeviceCompiler) (ir : Bytes) :
    ∃ rest, Session.Ending compiler (command.leftOutputs compiler ir)
        (command.reading compiler ir) rest ∧ (command.run compiler ir).EndsAs rest := by
  cases refused : Session.refusal command.arguments with
  | some violation =>
      have unread : command.reading compiler ir = [] := by
        rw [reading, refused]
        rfl
      refine ⟨command.run compiler ir, ?_, .refl _⟩
      rw [unread, run_refused refused]
      exact .untouched _ (Session.not_ofRelease_violation violation)
  | none =>
      have read : command.reading compiler ir = if (command.reply compiler ir).status = 0 then
          (readEntries (command.leftOutputs compiler ir).entries).1 else [] := by
        simp only [reading, refused, true_and]
      have silent : ¬ (Session.callRecord command.arguments ir).announcesRelease = true := by
        rw [Session.announcesRelease_callRecord]
        exact Bool.false_ne_true
      have ending := Session.ending_conclude compiler (command.reply compiler ir).status
        (command.leftOutputs compiler ir)
      rw [← read] at ending
      refine ⟨_, ending, ?_⟩
      simp only [run, refused]
      constructor
      case result => rfl
      case released =>
        intro given status
        rw [List.mem_cons, or_iff_right (by rintro ⟨⟩)]
        rfl
      case announced => rfl
      case announcements => exact List.filter_cons_of_neg silent
      case traces => rfl
      case warnings => rfl

section Records

variable (command : Command) (compiler : DeviceCompiler) (ir : Bytes)

theorem run_announcements :
    (command.run compiler ir).announcements =
      (command.run compiler ir).calls.filterMap ForeignCall.announcement := by
  obtain ⟨rest, ending, same⟩ := run_ending command compiler ir
  rw [same.announcements, same.announced]
  exact ending.announcements (allAt_reading command compiler ir)

theorem run_traces :
    (command.run compiler ir).traces = command.reading compiler ir := by
  obtain ⟨rest, ending, same⟩ := run_ending command compiler ir
  rw [same.traces]
  exact ending.traces (allAt_reading command compiler ir)

end Records

/-- A failure before the release does not depend on what `oclocFreeOutput` answers. -/
theorem run_result_of_earlier {command : Command} {compiler : DeviceCompiler} {ir : Bytes}
    {failure : Failure} (result : (command.run compiler ir).result = .error failure)
    (earlier : ¬ failure.OfRelease) (free : OutParameters → Int) :
    (command.run ⟨compiler.invoke, free⟩ ir).result = .error failure := by
  cases refused : Session.refusal command.arguments with
  | some violation =>
      rw [run_refused refused] at result ⊢
      exact result
  | none =>
      have sameReply : command.reply ⟨compiler.invoke, free⟩ ir = command.reply compiler ir := rfl
      have sameOutputs : command.leftOutputs ⟨compiler.invoke, free⟩ ir =
          command.leftOutputs compiler ir := rfl
      rw [run_result_extract refused] at result ⊢
      rw [sameReply, sameOutputs]
      by_cases succeeded : (command.reply compiler ir).status = 0
      · rw [if_pos succeeded] at result ⊢
        cases extracted : (command.leftOutputs compiler ir).extract with
        | error violation =>
            rw [extracted] at result
            exact result
        | ok binary =>
            rw [extracted] at result
            simp only at result
            split at result
            · cases result
            · exact absurd ⟨_, (Except.error.inj result).symm⟩ earlier
      · rw [if_neg succeeded] at result ⊢
        exact result

section Release

variable {command : Command} {compiler : DeviceCompiler} {ir : Bytes}

theorem run_of_failedRelease {given : OutParameters} {status : Int}
    (called : ForeignCall.free given status ∈ (command.run compiler ir).calls)
    (failed : status ≠ 0) :
    (command.run compiler ir).RaisesRelease status ∨
      command.RecordsRelease compiler ir status := by
  obtain ⟨rest, ending, same⟩ := run_ending command compiler ir
  have restCalled := (same.released given status).mp called
  rcases ending.of_failedRelease (allAt_reading command compiler ir) restCalled failed with
    ⟨raised, silent⟩ | ⟨failure, earlier, restResult, warned⟩
  · exact .inl ⟨same.result.trans raised, same.warnings.trans silent⟩
  · have runResult := same.result.trans restResult
    exact .inr ⟨failure, earlier, runResult, run_result_of_earlier runResult earlier,
      same.warnings.trans warned⟩

theorem not_raisesRelease_of_recordsRelease {status : Int}
    (records : command.RecordsRelease compiler ir status) (other : Int) :
    ¬ (command.run compiler ir).RaisesRelease other := by
  rintro ⟨raised, -⟩
  obtain ⟨failure, earlier, result, -, -⟩ := records
  rw [result] at raised
  exact earlier ⟨other, Except.error.inj raised⟩

theorem run_of_noFailedRelease
    (clean : ∀ given status,
      ForeignCall.free given status ∈ (command.run compiler ir).calls → status = 0) :
    (command.run compiler ir).warnings = [] ∧
      ∀ status, (command.run compiler ir).result ≠
        .error (.foreignCallFailed .freeOutput status) := by
  obtain ⟨rest, ending, same⟩ := run_ending command compiler ir
  rw [same.result, same.warnings]
  apply ending.of_noFailedRelease (allAt_reading command compiler ir)
  intro given status called
  exact clean given status ((same.released given status).mpr called)

end Release

/-- **The records of a run account for its releases.** Every call of `oclocFreeOutput` is
announced with the count that it is given, and nothing else is announced. The outputs that
are read are named up to the first one without its data, and none is named behind a failed
call. A release that fails is reported in one place: as the result, or as the only warning
behind an earlier failure that it does not change. Without such a release there is no
warning and no such result. -/
theorem run_records_account_for_releases (command : Command) (compiler : DeviceCompiler)
    (ir : Bytes) :
    let run := command.run compiler ir
    (run.announcements = run.calls.filterMap ForeignCall.announcement ∧
      run.announcements.length = run.calls.countP ForeignCall.isFree) ∧
    (∀ call reply, ForeignCall.invoke call reply ∈ run.calls → reply.status = 0 →
      (reply.left call).TracedBy run.traces) ∧
    ((∀ call reply, ForeignCall.invoke call reply ∈ run.calls → reply.status ≠ 0) →
      run.traces = []) ∧
    (∀ given status, ForeignCall.free given status ∈ run.calls → status ≠ 0 →
      (run.RaisesRelease status ∨ command.RecordsRelease compiler ir status) ∧
      ¬ (run.RaisesRelease status ∧ command.RecordsRelease compiler ir status)) ∧
    ((∀ given status, ForeignCall.free given status ∈ run.calls → status = 0) →
      run.warnings = [] ∧
      ∀ status, run.result ≠ .error (.foreignCallFailed .freeOutput status)) := by
  intro run
  have announced : run.announcements = run.calls.filterMap ForeignCall.announcement :=
    run_announcements command compiler ir
  have traced : run.traces = command.reading compiler ir := run_traces command compiler ir
  refine ⟨⟨announced, ?_⟩, ?_, ?_, ?_, run_of_noFailedRelease⟩
  · rw [announced, ForeignCall.length_announcements]
  · intro call reply called succeeded
    obtain ⟨accepted, rfl, rfl⟩ := invoke_mem_run_iff.mp called
    rw [traced, reading, if_pos ⟨accepted, succeeded⟩]
    exact tracedBy_readEntries (command.leftOutputs compiler ir)
  · intro allFailed
    rw [traced, reading, if_neg]
    rintro ⟨accepted, succeeded⟩
    exact allFailed _ _ (invoke_mem_run_iff.mpr ⟨accepted, rfl, rfl⟩) succeeded
  · intro given status called failed
    refine ⟨run_of_failedRelease called failed, ?_⟩
    rintro ⟨raises, records⟩
    exact not_raisesRelease_of_recordsRelease records status raises

/-- A kernel binary stands before an output without its data, and the release fails: the
first output is named, and the status is warned of. A call that fails and leaves nothing
has neither. -/
theorem run_records_account_for_releases_behind_gap :
    let command : Command := ⟨["ocloc", "compile"], "", ""⟩
    let gap : Script :=
      ⟨0, 7, none, [⟨some [0x6B, 0x2E, 0x67, 0x65, 0x6E], some [1, 2], none⟩,
        ⟨some [0x6C, 0x6F, 0x67], none, some 5⟩], none, false, false, false⟩
    let failing : Script := ⟨3, 7, none, [], none, false, false, false⟩
    let run := command.run gap.compiler [3]
    let failedRun := command.run failing.compiler [3]
    ForeignCall.free gap.outParameters 7 ∈ run.calls ∧
      run.announcements = [⟨.debug, .output, "releasing 2 compiler output(s)"⟩] ∧
      gap.outParameters.TracedBy run.traces ∧
      run.traces[0]? = some ⟨.trace, .output, "output k.gen (2 bytes)"⟩ ∧
      command.RecordsRelease gap.compiler [3] 7 ∧ ¬ run.RaisesRelease 7 ∧
      failedRun.traces = [] ∧ failedRun.warnings = [] := by
  intro command gap failing run failedRun
  obtain ⟨⟨announced, -⟩, traced, -, reported, -⟩ :=
    run_records_account_for_releases command gap.compiler [3]
  obtain ⟨-, -, untraced, -, unwarned⟩ :=
    run_records_account_for_releases command failing.compiler [3]
  have invoked : ForeignCall.invoke (Session.invokeCall command.arguments [3])
      ⟨0, some gap.outParameters⟩ ∈ run.calls := List.mem_cons_self
  have called : ForeignCall.free gap.outParameters 7 ∈ run.calls :=
    List.mem_cons_of_mem _ List.mem_cons_self
  have named : gap.outParameters.TracedBy run.traces := traced _ _ invoked rfl
  have first : run.traces[0]? = some ⟨.trace, .output, "output k.gen (2 bytes)"⟩ := by
    refine (named 0 _).mpr ⟨_, rfl, ?_, by decide⟩
    intro earlier other before atEarlier
    obtain rfl := Nat.le_zero.mp before
    cases atEarlier
    rfl
  have exclusive := reported gap.outParameters 7 called (by decide)
  have result : run.result = .error (.contractViolation (.missingData [0x6C, 0x6F, 0x67] 5)) :=
    rfl
  have raisesNot : ¬ run.RaisesRelease 7 := by
    rintro ⟨raised, -⟩
    rw [result] at raised
    cases raised
  have failedCalls : failedRun.calls =
      [.invoke (Session.invokeCall command.arguments [3]) ⟨3, none⟩] := rfl
  have recorded := exclusive.1.resolve_left raisesNot
  refine ⟨called, announced.trans (by decide), named, first, recorded, raisesNot, untraced ?_,
    (unwarned ?_).1⟩
  · intro call reply member
    rw [failedCalls] at member
    cases List.mem_singleton.mp member
    decide
  · intro given status member
    rw [failedCalls] at member
    cases List.mem_singleton.mp member

end Command

end KernelForge
