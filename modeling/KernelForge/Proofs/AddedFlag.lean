import KernelForge.Proofs.SettledOptions

/-!
Contract: reading the arguments with one more flag among them.

Owns: the relation between reading without the flag and reading with it, its preservation
move by move, the places where an option of the `translate` job may stand, and the command
line with `--dry-run` at such a place.

Does not own: what a job does with the flag.
-/

namespace KernelForge.CommandLine

namespace Progress

/-- The second progress has settled one flag more than the first, at some place, and agrees
with it otherwise. -/
structure Adds (flag : OptionRule) (setting : Setting) (plain flagged : Progress) : Prop where
  job : flagged.job = plain.job
  expects : flagged.expects = plain.expects
  settings : ∃ earlier later, plain.settings = earlier ++ later ∧
    flagged.settings = earlier ++ setting :: later
  given : ∀ name, name ∈ flagged.given ↔ name = flag.name ∨ name ∈ plain.given

variable {flag : OptionRule} {setting : Setting} {plain flagged next final : Progress}

/-! ### One move -/

/-- Where the flag is not given again, both readings make the same move. -/
theorem Adds.make {move : Move} (adds : Adds flag setting plain flagged)
    (member : flag ∈ rules plain.job) (form : flag.form = .flag setting)
    (fits : move.Fits plain.job) (made : plain.make move = .ok next)
    (absent : setting ∉ next.settings) :
    ∃ flaggedNext, flagged.make move = .ok flaggedNext ∧ Adds flag setting next flaggedNext := by
  cases move with
  | stop reason => cases made
  | expect expected =>
      cases made
      exact ⟨_, rfl, adds.job, rfl, adds.settings, adds.given⟩
  | settle rule settled =>
      obtain ⟨allowed, rfl⟩ := settle_ok_iff.mp made
      have otherName : rule.name ≠ flag.name := by
        intro sameName
        have sameRule : rule = flag := rule_eq_of_name_eq fits.1 member sameName
        have sameSetting : settled = setting := fits.2 setting (sameRule ▸ form)
        exact absent (List.mem_append_right _ (List.mem_singleton.mpr sameSetting.symm))
      have stillAllowed : rule.repeatable = true ∨ rule.name ∉ flagged.given := by
        rcases allowed with repeatable | notGiven
        · exact .inl repeatable
        · right
          intro given
          rcases (adds.given rule.name).mp given with sameName | before
          · exact otherName sameName
          · exact notGiven before
      refine ⟨_, settle_ok_iff.mpr ⟨stillAllowed, rfl⟩, adds.job, rfl, ?_, ?_⟩
      · obtain ⟨earlier, later, plainSettings, flaggedSettings⟩ := adds.settings
        refine ⟨earlier, later ++ [settled], ?_, ?_⟩
        · rw [plainSettings, List.append_assoc]
        · rw [flaggedSettings, List.append_assoc, List.cons_append]
      · intro name
        rw [List.mem_cons, List.mem_cons, adds.given name]
        exact or_left_comm
  | enter job => exact fits.elim

theorem Adds.makeAll {moves : List Move} (adds : Adds flag setting plain flagged)
    (member : flag ∈ rules plain.job) (form : flag.form = .flag setting)
    (fits : ∀ move ∈ moves, move.Fits plain.job)
    (made : moves.foldlM Progress.make plain = .ok final) (absent : setting ∉ final.settings) :
    ∃ flaggedFinal, moves.foldlM Progress.make flagged = .ok flaggedFinal ∧
      Adds flag setting final flaggedFinal := by
  induction moves generalizing plain flagged with
  | nil =>
      cases made
      exact ⟨flagged, rfl, adds⟩
  | cons move rest inductionHypothesis =>
      obtain ⟨next, moved, restMade⟩ := foldlM_cons_ok.mp made
      obtain ⟨moveFits, restFits⟩ := List.forall_mem_cons.mp fits
      have sameJob : next.job = plain.job := make_job moveFits moved
      have notYet : setting ∉ next.settings := fun settled =>
        absent (makeAll_settings restMade settled)
      obtain ⟨flaggedNext, flaggedMoved, nextAdds⟩ := adds.make member form moveFits moved notYet
      obtain ⟨flaggedFinal, flaggedRest, finalAdds⟩ :=
        inductionHypothesis nextAdds (sameJob ▸ member) (sameJob ▸ restFits) restMade
      exact ⟨flaggedFinal, foldlM_cons_ok.mpr ⟨flaggedNext, flaggedMoved, flaggedRest⟩, finalAdds⟩

/-! ### A list of arguments behind the job -/

theorem Adds.read {job : JobName} {arguments : List Bytes}
    (adds : Adds flag setting plain flagged) (sound : plain.Sound) (named : plain.job = some job)
    (member : flag ∈ rules (some job)) (form : flag.form = .flag setting)
    (ran : arguments.foldlM advance plain = .ok final) (absent : setting ∉ final.settings) :
    ∃ flaggedFinal, arguments.foldlM advance flagged = .ok flaggedFinal ∧
      Adds flag setting final flaggedFinal := by
  induction arguments generalizing plain flagged with
  | nil =>
      cases ran
      exact ⟨flagged, rfl, adds⟩
  | cons argument rest inductionHypothesis =>
      obtain ⟨next, advanced, restRan⟩ := foldlM_cons_ok.mp ran
      have notYet : setting ∉ next.settings := fun settled =>
        absent (read_settings restRan settled)
      obtain ⟨nextSound, nextJob⟩ := sound.advance advanced
      have stillNamed : next.job = some job := by
        rcases nextJob with sameJob | ⟨noJob, -⟩
        · exact sameJob.trans named
        · cases named.symm.trans noJob
      rcases Move.ofArgument_fits sound.awaited argument with ⟨entered, noJob, -⟩ | fits
      · cases named.symm.trans noJob
      · rw [advance_eq_make] at advanced
        obtain ⟨flaggedNext, flaggedMade, nextAdds⟩ :=
          adds.makeAll (named ▸ member) form fits advanced notYet
        have flaggedAdvanced : flagged.advance argument = .ok flaggedNext := by
          rw [advance_eq_make, adds.job, adds.expects]
          exact flaggedMade
        obtain ⟨flaggedFinal, flaggedRest, finalAdds⟩ :=
          inductionHypothesis nextAdds nextSound stillNamed restRan
        exact ⟨flaggedFinal, foldlM_cons_ok.mpr ⟨flaggedNext, flaggedAdvanced, flaggedRest⟩,
          finalAdds⟩

end Progress

/-! ### Showing the command only -/

/-- The option that shows the command and runs nothing. -/
def dryRunRule : OptionRule := .flag "dry-run" .dryRun

/-- The argument that asks for it. -/
def dryRunArgument : Bytes := Text.Utf8.encode "--dry-run"

/-- Arguments behind which an option of the `translate` job may stand. -/
def TakesOption (before : List Bytes) : Prop :=
  ∃ progress, before.foldlM Progress.advance Progress.start = .ok progress ∧
    progress.job = some .translate ∧ progress.expects = .anything

theorem dryRunRule_mem : dryRunRule ∈ rules (some .translate) := by
  simp [rules, dryRunRule]

section Insertion

variable (earlier later : List Setting)

theorem findSome?_insert_dryRun {α : Type} (value : Setting → Option α)
    (ignored : value .dryRun = none) :
    (earlier ++ .dryRun :: later).findSome? value = (earlier ++ later).findSome? value := by
  rw [List.findSome?_append, List.findSome?_append, List.findSome?_cons, ignored]

theorem filterMap_insert_dryRun {α : Type} (value : Setting → Option α)
    (ignored : value .dryRun = none) :
    (earlier ++ .dryRun :: later).filterMap value = (earlier ++ later).filterMap value := by
  rw [List.filterMap_append, List.filterMap_append, List.filterMap_cons_none ignored]

theorem contains_insert_dryRun {setting : Setting} (other : setting ≠ .dryRun) :
    (earlier ++ .dryRun :: later).contains setting = (earlier ++ later).contains setting := by
  simp [other]

end Insertion

/-- One more flag changes one option. -/
theorem translateOptions_insert_dryRun {earlier later : List Setting} {options : TranslateOptions}
    (made : Progress.translateOptions (earlier ++ later) = some options) :
    Progress.translateOptions (earlier ++ .dryRun :: later) =
      some { options with dryRun := true } := by
  obtain ⟨platform, input, platformSettled, inputSettled, rfl⟩ :=
    Progress.translateOptions_eq_some_iff.mp made
  have flagSettled : (earlier ++ Setting.dryRun :: later).contains .dryRun = true := by simp
  apply Progress.translateOptions_eq_some_iff.mpr
  refine ⟨platform, input, ?_, ?_, ?_⟩
  · rw [findSome?_insert_dryRun _ _ _ rfl, platformSettled]
  · rw [findSome?_insert_dryRun _ _ _ rfl, inputSettled]
  · simp only [findSome?_insert_dryRun _ _ Setting.binaryFormat? rfl,
      findSome?_insert_dryRun _ _ Setting.features? rfl,
      findSome?_insert_dryRun _ _ Setting.output? rfl,
      findSome?_insert_dryRun _ _ Setting.debugInfo? rfl,
      findSome?_insert_dryRun _ _ Setting.configuration? rfl,
      filterMap_insert_dryRun _ _ Setting.backendOption? rfl,
      contains_insert_dryRun _ _ (show Setting.timePasses ≠ .dryRun from nofun),
      contains_insert_dryRun _ _ (show Setting.json ≠ .dryRun from nofun), flagSettled]

namespace Progress

variable {verbose : Bool} {options : TranslateOptions}

theorem Adds.finish {final flaggedFinal : Progress}
    (adds : Adds dryRunRule .dryRun final flaggedFinal) (named : final.job = some .translate)
    (finished : final.finish = .ok ⟨verbose, .translate options⟩) :
    flaggedFinal.finish = .ok ⟨verbose, .translate { options with dryRun := true }⟩ := by
  obtain ⟨nothingAwaited, made, isVerbose⟩ := (finish_translate_iff named).mp finished
  obtain ⟨earlier, later, plainSettings, flaggedSettings⟩ := adds.settings
  have verboseOther : Setting.verbose ≠ .dryRun := nofun
  apply (finish_translate_iff (adds.job.trans named)).mpr
  refine ⟨?_, ?_, ?_⟩
  · rw [adds.expects]
    exact nothingAwaited
  · rw [plainSettings] at made
    rw [flaggedSettings]
    exact translateOptions_insert_dryRun made
  · rw [isVerbose, plainSettings, flaggedSettings]
    exact (contains_insert_dryRun earlier later verboseOther).symm

/-- Where anything may come, the flag is settled unless it was before. -/
theorem advance_dryRun {progress : Progress} (sound : progress.Sound)
    (named : progress.job = some .translate) (free : progress.expects = .anything)
    (absent : .dryRun ∉ progress.settings) :
    ∃ flagged, progress.advance dryRunArgument = .ok flagged ∧
      Adds dryRunRule .dryRun progress flagged := by
  have moves : Move.ofArgument (some .translate) .anything dryRunArgument =
      [.settle dryRunRule .dryRun] := rfl
  have notGiven : dryRunRule.name ∉ progress.given := fun given =>
    absent (sound.recorded dryRunRule .dryRun (named ▸ dryRunRule_mem) rfl given)
  let flagged : Progress :=
    ⟨progress.job, .anything, progress.settings ++ [.dryRun], dryRunRule.name :: progress.given⟩
  refine ⟨flagged, ?_, rfl, free.symm, ⟨progress.settings, [], ?_, rfl⟩, fun _ => List.mem_cons⟩
  · rw [advance_eq_make, named, free, moves, foldlM_make_singleton]
    exact settle_ok_iff.mpr ⟨.inr notGiven, rfl⟩
  · rw [List.append_nil]

end Progress

variable {verbose : Bool} {options : TranslateOptions} {before after arguments : List Bytes}

/-- **One more argument sets one option.** With `--dry-run` where an option may stand, the
arguments make the command line that they make without it, but for that option. -/
theorem read_insert_dryRun (place : TakesOption before)
    (accepted : read (before ++ after) = .ok ⟨verbose, .translate options⟩)
    (wet : options.dryRun = false) :
    read (before ++ dryRunArgument :: after) =
      .ok ⟨verbose, .translate { options with dryRun := true }⟩ := by
  obtain ⟨progress, beforeRan, named, free⟩ := place
  obtain ⟨final, ran, finished⟩ := read_ok_iff.mp accepted
  obtain ⟨_, sameRan, afterRan⟩ := foldlM_append_ok.mp ran
  cases beforeRan.symm.trans sameRan
  have sound : progress.Sound := Progress.sound_start.read beforeRan
  have finalNamed : final.job = some .translate := sound.read_job named afterRan
  obtain ⟨-, made, -⟩ := (Progress.finish_translate_iff finalNamed).mp finished
  -- The flag is settled nowhere, so it is not yet given at its place nor again behind it.
  have absent : .dryRun ∉ final.settings := by
    intro settled
    have isDry : options.dryRun = final.settings.contains .dryRun :=
      Progress.translateOptions_dryRun made
    rw [wet, List.contains_iff_mem.mpr settled] at isDry
    cases isDry
  have notYet : .dryRun ∉ progress.settings := fun settled =>
    absent (Progress.read_settings afterRan settled)
  obtain ⟨flagged, advanced, adds⟩ := Progress.advance_dryRun sound named free notYet
  obtain ⟨flaggedFinal, flaggedRan, finalAdds⟩ :=
    adds.read sound named dryRunRule_mem rfl afterRan absent
  refine read_ok_iff.mpr ⟨flaggedFinal, ?_, finalAdds.finish finalNamed finished⟩
  exact foldlM_append_ok.mpr
    ⟨progress, beforeRan, foldlM_cons_ok.mpr ⟨flagged, advanced, flaggedRan⟩⟩

/-- There is such a place: behind the name of the job. -/
theorem exists_takesOption (accepted : read arguments = .ok ⟨verbose, .translate options⟩) :
    ∃ before after, arguments = before ++ after ∧ TakesOption before := by
  obtain ⟨final, ran, finished⟩ := read_ok_iff.mp accepted
  have named : final.job = some .translate := Progress.job_of_finish_translate finished
  obtain ⟨before, after, entered, split, beforeRan, enteredJob, free⟩ :=
    Progress.sound_start.exists_entered rfl ran named
  exact ⟨before, after, split, entered, beforeRan, enteredJob, free⟩

end KernelForge.CommandLine
