import Mathlib.Logic.Relation
import KernelForge.Proofs.SettledOptions

/-!
Contract: reading the arguments of a translation with and without verbose flags.

Owns: the relation between two readings of which one settles verbosity more often, its
preservation move by move, and that the flag changes no option of the `translate` job.

The flag may be refused where it is given twice, so it is taken away rather than added:
whatever is accepted with it is accepted without it.

Does not own: what the program does with the flag.
-/

namespace KernelForge.CommandLine

/-! ### The options without the flag -/

/-- The settings apart from verbosity. -/
def silent (settings : List Setting) : List Setting :=
  settings.filter (· ≠ .verbose)

theorem filterMap_silent {α : Type} (value : Setting → Option α) (ignored : value .verbose = none)
    (settings : List Setting) : (silent settings).filterMap value = settings.filterMap value := by
  have sameValue : (fun setting => if decide (setting ≠ .verbose) = true then value setting
      else none) = value := by
    funext setting
    by_cases isFlag : setting = .verbose <;> simp [isFlag, ignored]
  rw [silent, List.filterMap_filter, sameValue]

theorem findSome?_silent {α : Type} (value : Setting → Option α) (ignored : value .verbose = none)
    (settings : List Setting) : (silent settings).findSome? value = settings.findSome? value := by
  rw [← List.head?_filterMap, filterMap_silent value ignored, List.head?_filterMap]

theorem contains_silent {setting : Setting} (other : setting ≠ .verbose)
    (settings : List Setting) : (silent settings).contains setting = settings.contains setting := by
  rw [Bool.eq_iff_iff, List.contains_iff_mem, List.contains_iff_mem]
  simp [silent, other]

/-- Verbosity is no option of the job. -/
theorem translateOptions_silent (settings : List Setting) :
    Progress.translateOptions (silent settings) = Progress.translateOptions settings := by
  simp only [Progress.translateOptions, findSome?_silent Setting.platform? rfl,
    findSome?_silent Setting.input? rfl, findSome?_silent Setting.binaryFormat? rfl,
    findSome?_silent Setting.features? rfl, findSome?_silent Setting.output? rfl,
    findSome?_silent Setting.debugInfo? rfl, findSome?_silent Setting.configuration? rfl,
    filterMap_silent Setting.backendOption? rfl,
    contains_silent (show Setting.timePasses ≠ .verbose from nofun),
    contains_silent (show Setting.dryRun ≠ .verbose from nofun),
    contains_silent (show Setting.json ≠ .verbose from nofun)]

namespace Progress

/-- The second progress has settled verbosity at least as often as the first, has given the
names of at least the same options, and agrees with it otherwise. -/
structure Louder (plain loud : Progress) : Prop where
  job : loud.job = plain.job
  expects : loud.expects = plain.expects
  settings : silent loud.settings = silent plain.settings
  given : plain.given ⊆ loud.given

variable {plain loud next final progress : Progress}

/-! ### One move, one argument, a list of arguments -/

/-- What the louder reading may do, the other may do too. -/
theorem Louder.make {move : Move} (louder : Louder plain loud) (made : loud.make move = .ok next) :
    ∃ plainNext, plain.make move = .ok plainNext ∧ Louder plainNext next := by
  cases move with
  | stop reason => cases made
  | expect expected =>
      cases made
      exact ⟨_, rfl, louder.job, rfl, louder.settings, louder.given⟩
  | settle rule setting =>
      obtain ⟨allowed, rfl⟩ := settle_ok_iff.mp made
      have stillAllowed : rule.repeatable = true ∨ rule.name ∉ plain.given :=
        allowed.imp_right fun notGiven given => notGiven (louder.given given)
      refine ⟨_, settle_ok_iff.mpr ⟨stillAllowed, rfl⟩, louder.job, rfl, ?_, ?_⟩
      · have before := louder.settings
        unfold silent at before ⊢
        rw [List.filter_append, List.filter_append, before]
      · exact List.cons_subset_cons rule.name louder.given
  | enter job =>
      cases made
      exact ⟨_, rfl, rfl, rfl, louder.settings, List.Subset.refl []⟩

theorem Louder.advance {argument : Bytes} (louder : Louder plain loud)
    (advanced : loud.advance argument = .ok next) :
    ∃ plainNext, plain.advance argument = .ok plainNext ∧ Louder plainNext next := by
  rw [advance_eq_make, louder.job, louder.expects] at advanced
  rw [advance_eq_make]
  refine foldlM_simulates (fun loud plain => Louder plain loud) ?_ louder advanced
  intro state otherState move after earlier moved
  exact earlier.make moved

theorem Louder.read {arguments : List Bytes} (louder : Louder plain loud)
    (ran : arguments.foldlM Progress.advance loud = .ok final) :
    ∃ plainFinal, arguments.foldlM Progress.advance plain = .ok plainFinal ∧
      Louder plainFinal final := by
  refine foldlM_simulates (fun loud plain => Louder plain loud) ?_ louder ran
  intro state otherState argument after earlier advanced
  exact earlier.advance advanced

theorem Louder.finish {verbose : Bool} {options : TranslateOptions}
    (louder : Louder plain loud) (finished : loud.finish = .ok ⟨verbose, .translate options⟩) :
    ∃ otherVerbose, plain.finish = .ok ⟨otherVerbose, .translate options⟩ := by
  have named : loud.job = some .translate := job_of_finish_translate finished
  obtain ⟨nothingAwaited, made, -⟩ := (finish_translate_iff named).mp finished
  have plainMade : translateOptions plain.settings = some options := by
    rw [← translateOptions_silent, ← louder.settings, translateOptions_silent, made]
  refine ⟨_, (finish_translate_iff (louder.job ▸ named)).mpr ⟨?_, plainMade, rfl⟩⟩
  rw [← louder.expects]
  exact nothingAwaited

end Progress

/-! ### The flag among the arguments -/

/-- The arguments that ask for verbosity and for nothing else. -/
def verboseArguments : List Bytes :=
  [Text.Utf8.encode "--verbose", Text.Utf8.encode "-v"]

/-- The flag is an option before every job and behind it. -/
theorem moves_of_verboseArgument {flag : Bytes} (isFlag : flag ∈ verboseArguments)
    (job : Option JobName) :
    Move.ofArgument job .anything flag = [.settle .verbose .verbose] := by
  rcases List.mem_cons.mp isFlag with rfl | short
  · rcases job with _ | _ | _ | _ <;> rfl
  · cases List.mem_singleton.mp short
    rcases job with _ | _ | _ | _ <;> rfl

theorem Progress.advance_verboseArgument {progress next : Progress} {flag : Bytes}
    (isFlag : flag ∈ verboseArguments) (free : progress.expects = .anything)
    (advanced : progress.advance flag = .ok next) : progress.Louder next := by
  rw [advance_eq_make, free, moves_of_verboseArgument isFlag, foldlM_make_singleton] at advanced
  obtain ⟨-, rfl⟩ := settle_ok_iff.mp advanced
  refine ⟨rfl, free.symm, ?_, List.subset_cons_self _ _⟩
  simp [silent]

/-- The second list of arguments is the first with one more verbose flag, where an option may
stand. -/
def AddsVerbose (plain loud : List Bytes) : Prop :=
  ∃ before flag after progress, plain = before ++ after ∧ loud = before ++ flag :: after ∧
    flag ∈ verboseArguments ∧
    before.foldlM Progress.advance Progress.start = .ok progress ∧ progress.expects = .anything

/-- Two lists of arguments are the same but for verbose flags. -/
def SameButVerbose (arguments others : List Bytes) : Prop :=
  ∃ plain, Relation.ReflTransGen AddsVerbose plain arguments ∧
    Relation.ReflTransGen AddsVerbose plain others

variable {verbose otherVerbose : Bool} {options otherOptions : TranslateOptions}
  {plain loud arguments others : List Bytes}

/-- Without the flag the arguments ask for the same translation. -/
theorem AddsVerbose.read (adds : AddsVerbose plain loud)
    (accepted : read loud = .ok ⟨verbose, .translate options⟩) :
    ∃ otherVerbose, read plain = .ok ⟨otherVerbose, .translate options⟩ := by
  obtain ⟨before, flag, after, progress, rfl, rfl, isFlag, beforeRan, free⟩ := adds
  obtain ⟨final, ran, finished⟩ := read_ok_iff.mp accepted
  obtain ⟨_, sameRan, flagRan⟩ := foldlM_append_ok.mp ran
  cases beforeRan.symm.trans sameRan
  obtain ⟨flagged, advanced, afterRan⟩ := foldlM_cons_ok.mp flagRan
  have louder : progress.Louder flagged := Progress.advance_verboseArgument isFlag free advanced
  obtain ⟨plainFinal, plainRan, finalLouder⟩ := louder.read afterRan
  obtain ⟨otherVerbose, plainFinished⟩ := finalLouder.finish finished
  have wholeRan := foldlM_append_ok.mpr ⟨progress, beforeRan, plainRan⟩
  exact ⟨otherVerbose, read_ok_iff.mpr ⟨plainFinal, wholeRan, plainFinished⟩⟩

theorem read_of_addsVerbose (steps : Relation.ReflTransGen AddsVerbose plain loud)
    (accepted : read loud = .ok ⟨verbose, .translate options⟩) :
    ∃ otherVerbose, read plain = .ok ⟨otherVerbose, .translate options⟩ := by
  induction steps generalizing verbose with
  | refl => exact ⟨verbose, accepted⟩
  | tail _ last inductionHypothesis =>
      obtain ⟨_, lessAccepted⟩ := last.read accepted
      exact inductionHypothesis lessAccepted

/-- **Verbose flags change no option.** -/
theorem SameButVerbose.options_eq (same : SameButVerbose arguments others)
    (accepted : read arguments = .ok ⟨verbose, .translate options⟩)
    (otherAccepted : read others = .ok ⟨otherVerbose, .translate otherOptions⟩) :
    options = otherOptions := by
  obtain ⟨plain, steps, otherSteps⟩ := same
  obtain ⟨_, plainAccepted⟩ := read_of_addsVerbose steps accepted
  obtain ⟨_, plainOtherAccepted⟩ := read_of_addsVerbose otherSteps otherAccepted
  cases plainAccepted.symm.trans plainOtherAccepted
  rfl

end KernelForge.CommandLine
