import KernelForge.Proofs.ArgumentMoves

/-!
Contract: what the reader keeps while it goes through the arguments.

Owns: that an option is known by its name, that what was settled stays settled, and that
a flag that was given has settled what it settles; each for one move, one argument and a
whole list of arguments.

Does not own: the command line that comes out.
-/

namespace KernelForge.CommandLine

/-! ### Lists of steps that may fail -/

theorem foldlM_cons_ok {σ α ε : Type} {step : σ → α → Except ε σ} {state final : σ}
    {item : α} {rest : List α} :
    (item :: rest).foldlM step state = .ok final ↔
      ∃ next, step state item = .ok next ∧ rest.foldlM step next = .ok final := by
  rw [List.foldlM_cons]
  cases step state item with
  | error reason =>
      constructor
      · intro ran
        cases ran
      · rintro ⟨next, stepped, -⟩
        cases stepped
  | ok next =>
      constructor
      · intro ran
        exact ⟨next, rfl, ran⟩
      · rintro ⟨_, stepped, ran⟩
        cases stepped
        exact ran

theorem foldlM_append_ok {σ α ε : Type} {step : σ → α → Except ε σ} {state final : σ}
    {first second : List α} :
    (first ++ second).foldlM step state = .ok final ↔
      ∃ middle, first.foldlM step state = .ok middle ∧ second.foldlM step middle = .ok final := by
  induction first generalizing state with
  | nil =>
      constructor
      · intro ran
        exact ⟨state, rfl, ran⟩
      · rintro ⟨_, stayed, ran⟩
        cases stayed
        exact ran
  | cons item rest inductionHypothesis =>
      rw [List.cons_append, foldlM_cons_ok]
      constructor
      · rintro ⟨next, stepped, restRan⟩
        obtain ⟨middle, firstRan, secondRan⟩ := inductionHypothesis.mp restRan
        exact ⟨middle, foldlM_cons_ok.mpr ⟨next, stepped, firstRan⟩, secondRan⟩
      · rintro ⟨middle, firstRan, secondRan⟩
        obtain ⟨next, stepped, restRan⟩ := foldlM_cons_ok.mp firstRan
        exact ⟨next, stepped, inductionHypothesis.mpr ⟨middle, restRan, secondRan⟩⟩

/-- What every step keeps, a list of steps keeps. -/
theorem foldlM_preserves {σ α ε : Type} {step : σ → α → Except ε σ} (kept : σ → Prop)
    (stepKeeps : ∀ {state item next}, kept state → step state item = .ok next → kept next)
    {state final : σ} {items : List α} (holds : kept state)
    (ran : items.foldlM step state = .ok final) : kept final := by
  induction items generalizing state with
  | nil =>
      cases ran
      exact holds
  | cons item rest inductionHypothesis =>
      obtain ⟨next, stepped, restRan⟩ := foldlM_cons_ok.mp ran
      exact inductionHypothesis (stepKeeps holds stepped) restRan

/-- Where every step can be made from a related state, to a related state, a list of steps
can. -/
theorem foldlM_simulates {σ τ α ε : Type} {step : σ → α → Except ε σ}
    {otherStep : τ → α → Except ε τ} (related : σ → τ → Prop)
    (stepSimulates : ∀ {state otherState item next}, related state otherState →
      step state item = .ok next →
        ∃ otherNext, otherStep otherState item = .ok otherNext ∧ related next otherNext)
    {state final : σ} {otherState : τ} {items : List α} (starts : related state otherState)
    (ran : items.foldlM step state = .ok final) :
    ∃ otherFinal, items.foldlM otherStep otherState = .ok otherFinal ∧
      related final otherFinal := by
  induction items generalizing state otherState with
  | nil =>
      cases ran
      exact ⟨otherState, rfl, starts⟩
  | cons item rest inductionHypothesis =>
      obtain ⟨next, stepped, restRan⟩ := foldlM_cons_ok.mp ran
      obtain ⟨otherNext, otherStepped, nextRelated⟩ := stepSimulates starts stepped
      obtain ⟨otherFinal, otherRestRan, finalRelated⟩ := inductionHypothesis nextRelated restRan
      exact ⟨otherFinal, foldlM_cons_ok.mpr ⟨otherNext, otherStepped, otherRestRan⟩, finalRelated⟩

/-! ### The rules -/

theorem names_differ (job : Option JobName) :
    (rules job).Pairwise fun rule other => rule.name ≠ other.name := by
  have distinct : ((rules job).map OptionRule.name).Nodup := by
    rcases job with _ | _ | _ | _ <;> decide
  exact List.pairwise_map.mp distinct

theorem rule_eq_of_name_eq {job : Option JobName} {rule other : OptionRule}
    (member : rule ∈ rules job) (otherMember : other ∈ rules job)
    (sameName : rule.name = other.name) : rule = other := by
  have forwards : (rules job).Pairwise fun rule other => rule.name = other.name → rule = other :=
    (names_differ job).imp fun different same => absurd same different
  have backwards : (rules job).Pairwise fun rule other => other.name = rule.name → other = rule :=
    (names_differ job).imp fun different same => absurd same.symm different
  exact List.Pairwise.forall_of_forall_of_flip (fun _ _ _ => rfl) forwards backwards member
    otherMember sameName

/-! ### Moves that the rules allow -/

/-- A move by the rules of a job: only options of the job are awaited and settled, a flag
settles what it stands for, and no other job is entered. -/
def Move.Fits (job : Option JobName) : Move → Prop
  | .stop _ => True
  | .expect next => ∀ rule, next = .value rule → rule ∈ rules job
  | .settle rule setting => rule ∈ rules job ∧ ∀ flag, rule.form = .flag flag → setting = flag
  | .enter _ => False

namespace Move

variable {job : Option JobName} {rule : OptionRule}

theorem nameMove_fits (member : rule ∈ rules job) : rule.nameMove.Fits job := by
  have awaits : (expect (.value rule)).Fits job := by
    rintro _ ⟨⟩
    exact member
  unfold OptionRule.nameMove
  cases form : rule.form with
  | flag setting =>
      refine ⟨member, fun flag flagForm => ?_⟩
      cases form.symm.trans flagForm
      rfl
  | text setting => exact awaits
  | path setting => exact awaits
  | halt reason => trivial

theorem valueMove_fits (member : rule ∈ rules job) (value : Bytes) :
    (rule.valueMove value).Fits job := by
  unfold OptionRule.valueMove
  cases form : rule.form with
  | flag setting => trivial
  | text setting =>
      cases Text.Utf8.decode? value with
      | none => trivial
      | some text => exact ⟨member, fun flag flagForm => nomatch form.symm.trans flagForm⟩
  | path setting =>
      by_cases empty : value = []
      · simp only [empty, if_true]
        trivial
      · simp only [empty, if_false]
        exact ⟨member, fun flag flagForm => nomatch form.symm.trans flagForm⟩
  | halt reason => trivial

theorem ofLong_fits (job : Option JobName) (body : Bytes) : (ofLong job body).Fits job := by
  unfold ofLong
  split
  · trivial
  · next rule found =>
      have member := List.mem_of_find?_eq_some found
      split
      · exact nameMove_fits member
      · exact valueMove_fits member _

theorem ofLetter_fits (job : Option JobName) (letter : UInt8) : (ofLetter job letter).Fits job := by
  unfold ofLetter
  split
  · trivial
  · next rule found => exact nameMove_fits (List.mem_of_find?_eq_some found)

theorem ofWord_fits (job : Option JobName) (word : Bytes) :
    (∃ entered, job = none ∧ ofWord job word = .enter entered) ∨ (ofWord job word).Fits job := by
  unfold ofWord
  cases job with
  | some named => exact .inr trivial
  | none =>
      cases JobName.ofWord? word with
      | some entered => exact .inl ⟨entered, rfl, rfl⟩
      | none =>
          right
          simp only
          split
          · intro rule isValue
            cases isValue
          · trivial

/-- An argument names the job, as its only move, or keeps to the rules. -/
theorem ofFree_fits (job : Option JobName) (argument : Bytes) :
    (∃ entered, job = none ∧ ofFree job argument = [.enter entered]) ∨
      ∀ move ∈ ofFree job argument, move.Fits job := by
  unfold ofFree
  split
  · right
    simp only [List.forall_mem_singleton]
    intro rule isValue
    cases isValue
  · right
    simp only [List.forall_mem_singleton]
    exact ofLong_fits job _
  · right
    intro move member
    obtain ⟨letter, -, rfl⟩ := List.mem_map.mp member
    exact ofLetter_fits job letter
  · rcases ofWord_fits job argument with ⟨entered, noJob, enters⟩ | fits
    · exact .inl ⟨entered, noJob, by rw [enters]⟩
    · right
      simp only [List.forall_mem_singleton]
      exact fits

theorem ofArgument_fits {expects : Expectation}
    (awaited : ∀ rule, expects = .value rule → rule ∈ rules job) (argument : Bytes) :
    (∃ entered, job = none ∧ ofArgument job expects argument = [.enter entered]) ∨
      ∀ move ∈ ofArgument job expects argument, move.Fits job := by
  cases expects with
  | nothing =>
      right
      simp only [ofArgument, List.forall_mem_singleton]
      trivial
  | topic given =>
      right
      simp only [ofArgument, List.forall_mem_singleton]
      split
      · intro rule isValue
        cases isValue
      · trivial
  | value rule =>
      right
      simp only [ofArgument, List.forall_mem_singleton]
      split
      · exact valueMove_fits (awaited rule rfl) argument
      · trivial
  | anything => exact ofFree_fits job argument

end Move

/-! ### What one move keeps -/

namespace Progress

/-- What holds of every progress that the reader makes: an awaited value belongs to an
option of the job, and a flag of the job that was given has settled what it stands for. -/
structure Sound (progress : Progress) : Prop where
  awaited : ∀ rule, progress.expects = .value rule → rule ∈ rules progress.job
  recorded : ∀ rule setting, rule ∈ rules progress.job → rule.form = .flag setting →
    rule.name ∈ progress.given → setting ∈ progress.settings

theorem sound_start : start.Sound where
  awaited := fun _ isValue => nomatch isValue
  recorded := fun _ _ _ _ given => nomatch given

variable {progress next final : Progress} {move : Move}

theorem settle_ok_iff {rule : OptionRule} {setting : Setting} :
    progress.settle rule setting = .ok next ↔
      (rule.repeatable = true ∨ rule.name ∉ progress.given) ∧
        next = ⟨progress.job, .anything, progress.settings ++ [setting],
          rule.name :: progress.given⟩ := by
  unfold settle
  by_cases again : rule.repeatable = false ∧ rule.name ∈ progress.given
  · rw [if_pos again]
    constructor
    · intro refused
      cases refused
    · rintro ⟨repeatable | notGiven, -⟩
      · cases again.1.symm.trans repeatable
      · exact absurd again.2 notGiven
  · rw [if_neg again]
    constructor
    · intro settled
      cases settled
      refine ⟨?_, rfl⟩
      cases repeatable : rule.repeatable with
      | true => exact .inl rfl
      | false => exact .inr fun given => again ⟨repeatable, given⟩
    · rintro ⟨-, rfl⟩
      rfl

theorem make_settings (made : progress.make move = .ok next) :
    progress.settings ⊆ next.settings := by
  cases move with
  | stop reason => cases made
  | expect expected =>
      cases made
      exact List.Subset.refl progress.settings
  | settle rule setting =>
      obtain ⟨-, rfl⟩ := settle_ok_iff.mp made
      exact List.subset_append_left progress.settings [setting]
  | enter job =>
      cases made
      exact List.Subset.refl progress.settings

theorem makeAll_settings {moves : List Move}
    (made : moves.foldlM Progress.make progress = .ok final) :
    progress.settings ⊆ final.settings := by
  refine foldlM_preserves (fun state => progress.settings ⊆ state.settings) ?_
    (List.Subset.refl progress.settings) made
  intro state move after earlier moved
  exact List.Subset.trans earlier (make_settings moved)

theorem make_job (fits : move.Fits progress.job) (made : progress.make move = .ok next) :
    next.job = progress.job := by
  cases move with
  | stop reason => cases made
  | expect expected =>
      cases made
      rfl
  | settle rule setting =>
      obtain ⟨-, rfl⟩ := settle_ok_iff.mp made
      rfl
  | enter job => exact fits.elim

theorem Sound.make (sound : progress.Sound) (fits : move.Fits progress.job)
    (made : progress.make move = .ok next) : next.Sound := by
  cases move with
  | stop reason => cases made
  | expect expected =>
      cases made
      exact ⟨fits, sound.recorded⟩
  | settle rule setting =>
      obtain ⟨-, rfl⟩ := settle_ok_iff.mp made
      constructor
      · intro other isValue
        cases isValue
      · intro other flag member form given
        rcases List.mem_cons.mp given with sameName | before
        · -- The flag that was just given: its name leaves no other rule.
          have sameRule : other = rule := rule_eq_of_name_eq member fits.1 sameName
          have sameSetting : setting = flag := fits.2 flag (sameRule ▸ form)
          exact List.mem_append_right _ (List.mem_singleton.mpr sameSetting.symm)
        · exact List.mem_append_left _ (sound.recorded other flag member form before)
  | enter job => exact fits.elim

/-! ### What one argument keeps -/

variable {argument : Bytes}

theorem advance_settings (advanced : progress.advance argument = .ok next) :
    progress.settings ⊆ next.settings := by
  rw [advance_eq_make] at advanced
  exact makeAll_settings advanced

theorem Sound.makeAll {moves : List Move} (sound : progress.Sound)
    (fits : ∀ move ∈ moves, move.Fits progress.job)
    (made : moves.foldlM Progress.make progress = .ok final) :
    final.Sound ∧ final.job = progress.job := by
  induction moves generalizing progress with
  | nil =>
      cases made
      exact ⟨sound, rfl⟩
  | cons move rest inductionHypothesis =>
      obtain ⟨next, moved, restMade⟩ := foldlM_cons_ok.mp made
      obtain ⟨moveFits, restFits⟩ := List.forall_mem_cons.mp fits
      have sameJob : next.job = progress.job := make_job moveFits moved
      obtain ⟨finalSound, finalJob⟩ :=
        inductionHypothesis (sound.make moveFits moved) (sameJob ▸ restFits) restMade
      exact ⟨finalSound, finalJob.trans sameJob⟩

/-- An argument names the job, and then anything may come, or it keeps the job. -/
theorem Sound.advance (sound : progress.Sound) (advanced : progress.advance argument = .ok next) :
    next.Sound ∧
      (next.job = progress.job ∨ progress.job = none ∧ next.expects = .anything) := by
  rw [advance_eq_make] at advanced
  rcases Move.ofArgument_fits sound.awaited argument with ⟨entered, noJob, enters⟩ | fits
  · rw [enters, foldlM_make_singleton] at advanced
    cases advanced
    refine ⟨⟨?_, ?_⟩, .inr ⟨noJob, rfl⟩⟩
    · intro rule isValue
      cases isValue
    · intro rule setting _ _ given
      cases given
  · obtain ⟨nextSound, sameJob⟩ := sound.makeAll fits advanced
    exact ⟨nextSound, .inl sameJob⟩

/-! ### What a list of arguments keeps -/

variable {arguments : List Bytes}

theorem read_settings (ran : arguments.foldlM Progress.advance progress = .ok final) :
    progress.settings ⊆ final.settings := by
  refine foldlM_preserves (fun state => progress.settings ⊆ state.settings) ?_
    (List.Subset.refl progress.settings) ran
  intro state argument after earlier advanced
  exact List.Subset.trans earlier (advance_settings advanced)

theorem Sound.read (sound : progress.Sound)
    (ran : arguments.foldlM Progress.advance progress = .ok final) : final.Sound :=
  foldlM_preserves Sound (fun earlier advanced => (earlier.advance advanced).1) sound ran

/-- Behind the job there is no other. -/
theorem Sound.read_job {job : JobName} (sound : progress.Sound) (named : progress.job = some job)
    (ran : arguments.foldlM Progress.advance progress = .ok final) : final.job = some job := by
  have kept : final.Sound ∧ final.job = some job := by
    refine foldlM_preserves (fun state => state.Sound ∧ state.job = some job) ?_
      ⟨sound, named⟩ ran
    rintro state argument after ⟨earlier, stillNamed⟩ advanced
    obtain ⟨afterSound, sameJob | ⟨noJob, -⟩⟩ := earlier.advance advanced
    · exact ⟨afterSound, sameJob.trans stillNamed⟩
    · cases stillNamed.symm.trans noJob
  exact kept.2

/-- A list of arguments that names the job names it in one of them, behind which
anything may come. -/
theorem Sound.exists_entered {job : JobName} (sound : progress.Sound) (noJob : progress.job = none)
    (ran : arguments.foldlM Progress.advance progress = .ok final) (named : final.job = some job) :
    ∃ before after entered, arguments = before ++ after ∧
      before.foldlM Progress.advance progress = .ok entered ∧ entered.job = some job ∧
      entered.expects = .anything := by
  induction arguments generalizing progress with
  | nil =>
      cases ran
      cases noJob.symm.trans named
  | cons argument rest inductionHypothesis =>
      obtain ⟨next, advanced, restRan⟩ := foldlM_cons_ok.mp ran
      obtain ⟨nextSound, nextJob⟩ := sound.advance advanced
      cases stillOpen : next.job with
      | none =>
          obtain ⟨before, after, entered, split, beforeRan, enteredJob⟩ :=
            inductionHypothesis nextSound stillOpen restRan
          refine ⟨argument :: before, after, entered, ?_, ?_, enteredJob⟩
          · rw [split, List.cons_append]
          · exact foldlM_cons_ok.mpr ⟨next, advanced, beforeRan⟩
      | some other =>
          have sameJob : other = job :=
            Option.some.inj ((nextSound.read_job stillOpen restRan).symm.trans named)
          rcases nextJob with unchanged | ⟨-, free⟩
          · cases stillOpen.symm.trans (unchanged.trans noJob)
          · refine ⟨[argument], rest, next, rfl, ?_, sameJob ▸ stillOpen, free⟩
            exact foldlM_cons_ok.mpr ⟨next, advanced, rfl⟩

/-! ### The options that settings make -/

/-- The options are made if the platform and the input are settled. -/
theorem translateOptions_eq_some_iff {settings : List Setting} {options : TranslateOptions} :
    translateOptions settings = some options ↔
      ∃ platform input, settings.findSome? Setting.platform? = some platform ∧
        settings.findSome? Setting.input? = some input ∧
        options =
          { platform
            input
            binaryFormat := (settings.findSome? Setting.binaryFormat?).getD defaultBinaryFormat
            features := (settings.findSome? Setting.features?).getD ""
            backendOptions := settings.filterMap Setting.backendOption?
            timePasses := settings.contains .timePasses
            output := settings.findSome? Setting.output?
            debugInfo := settings.findSome? Setting.debugInfo?
            configuration := settings.findSome? Setting.configuration?
            dryRun := settings.contains .dryRun
            json := settings.contains .json } := by
  unfold translateOptions
  cases settings.findSome? Setting.platform? with
  | none => simp
  | some platform =>
      cases settings.findSome? Setting.input? with
      | none => simp
      | some input =>
          simp only [Option.bind_eq_bind, Option.bind_some, Option.some.injEq, exists_eq_left',
            exists_and_left]
          exact eq_comm

theorem translateOptions_dryRun {settings : List Setting} {options : TranslateOptions}
    (made : translateOptions settings = some options) :
    options.dryRun = settings.contains .dryRun := by
  obtain ⟨_, _, -, -, rfl⟩ := translateOptions_eq_some_iff.mp made
  rfl

theorem job_of_finish_translate {verbose : Bool} {options : TranslateOptions}
    (finished : progress.finish = .ok ⟨verbose, .translate options⟩) :
    progress.job = some .translate := by
  unfold finish at finished
  split at finished
  · cases finished
  · cases finished
  · cases named : progress.job with
    | none => simp [named] at finished
    | some job =>
        cases job with
        | translate => rfl
        | platforms => simp [named, jobOf] at finished
        | doctor => simp [named, jobOf] at finished

/-- The `translate` job is made where nothing is awaited and its options can be made. -/
theorem finish_translate_iff {verbose : Bool} {options : TranslateOptions}
    (named : progress.job = some .translate) :
    progress.finish = .ok ⟨verbose, .translate options⟩ ↔
      (progress.expects = .anything ∨ progress.expects = .nothing) ∧
        translateOptions progress.settings = some options ∧
        verbose = progress.settings.contains .verbose := by
  have made : progress.job.bind (fun name => jobOf name progress.settings) =
      (translateOptions progress.settings).map Job.translate := by
    rw [named]
    rfl
  unfold finish
  cases progress.expects with
  | value rule => simp
  | topic given => simp
  | anything =>
      rw [made]
      cases translateOptions progress.settings <;> simp [eq_comm, and_comm]
  | nothing =>
      rw [made]
      cases translateOptions progress.settings <;> simp [eq_comm, and_comm]

end Progress

theorem read_ok_iff {arguments : List Bytes} {commandLine : CommandLine} :
    read arguments = .ok commandLine ↔
      ∃ final, arguments.foldlM Progress.advance Progress.start = .ok final ∧
        final.finish = .ok commandLine := by
  unfold read
  cases arguments.foldlM Progress.advance Progress.start <;> simp

end KernelForge.CommandLine
