import KernelForge.Program
import KernelForge.Proofs.SettledOptions
import KernelForge.Proofs.Utf8Reading

/-!
Contract: the arguments of a translation, whatever their order.

Owns: how a setting is spelled among the arguments, the orders in which chosen settings may be
given, the command line that they make in each of these orders, and the refusal of an option
that is given again and of a translation without a platform or an input.

A spelled setting is settled as a whole wherever an option may stand, so reading arguments is
settling settings. Only backend options may come more than once, and only their order counts.

Does not own: other spellings of a value, and the options before the job.
-/

namespace KernelForge.CommandLine

/-! ### How settings are spelled -/

namespace Setting

/-- The option that settles a setting. -/
def rule : Setting → OptionRule
  | .verbose => .verbose
  | .platform _ => .valued "platform" (.text .platform)
  | .binaryFormat _ => .valued "binary-format" (.text .binaryFormat)
  | .input _ => .valued "input" (.path .input)
  | .features _ => .valued "features" (.text .features)
  | .backendOption _ => .backendOption
  | .timePasses => .flag "time-passes" .timePasses
  | .output _ => .valued "output" (.path .output)
  | .debugInfo _ => .valued "debug-info" (.path .debugInfo)
  | .configuration _ => .configuration
  | .dryRun => .flag "dry-run" .dryRun
  | .json => .flag "json" .json
  | .format _ => .valued "format" (.text .format)

/-- The bytes of the value, unless the setting is a flag. -/
def value? : Setting → Option Bytes
  | .platform text | .binaryFormat text | .features text | .backendOption text | .format text =>
      some (Text.Utf8.encode text)
  | .input path | .output path | .debugInfo path | .configuration path => some path.bytes
  | .verbose | .timePasses | .dryRun | .json => none

/-- The setting as one argument: two hyphens, the name of its option, and the value behind an
equals sign. -/
def argument (setting : Setting) : Bytes :=
  Text.Utf8.encode ("--" ++ setting.rule.name) ++
    match setting.value? with
    | none => []
    | some value => 0x3D :: value

/-- A setting of a translation whose path, if it is one, is not empty. -/
def OfTranslation : Setting → Prop
  | .input path | .output path | .debugInfo path | .configuration path => path.bytes ≠ []
  | .format _ => False
  | _ => True

/-- The arguments that spell a setting. A backend option may be two arguments, and then its
value is anything but two hyphens. -/
inductive Spelled : Setting → List Bytes → Prop
  | whole (setting : Setting) : Spelled setting [setting.argument]
  | letter : Spelled .verbose [Text.Utf8.encode "-v"]
  | apart (text : String) (noEnd : text ≠ "--") :
      Spelled (.backendOption text) [Text.Utf8.encode "--llvm-option", Text.Utf8.encode text]

/-- The arguments that spell settings one after another. -/
inductive SpelledAll : List Setting → List Bytes → Prop
  | nil : SpelledAll [] []
  | cons {setting : Setting} {settings : List Setting} {front rest : List Bytes}
      (first : Spelled setting front) (others : SpelledAll settings rest) :
      SpelledAll (setting :: settings) (front ++ rest)

end Setting

/-! ### Options by their names -/

theorem equalsSign_not_mem_name {rule : OptionRule} (member : rule ∈ rules (some .translate)) :
    0x3D ∉ Text.Utf8.encode rule.name := by
  have all : ∀ rule ∈ rules (some .translate), 0x3D ∉ Text.Utf8.encode rule.name := by decide
  exact all rule member

theorem name_ne_empty {rule : OptionRule} (member : rule ∈ rules (some .translate)) :
    Text.Utf8.encode rule.name ≠ [] := by
  have all : ∀ rule ∈ rules (some .translate), Text.Utf8.encode rule.name ≠ [] := by decide
  exact all rule member

/-- An option is found by its name. -/
theorem find?_rule {job : Option JobName} {rule : OptionRule} (member : rule ∈ rules job) :
    ((rules job).find? fun other => Text.Utf8.encode other.name == Text.Utf8.encode rule.name) =
      some rule := by
  cases found : (rules job).find? fun other =>
      Text.Utf8.encode other.name == Text.Utf8.encode rule.name with
  | none =>
      have missed := List.find?_eq_none.mp found rule member
      simp at missed
  | some other =>
      have sameName : other.name = rule.name := by
        have same := List.find?_some found
        exact Text.Utf8.encode_inj.mp (eq_of_beq same)
      rw [rule_eq_of_name_eq (List.mem_of_find?_eq_some found) member sameName]

section Moves

variable {rule : OptionRule}

theorem ofFree_long (job : Option JobName) {body : Bytes} (filled : body ≠ []) :
    Move.ofFree job (0x2D :: 0x2D :: body) = [.ofLong job body] := by
  cases body with
  | nil => exact absurd rfl filled
  | cons first rest => rfl

theorem encode_hyphens (name : String) :
    Text.Utf8.encode ("--" ++ name) = 0x2D :: 0x2D :: Text.Utf8.encode name := by
  rw [Text.Utf8.encode_append]
  rfl

theorem takeWhile_name {name : Bytes} (plain : 0x3D ∉ name) (rest : Bytes)
    (stops : rest.head? = none ∨ rest.head? = some 0x3D) :
    (name ++ rest).takeWhile (· ≠ 0x3D) = name ∧ (name ++ rest).dropWhile (· ≠ 0x3D) = rest := by
  have passes : ∀ byte ∈ name, decide (byte ≠ 0x3D) = true := by
    intro byte member
    have different : byte ≠ 0x3D := fun isSign => plain (isSign ▸ member)
    exact decide_eq_true different
  rw [List.takeWhile_append_of_pos passes, List.dropWhile_append_of_pos passes]
  cases rest with
  | nil => simp
  | cons first others =>
      have isSign : first = 0x3D := by simpa using stops
      simp [isSign]

/-- The name of an option alone makes the move of the option. -/
theorem ofFree_name (member : rule ∈ rules (some .translate)) :
    Move.ofFree (some .translate) (Text.Utf8.encode ("--" ++ rule.name)) = [rule.nameMove] := by
  obtain ⟨taken, dropped⟩ := takeWhile_name (equalsSign_not_mem_name member) [] (.inl rfl)
  rw [List.append_nil] at taken dropped
  rw [encode_hyphens, ofFree_long _ (name_ne_empty member), Move.ofLong, taken, dropped,
    find?_rule member]

/-- With a value behind the equals sign it makes the move of the option with this value. -/
theorem ofFree_value (member : rule ∈ rules (some .translate)) (value : Bytes) :
    Move.ofFree (some .translate) (Text.Utf8.encode ("--" ++ rule.name) ++ 0x3D :: value) =
      [rule.valueMove value] := by
  obtain ⟨taken, dropped⟩ :=
    takeWhile_name (equalsSign_not_mem_name member) (0x3D :: value) (.inr rfl)
  rw [encode_hyphens, List.cons_append, List.cons_append,
    ofFree_long _ (List.append_ne_nil_of_left_ne_nil (name_ne_empty member) _), Move.ofLong, taken,
    dropped, find?_rule member]

end Moves

namespace Setting

variable {setting : Setting}

theorem rule_mem (valid : setting.OfTranslation) : setting.rule ∈ rules (some .translate) := by
  cases setting with
  | format text => exact valid.elim
  | _ => simp [rule, rules]

/-- The argument of a setting makes the move that settles it. -/
theorem ofFree_argument (valid : setting.OfTranslation) :
    Move.ofFree (some .translate) setting.argument = [.settle setting.rule setting] := by
  have member := rule_mem valid
  have decoded : ∀ text, Text.Utf8.decode? (Text.Utf8.encode text) = some text :=
    fun _ => Text.Utf8.decode?_eq_some_iff.mpr rfl
  cases setting with
  | verbose | timePasses | dryRun | json =>
      rw [argument, value?, List.append_nil, ofFree_name member]
      rfl
  | platform text | binaryFormat text | features text | backendOption text =>
      rw [argument, value?, ofFree_value member]
      simp only [OptionRule.valueMove, rule, OptionRule.valued, OptionRule.backendOption, decoded]
  | input path | output path | debugInfo path | configuration path =>
      rw [argument, value?, ofFree_value member]
      have filled : path.bytes ≠ [] := valid
      simp only [OptionRule.valueMove, rule, OptionRule.valued, OptionRule.configuration, filled,
        if_false]
  | format text => exact valid.elim

end Setting

/-! ### Reading is settling -/

namespace Progress

/-- Options of the `translate` job may come next. -/
def Open (progress : Progress) : Prop :=
  progress.job = some .translate ∧ progress.expects = .anything

/-- What an option that settled something leaves. -/
def settled (progress : Progress) (setting : Setting) : Progress :=
  ⟨progress.job, .anything, progress.settings ++ [setting],
    setting.rule.name :: progress.given⟩

/-- The option of a setting may still be given. -/
def Takes (progress : Progress) (setting : Setting) : Prop :=
  setting.rule.repeatable = true ∨ setting.rule.name ∉ progress.given

variable {progress final : Progress} {setting : Setting} {settings : List Setting}
  {arguments : List Bytes}

theorem advance_of_open (opened : progress.Open) (argument : Bytes) :
    progress.advance argument = (Move.ofFree (some .translate) argument).foldlM make progress := by
  rw [advance_eq_make, opened.1, opened.2]
  rfl

theorem Open.settled (opened : progress.Open) (setting : Setting) :
    (progress.settled setting).Open :=
  ⟨opened.1, rfl⟩

theorem read_settling {argument : Bytes} (opened : progress.Open) (takes : progress.Takes setting)
    (moves : Move.ofFree (some .translate) argument = [.settle setting.rule setting]) :
    [argument].foldlM advance progress = .ok (progress.settled setting) := by
  have advanced : progress.advance argument = .ok (progress.settled setting) := by
    rw [advance_of_open opened, moves, foldlM_make_singleton]
    exact settle_ok_iff.mpr ⟨takes, rfl⟩
  exact foldlM_cons_ok.mpr ⟨_, advanced, rfl⟩

/-- One spelled setting is settled, however it is spelled. -/
theorem read_spelled (opened : progress.Open) (valid : setting.OfTranslation)
    (takes : progress.Takes setting) (spelled : setting.Spelled arguments) :
    arguments.foldlM advance progress = .ok (progress.settled setting) := by
  cases spelled with
  | whole => exact read_settling opened takes (Setting.ofFree_argument valid)
  | letter => exact read_settling opened takes rfl
  | apart text noEnd =>
      have awaiting : progress.advance (Text.Utf8.encode "--llvm-option") =
          .ok { progress with expects := .value .backendOption } := by
        have moves := ofFree_name (Setting.rule_mem valid)
        rw [advance_of_open opened]
        exact (congrArg (List.foldlM make progress) moves).trans (foldlM_make_singleton _ _)
      have valueMove : OptionRule.backendOption.valueMove (Text.Utf8.encode text) =
          .settle .backendOption (.backendOption text) := by
        simp only [OptionRule.valueMove, OptionRule.backendOption,
          Text.Utf8.decode?_eq_some_iff.mpr rfl]
      have canBe : canBeValue .backendOption (Text.Utf8.encode text) = true := rfl
      have taken : Progress.advance { progress with expects := .value .backendOption }
          (Text.Utf8.encode text) = .ok (progress.settled (.backendOption text)) := by
        rw [advance_eq_make, Move.ofArgument, if_pos canBe, valueMove, foldlM_make_singleton]
        exact settle_ok_iff.mpr ⟨.inl rfl, rfl⟩
      exact foldlM_cons_ok.mpr ⟨_, awaiting, foldlM_cons_ok.mpr ⟨_, taken, rfl⟩⟩

/-- Settings that can be given in one list of arguments: only options that may come more than
once share a name. -/
def Together (settings : List Setting) : Prop :=
  settings.Pairwise fun earlier later =>
    later.rule.repeatable = true ∨ earlier.rule.name ≠ later.rule.name

/-- Spelled settings are settled in their order. -/
theorem read_spelledAll (opened : progress.Open)
    (valid : ∀ setting ∈ settings, setting.OfTranslation)
    (takes : ∀ setting ∈ settings, progress.Takes setting) (together : Together settings)
    (spelled : Setting.SpelledAll settings arguments) :
    arguments.foldlM advance progress = .ok (settings.foldl settled progress) := by
  induction spelled generalizing progress with
  | nil => rfl
  | @cons setting others front rest first _ inductionHypothesis =>
      obtain ⟨headValid, othersValid⟩ := List.forall_mem_cons.mp valid
      obtain ⟨headTakes, othersTake⟩ := List.forall_mem_cons.mp takes
      obtain ⟨headTogether, othersTogether⟩ := List.pairwise_cons.mp together
      have stillTakes : ∀ other ∈ others, (progress.settled setting).Takes other := by
        intro other member
        rcases headTogether other member with repeatable | different
        · exact .inl repeatable
        · refine (othersTake other member).imp_right fun notGiven => ?_
          simp only [settled, List.mem_cons, not_or]
          exact ⟨different.symm, notGiven⟩
      apply foldlM_append_ok.mpr
      exact ⟨_, read_spelled opened headValid headTakes first,
        inductionHypothesis (opened.settled setting) othersValid stillTakes othersTogether⟩

/-- What is left after settings were settled. -/
theorem foldl_settled (opened : progress.Open) (settings : List Setting) :
    (settings.foldl settled progress).Open ∧
      (settings.foldl settled progress).settings = progress.settings ++ settings ∧
      ∀ setting ∈ settings, setting.rule.name ∈ (settings.foldl settled progress).given := by
  have keeps : ∀ (settings : List Setting) (progress : Progress), progress.given ⊆
      (settings.foldl settled progress).given := by
    intro settings
    induction settings with
    | nil => exact fun _ => List.Subset.refl _
    | cons setting rest inductionHypothesis =>
        intro progress
        exact List.Subset.trans (List.subset_cons_self _ _)
          (inductionHypothesis (progress.settled setting))
  induction settings generalizing progress with
  | nil => exact ⟨opened, (List.append_nil _).symm, fun _ none => nomatch none⟩
  | cons setting rest inductionHypothesis =>
      obtain ⟨stillOpen, restSettled, restGiven⟩ := inductionHypothesis (opened.settled setting)
      rw [List.foldl_cons]
      refine ⟨stillOpen, ?_, List.forall_mem_cons.mpr ⟨?_, restGiven⟩⟩
      · rw [restSettled, settled, List.append_assoc, List.singleton_append]
      · exact keeps rest (progress.settled setting) List.mem_cons_self

/-! ### An option that is given again -/

/-- One more option of a name, in any form and with any value. -/
inductive Occurrence (name : String) : List Bytes → Prop
  | alone : Occurrence name [Text.Utf8.encode ("--" ++ name)]
  | joined (value : Bytes) : Occurrence name [Text.Utf8.encode ("--" ++ name) ++ 0x3D :: value]
  | apart (value : Bytes) : Occurrence name [Text.Utf8.encode ("--" ++ name), value]
  | letter (isVerbose : name = OptionRule.verbose.name) : Occurrence name [Text.Utf8.encode "-v"]

section Again

variable {rule : OptionRule}

theorem settle_again (once : rule.repeatable = false) (given : rule.name ∈ progress.given)
    (setting : Setting) : progress.settle rule setting = .error .refused := by
  rw [settle, if_pos ⟨once, given⟩]

theorem valueMove_again (once : rule.repeatable = false) (given : rule.name ∈ progress.given)
    (value : Bytes) : progress.make (rule.valueMove value) = .error .refused := by
  unfold OptionRule.valueMove
  cases rule.form with
  | flag setting => rfl
  | halt reason => rfl
  | text setting =>
      cases Text.Utf8.decode? value with
      | none => rfl
      | some text => exact settle_again once given _
  | path setting =>
      by_cases empty : value = []
      · simp only [empty, if_true, make]
      · simp only [empty, if_false]
        exact settle_again once given _

/-- The name of an option that was given is refused, or it awaits a value. -/
theorem nameMove_again (once : rule.repeatable = false) (given : rule.name ∈ progress.given)
    (noHalt : ∀ reason, rule.form ≠ .halt reason) :
    progress.make rule.nameMove = .error .refused ∨
      progress.make rule.nameMove = .ok { progress with expects := .value rule } := by
  unfold OptionRule.nameMove
  cases form : rule.form with
  | flag setting => exact .inl (settle_again once given setting)
  | halt reason => exact absurd form (noHalt reason)
  | text setting => exact .inr rfl
  | path setting => exact .inr rfl

/-- What the arguments behind the ones that were read lead to. -/
def conclude (progress : Progress) (arguments : List Bytes) : Except Halt CommandLine :=
  match arguments.foldlM advance progress with
  | .error reason => .error reason
  | .ok final => final.finish

theorem conclude_of_error {argument : Bytes} {reason : Halt} (rest : List Bytes)
    (refused : progress.advance argument = .error reason) :
    progress.conclude (argument :: rest) = .error reason := by
  rw [conclude, List.foldlM_cons, refused]
  rfl

theorem conclude_of_ok {argument : Bytes} {next : Progress} (rest : List Bytes)
    (advanced : progress.advance argument = .ok next) :
    progress.conclude (argument :: rest) = next.conclude rest := by
  rw [conclude, List.foldlM_cons, advanced]
  rfl

/-- An option that was given, is given again and may come only once, is refused at the latest
where the arguments end. -/
theorem conclude_again (opened : progress.Open) (member : rule ∈ rules (some .translate))
    (once : rule.repeatable = false) (noHalt : ∀ reason, rule.form ≠ .halt reason)
    (given : rule.name ∈ progress.given) (again : Occurrence rule.name arguments) :
    progress.conclude arguments = .error .refused := by
  have named : progress.advance (Text.Utf8.encode ("--" ++ rule.name)) =
      progress.make rule.nameMove := by
    rw [advance_of_open opened, ofFree_name member, foldlM_make_singleton]
  cases again with
  | joined value =>
      apply conclude_of_error
      rw [advance_of_open opened, ofFree_value member, foldlM_make_singleton]
      exact valueMove_again once given value
  | letter isVerbose =>
      have moves : Move.ofFree (some .translate) (Text.Utf8.encode "-v") =
          [.settle .verbose .verbose] := rfl
      apply conclude_of_error
      rw [advance_of_open opened, moves, foldlM_make_singleton]
      exact settle_again rfl (isVerbose ▸ given) _
  | alone =>
      rcases nameMove_again once given noHalt with refused | awaits
      · exact conclude_of_error _ (named.trans refused)
      · rw [conclude_of_ok _ (named.trans awaits)]
        rfl
  | apart value =>
      rcases nameMove_again once given noHalt with refused | awaits
      · exact conclude_of_error _ (named.trans refused)
      · rw [conclude_of_ok _ (named.trans awaits)]
        apply conclude_of_error
        rw [advance_eq_make, Move.ofArgument, foldlM_make_singleton]
        split
        · have stillGiven : rule.name ∈ { progress with expects := .value rule }.given := given
          exact valueMove_again once stillGiven value
        · rfl

end Again

end Progress

end KernelForge.CommandLine
