import Mathlib.Data.List.Basic
import KernelForge.Proofs.ArgumentOrder
import KernelForge.Proofs.TranslationStages

/-!
Contract: what was chosen for a translation is recovered from its arguments.

Owns: the choices that the arguments of a translation can express, the orders of settings that
express them, the command line that any such order makes, and what the program does where an
option is given again or the platform or the input is missing.

Does not own: how a setting is spelled.
-/

namespace KernelForge.CommandLine

/-- What can be chosen for a translation. Nothing chosen for an option means that it is not
given. -/
structure Choices where
  platform : Option String
  binaryFormat : Option String
  input : Option Path
  features : Option String
  backendOptions : List String
  output : Option Path
  debugInfo : Option Path
  configuration : Option Path
  timePasses : Bool
  dryRun : Bool
  json : Bool
  verbose : Bool

namespace Choices

def flag (chosen : Bool) (setting : Setting) : List Setting :=
  if chosen then [setting] else []

/-- The settings of the options that may be given only once. -/
def once (choices : Choices) : List Setting :=
  choices.platform.toList.map .platform ++ choices.binaryFormat.toList.map .binaryFormat ++
    choices.input.toList.map .input ++ choices.features.toList.map .features ++
    choices.output.toList.map .output ++ choices.debugInfo.toList.map .debugInfo ++
    choices.configuration.toList.map .configuration ++ flag choices.timePasses .timePasses ++
    flag choices.dryRun .dryRun ++ flag choices.json .json ++ flag choices.verbose .verbose

/-- Settings that express the choices: the backend options in their order, and among them, in
any order, the others. -/
structure Ordered (choices : Choices) (settings : List Setting) : Prop where
  backendOptions : settings.filterMap Setting.backendOption? = choices.backendOptions
  others : (settings.filter fun setting => setting.backendOption?.isNone).Perm choices.once

/-- No chosen path is empty. -/
structure PathsFilled (choices : Choices) : Prop where
  input : ∀ path ∈ choices.input, path.bytes ≠ []
  output : ∀ path ∈ choices.output, path.bytes ≠ []
  debugInfo : ∀ path ∈ choices.debugInfo, path.bytes ≠ []
  configuration : ∀ path ∈ choices.configuration, path.bytes ≠ []

/-- The options of the job for a platform and an input. -/
def options (choices : Choices) (platform : String) (input : Path) : TranslateOptions where
  platform := platform
  binaryFormat := choices.binaryFormat.getD "cm"
  input := input
  features := choices.features.getD ""
  backendOptions := choices.backendOptions
  timePasses := choices.timePasses
  output := choices.output
  debugInfo := choices.debugInfo
  configuration := choices.configuration
  dryRun := choices.dryRun
  json := choices.json

/-! ### The settings of choices -/

@[simp] theorem mem_flag {chosen : Bool} {setting other : Setting} :
    other ∈ flag chosen setting ↔ chosen = true ∧ other = setting := by
  cases chosen <;> simp [flag]

section Once

variable {choices : Choices} {settings : List Setting}

/-- The names of the options that may be given only once. -/
def onceNames : List String :=
  ["platform"] ++ ["binary-format"] ++ ["input"] ++ ["features"] ++ ["output"] ++
    ["debug-info"] ++ ["config"] ++ ["time-passes"] ++ ["dry-run"] ++ ["json"] ++ ["verbose"]

theorem named_chosen {α : Type} {setting : α → Setting} {name : String}
    (named : ∀ value, (setting value).rule.name = name) (chosen : Option α) :
    ((chosen.toList.map setting).map fun setting => setting.rule.name).Sublist [name] := by
  cases chosen <;> simp [named]

theorem named_flag {setting : Setting} {name : String} (named : setting.rule.name = name)
    (chosen : Bool) :
    ((flag chosen setting).map fun setting => setting.rule.name).Sublist [name] := by
  cases chosen <;> simp [flag, named]

theorem names_once : (choices.once.map fun setting => setting.rule.name).Sublist onceNames := by
  simp only [once, List.map_append]
  repeat' apply List.Sublist.append
  any_goals exact named_flag rfl _
  all_goals
    apply named_chosen
    intro value
    rfl

/-- A chosen setting is one of a translation, and no backend option. -/
theorem of_mem_once (filled : choices.PathsFilled) :
    ∀ setting ∈ choices.once, setting.OfTranslation ∧ setting.backendOption? = none := by
  have paths := And.intro (And.intro (And.intro filled.input filled.output) filled.debugInfo)
    filled.configuration
  simp only [once, List.forall_mem_append, List.forall_mem_map, Option.mem_toList, mem_flag,
    and_imp, forall_eq_apply_imp_iff, Setting.OfTranslation, Setting.backendOption?]
  simpa using paths

/-! ### The settings of choices in any order -/

theorem eq_backendOption {setting : Setting} {text : String}
    (isBackend : setting.backendOption? = some text) : setting = .backendOption text := by
  cases setting with
  | backendOption other => rw [Option.some.inj isBackend]
  | _ => cases isBackend

/-- A setting among ordered ones is a backend option or a chosen one. -/
theorem Ordered.mem_or (ordered : choices.Ordered settings) {setting : Setting}
    (member : setting ∈ settings) :
    (∃ text, setting = .backendOption text) ∨ setting ∈ choices.once := by
  cases isBackend : setting.backendOption? with
  | some text =>
      left
      exact ⟨text, eq_backendOption isBackend⟩
  | none =>
      right
      exact ordered.others.mem_iff.mp (List.mem_filter.mpr ⟨member, by simp [isBackend]⟩)

theorem Ordered.valid (ordered : choices.Ordered settings) (filled : choices.PathsFilled) :
    ∀ setting ∈ settings, setting.OfTranslation := by
  intro setting member
  rcases ordered.mem_or member with ⟨text, rfl⟩ | chosen
  · trivial
  · exact (of_mem_once filled setting chosen).1

/-- A chosen setting stands among the ordered ones. -/
theorem Ordered.mem_iff (ordered : choices.Ordered settings) {setting : Setting}
    (noBackend : setting.backendOption? = none) : setting ∈ settings ↔ setting ∈ choices.once := by
  rw [← ordered.others.mem_iff, List.mem_filter, noBackend]
  simp

theorem name_ne_backendOption {setting : Setting} (noBackend : setting.backendOption? = none) :
    OptionRule.backendOption.name ≠ setting.rule.name := by
  cases setting with
  | backendOption text => cases noBackend
  | _ => simp [Setting.rule, OptionRule.backendOption, OptionRule.valued, OptionRule.flag,
      OptionRule.verbose, OptionRule.configuration]

/-- Apart from backend options no two of the settings have one option. -/
theorem Ordered.together (ordered : choices.Ordered settings) : Progress.Together settings := by
  have distinct : (choices.once.map fun setting => setting.rule.name).Nodup :=
    names_once.nodup (by decide)
  have othersDistinct :=
    (ordered.others.map fun setting => setting.rule.name).nodup_iff.mpr distinct
  have apart := List.pairwise_filter.mp (List.pairwise_map.mp othersDistinct)
  refine apart.imp fun {earlier later} different => ?_
  cases laterBackend : later.backendOption? with
  | some text =>
      left
      rw [eq_backendOption laterBackend]
      rfl
  | none =>
      right
      cases earlierBackend : earlier.backendOption? with
      | none => exact different (by simp [earlierBackend]) (by simp [laterBackend])
      | some text =>
          rw [eq_backendOption earlierBackend]
          exact name_ne_backendOption laterBackend

/-- What was chosen is found wherever it stands. -/
theorem Ordered.findSome? (ordered : choices.Ordered settings) {α : Type}
    {value : Setting → Option α} {chosen : Option α}
    (ignored : ∀ text, value (.backendOption text) = none)
    (alone : choices.once.filterMap value = chosen.toList) :
    settings.findSome? value = chosen := by
  have sameValues : settings.filterMap value =
      (settings.filter fun setting => setting.backendOption?.isNone).filterMap value := by
    rw [List.filterMap_filter]
    congr 1
    funext setting
    cases setting with
    | backendOption text => exact ignored text
    | _ => rfl
  have permuted : (settings.filterMap value).Perm chosen.toList := by
    rw [sameValues, ← alone]
    exact ordered.others.filterMap value
  have found : settings.filterMap value = chosen.toList := by
    cases chosen with
    | none => exact permuted.eq_nil
    | some only => exact List.perm_singleton.mp permuted
  rw [← List.head?_filterMap, found]
  cases chosen <;> rfl

theorem Ordered.contains (ordered : choices.Ordered settings) {setting : Setting} {chosen : Bool}
    (noBackend : setting.backendOption? = none)
    (isChosen : setting ∈ choices.once ↔ chosen = true) : settings.contains setting = chosen := by
  rw [Bool.eq_iff_iff, List.contains_iff_mem, ordered.mem_iff noBackend, isChosen]

/-- Ordered settings make the options that were chosen. -/
theorem Ordered.translateOptions (ordered : choices.Ordered settings) :
    Progress.translateOptions settings =
      choices.platform.bind fun platform => choices.input.map (choices.options platform) := by
  have platform : settings.findSome? Setting.platform? = choices.platform :=
    ordered.findSome? (fun _ => rfl) (by simp [once, Setting.platform?, Function.comp_def])
  have binaryFormat : settings.findSome? Setting.binaryFormat? = choices.binaryFormat :=
    ordered.findSome? (fun _ => rfl) (by simp [once, Setting.binaryFormat?, Function.comp_def])
  have input : settings.findSome? Setting.input? = choices.input :=
    ordered.findSome? (fun _ => rfl) (by simp [once, Setting.input?, Function.comp_def])
  have features : settings.findSome? Setting.features? = choices.features :=
    ordered.findSome? (fun _ => rfl) (by simp [once, Setting.features?, Function.comp_def])
  have output : settings.findSome? Setting.output? = choices.output :=
    ordered.findSome? (fun _ => rfl) (by simp [once, Setting.output?, Function.comp_def])
  have debugInfo : settings.findSome? Setting.debugInfo? = choices.debugInfo :=
    ordered.findSome? (fun _ => rfl) (by simp [once, Setting.debugInfo?, Function.comp_def])
  have configuration : settings.findSome? Setting.configuration? = choices.configuration :=
    ordered.findSome? (fun _ => rfl) (by simp [once, Setting.configuration?, Function.comp_def])
  have timePasses : settings.contains .timePasses = choices.timePasses :=
    ordered.contains rfl (by simp [once])
  have dryRun : settings.contains .dryRun = choices.dryRun :=
    ordered.contains rfl (by simp [once])
  have json : settings.contains .json = choices.json :=
    ordered.contains rfl (by simp [once])
  simp only [Progress.translateOptions, platform, binaryFormat, input, features, output, debugInfo,
    configuration, timePasses, dryRun, json, ordered.backendOptions]
  cases choices.platform with
  | none => rfl
  | some platform => cases choices.input <;> rfl

end Once

end Choices

/-! ### From the first argument to the end -/

namespace Progress

/-- Behind the name of the job. -/
def entered : Progress := ⟨some .translate, .anything, [], []⟩

theorem read_translate (arguments : List Bytes) :
    read (Text.Utf8.encode "translate" :: arguments) = entered.conclude arguments := by
  have advanced : start.advance (Text.Utf8.encode "translate") = .ok entered := rfl
  unfold read conclude
  rw [List.foldlM_cons, advanced]
  rfl

theorem conclude_append {progress middle : Progress} {first : List Bytes}
    (ran : first.foldlM advance progress = .ok middle) (second : List Bytes) :
    progress.conclude (first ++ second) = middle.conclude second := by
  rw [conclude, List.foldlM_append, ran]
  rfl

/-- Where options may come the arguments may end, if the options of the job can be made. -/
theorem Open.finish {progress : Progress} (opened : progress.Open) :
    progress.finish =
      match translateOptions progress.settings with
      | none => .error .refused
      | some options => .ok ⟨progress.settings.contains .verbose, .translate options⟩ := by
  rw [Progress.finish, opened.1, opened.2]
  simp only [Option.bind_some, jobOf]
  cases translateOptions progress.settings <;> rfl

end Progress

/-- The program refuses the arguments: it says so by its exit status and touches nothing. -/
structure Refuses (host : Host) (arguments : List Bytes) : Prop where
  exitStatus : (Program.run host arguments).exitStatus = 2
  standardOutput : (Program.run host arguments).standardOutput = []
  files : (Program.run host arguments).files = host.files
  opened : (Program.run host arguments).opened = []
  calls : (Program.run host arguments).calls = []

theorem refuses_of_read {arguments : List Bytes} (refused : read arguments = .error .refused)
    (host : Host) : Refuses host arguments := by
  have isHalted : Program.run host arguments = Program.halted host .refused := by
    rw [Program.run, refused]
  constructor <;> rw [isHalted] <;> rfl

/-- **Chosen options are recovered in any order.** Spelled out behind the name of the job, with
the backend options in their order and the others anywhere among them, choices with a platform
and an input make exactly the command line that was chosen. Without a platform or without an
input the arguments are refused, and so they are if an option that may be given only once is
given again, with whatever value. -/
theorem translation_arguments_recovered (choices : Choices) (filled : choices.PathsFilled)
    (settings : List Setting) (ordered : choices.Ordered settings) (arguments : List Bytes)
    (spelled : Setting.SpelledAll settings arguments) :
    let given := Text.Utf8.encode "translate" :: arguments
    (∀ platform ∈ choices.platform, ∀ input ∈ choices.input,
      read given = .ok ⟨choices.verbose, .translate (choices.options platform input)⟩) ∧
    (choices.platform = none ∨ choices.input = none → ∀ host, Refuses host given) ∧
    ∀ setting ∈ choices.once, ∀ again, Progress.Occurrence setting.rule.name again →
      ∀ host, Refuses host (given ++ again) := by
  intro given
  have entered : Progress.entered.Open := ⟨rfl, rfl⟩
  have valid := ordered.valid filled
  have ran : arguments.foldlM Progress.advance Progress.entered =
      .ok (settings.foldl Progress.settled Progress.entered) :=
    Progress.read_spelledAll entered valid (fun _ _ => .inr (List.not_mem_nil)) ordered.together
      spelled
  obtain ⟨opened, settled, named⟩ := Progress.foldl_settled entered settings
  generalize settings.foldl Progress.settled Progress.entered = final at ran opened settled named
  have allSettled : final.settings = settings := settled
  have isRead : ∀ again, read (given ++ again) = final.conclude again := by
    intro again
    exact (Progress.read_translate (arguments ++ again)).trans (Progress.conclude_append ran again)
  have finished : read given = final.finish := by
    have nothingMore := isRead []
    rw [List.append_nil] at nothingMore
    exact nothingMore
  rw [opened.finish, allSettled, ordered.translateOptions] at finished
  refine ⟨?_, ?_, ?_⟩
  · intro platform isPlatform input isInput
    have verbose : settings.contains .verbose = choices.verbose :=
      ordered.contains rfl (by simp [Choices.once])
    rw [finished, Option.mem_def.mp isPlatform, Option.mem_def.mp isInput, ← verbose]
    rfl
  · intro missing host
    apply refuses_of_read
    rw [finished]
    rcases missing with noPlatform | noInput
    · rw [noPlatform]
      rfl
    · rw [noInput]
      cases choices.platform <;> rfl
  · intro setting chosen again occurs host
    obtain ⟨ofTranslation, noBackend⟩ := Choices.of_mem_once filled setting chosen
    have member := Setting.rule_mem ofTranslation
    have wasGiven : setting.rule.name ∈ final.given :=
      named setting ((ordered.mem_iff noBackend).mpr chosen)
    apply refuses_of_read
    rw [isRead]
    cases setting with
    | backendOption text => cases noBackend
    | format text => exact ofTranslation.elim
    | _ => exact Progress.conclude_again opened member rfl (fun _ => nofun) wasGiven occurs

/-- A platform, an input whose name has a hyphen and an equals sign in it, features that are
given but empty, two backend options that look like other options, and verbosity. -/
def lookalikeChoices : Choices where
  platform := some "SKL"
  binaryFormat := none
  input := some (Path.ofText "-k=v.spv")
  features := some ""
  backendOptions := ["--json", "--platform=X"]
  output := none
  debugInfo := none
  configuration := none
  timePasses := false
  dryRun := false
  json := false
  verbose := true

/-- These choices in one of their orders. -/
def lookalikeArguments : List Bytes :=
  ["--llvm-option", "--json", "-v", "--features=", "--input=-k=v.spv",
    "--llvm-option=--platform=X", "--platform=SKL"].map Text.Utf8.encode

/-- Values that look like options are values, and the platform is given once and not twice. -/
theorem translation_arguments_recovered_beside_lookalikes :
    read (Text.Utf8.encode "translate" :: lookalikeArguments) =
        .ok ⟨true, .translate ⟨"SKL", "cm", Path.ofText "-k=v.spv", "", ["--json", "--platform=X"],
          false, none, none, none, false, false⟩⟩ ∧
      Refuses Translate.deviceHost
        (Text.Utf8.encode "translate" :: lookalikeArguments ++
          [Text.Utf8.encode "--platform" ++ 0x3D :: Text.Utf8.encode "TGLLP"]) := by
  have filled : lookalikeChoices.PathsFilled := by
    constructor <;> intro path isPath <;> cases isPath
    decide
  have ordered : lookalikeChoices.Ordered
      [.backendOption "--json", .verbose, .features "", .input (Path.ofText "-k=v.spv"),
        .backendOption "--platform=X", .platform "SKL"] := by
    constructor <;> decide
  have spelled : Setting.SpelledAll
      [.backendOption "--json", .verbose, .features "", .input (Path.ofText "-k=v.spv"),
        .backendOption "--platform=X", .platform "SKL"] lookalikeArguments :=
    .cons (.apart "--json" (by decide)) (.cons .letter (.cons (.whole _) (.cons (.whole _)
      (.cons (.whole _) (.cons (.whole _) .nil)))))
  obtain ⟨accepted, -, again⟩ :=
    translation_arguments_recovered lookalikeChoices filled _ ordered _ spelled
  exact ⟨accepted "SKL" rfl _ rfl,
    again (.platform "SKL") (by decide) _ (.joined (Text.Utf8.encode "TGLLP")) Translate.deviceHost⟩

end KernelForge.CommandLine
