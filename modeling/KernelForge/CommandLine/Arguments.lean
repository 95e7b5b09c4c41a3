import KernelForge.CommandLine

/-!
Contract: reading the arguments of the program.

Owns: the options of the program and of each job, the forms in which an option
and its value are given, and the command line that a list of arguments makes.

Arguments are read from left to right, and the first one that makes no sense, or
that asks for the version or for help, ends the reading. An option is
`--name value` or `--name=value`; a value of its own must not look like an option,
except for a backend option, which takes whatever comes next, even `--`. Letters may
be given together behind one hyphen. Each option is given at most once before the
job and at most once behind it, except for backend options.

Does not own: what the jobs do.
-/

namespace KernelForge.CommandLine

def defaultBinaryFormat : String := "cm"

inductive Setting where
  | verbose
  | platform (text : String)
  | binaryFormat (text : String)
  | input (path : Path)
  | features (text : String)
  | backendOption (text : String)
  | timePasses
  | output (path : Path)
  | debugInfo (path : Path)
  | configuration (path : Path)
  | dryRun
  | json
  | format (text : String)
deriving DecidableEq, Repr

namespace Setting

def platform? : Setting → Option String
  | .platform text => some text
  | _ => none

def binaryFormat? : Setting → Option String
  | .binaryFormat text => some text
  | _ => none

def input? : Setting → Option Path
  | .input path => some path
  | _ => none

def features? : Setting → Option String
  | .features text => some text
  | _ => none

def backendOption? : Setting → Option String
  | .backendOption text => some text
  | _ => none

def output? : Setting → Option Path
  | .output path => some path
  | _ => none

def debugInfo? : Setting → Option Path
  | .debugInfo path => some path
  | _ => none

def configuration? : Setting → Option Path
  | .configuration path => some path
  | _ => none

def format? : Setting → Option String
  | .format text => some text
  | _ => none

end Setting

inductive OptionForm where
  | flag (setting : Setting)
  | text (setting : String → Setting)
  /-- Takes a path, which must not be empty. -/
  | path (setting : Path → Setting)
  | halt (reason : Halt)

structure OptionRule where
  name : String
  /-- The letter that stands for it behind a single hyphen. -/
  letter : Option UInt8
  form : OptionForm
  /-- Its value may look like an option, or be `--`. -/
  takesHyphens : Bool
  repeatable : Bool

namespace OptionRule

/-- An option with a value, given at most once and by name only. -/
def valued (name : String) (form : OptionForm) : OptionRule :=
  ⟨name, none, form, false, false⟩

def flag (name : String) (setting : Setting) : OptionRule :=
  ⟨name, none, .flag setting, false, false⟩

def verbose : OptionRule := ⟨"verbose", some 0x76, .flag .verbose, false, false⟩

def help : OptionRule := ⟨"help", some 0x68, .halt .help, false, false⟩

def version : OptionRule := ⟨"version", some 0x56, .halt .version, false, false⟩

def backendOption : OptionRule := ⟨"llvm-option", none, .text .backendOption, true, true⟩

def configuration : OptionRule := valued "config" (.path .configuration)

end OptionRule

inductive JobName where
  | translate
  | platforms
  | doctor
deriving DecidableEq, Repr

def JobName.word : JobName → String
  | .translate => "translate"
  | .platforms => "platforms"
  | .doctor => "doctor"

def JobName.ofWord? (word : Bytes) : Option JobName :=
  [JobName.translate, .platforms, .doctor].find? fun job => Text.Utf8.encode job.word == word

/-- The options behind a job, or before any. -/
def rules : Option JobName → List OptionRule
  | none => [.verbose, .version, .help]
  | some .translate =>
      [.valued "platform" (.text .platform), .valued "binary-format" (.text .binaryFormat),
       .valued "input" (.path .input), .valued "features" (.text .features), .backendOption,
       .flag "time-passes" .timePasses, .valued "output" (.path .output),
       .valued "debug-info" (.path .debugInfo), .configuration, .flag "dry-run" .dryRun,
       .flag "json" .json, .verbose, .help]
  | some .platforms => [.valued "format" (.text .format), .verbose, .help]
  | some .doctor => [.configuration, .verbose, .help]

inductive Expectation where
  /-- An option, or the name of the job if it is still open. -/
  | anything
  | value (rule : OptionRule)
  /-- Nothing, because `--` was given. -/
  | nothing
  /-- The topic on which help is wanted, unless it was given. -/
  | topic (given : Bool)

structure Progress where
  job : Option JobName
  expects : Expectation
  /-- What was settled, in order. -/
  settings : List Setting
  given : List String

namespace Progress

def start : Progress := ⟨none, .anything, [], []⟩

/-- An option settles something. It may do so once, unless it is repeatable. -/
def settle (progress : Progress) (rule : OptionRule) (setting : Setting) :
    Except Halt Progress :=
  if rule.repeatable = false ∧ rule.name ∈ progress.given then .error .refused
  else
    .ok
      { progress with
        expects := .anything
        settings := progress.settings ++ [setting]
        given := rule.name :: progress.given }

def takeValue (progress : Progress) (rule : OptionRule) (value : Bytes) :
    Except Halt Progress :=
  match rule.form with
  | .text setting =>
      match Text.Utf8.decode? value with
      | some text => progress.settle rule (setting text)
      | none => .error .refused
  | .path setting => if value = [] then .error .refused else progress.settle rule (setting ⟨value⟩)
  | _ => .error .refused

def takeName (progress : Progress) (rule : OptionRule) : Except Halt Progress :=
  match rule.form with
  | .flag setting => progress.settle rule setting
  | .halt reason => .error reason
  | _ => .ok { progress with expects := .value rule }

/-- Reads what follows two hyphens: a name, and perhaps an equals sign and a value. -/
def readLong (progress : Progress) (body : Bytes) : Except Halt Progress :=
  let name := body.takeWhile (· ≠ 0x3D)
  match (rules progress.job).find? fun rule => Text.Utf8.encode rule.name == name with
  | none => .error .refused
  | some rule =>
      match body.dropWhile (· ≠ 0x3D) with
      | [] => progress.takeName rule
      | _ :: value => progress.takeValue rule value

def readLetters (progress : Progress) : Bytes → Except Halt Progress
  | [] => .ok progress
  | letter :: rest =>
      match (rules progress.job).find? fun rule => rule.letter == some letter with
      | none => .error .refused
      | some rule =>
          match progress.takeName rule with
          | .error reason => .error reason
          | .ok next => readLetters next rest

/-- Reads a word: the name of the job, or the word `help`. -/
def readWord (progress : Progress) (word : Bytes) : Except Halt Progress :=
  match progress.job with
  | some _ => .error .refused
  | none =>
      match JobName.ofWord? word with
      | some job => .ok { progress with job := some job, given := [] }
      | none =>
          if word = Text.Utf8.encode "help" then .ok { progress with expects := .topic false }
          else .error .refused

def canBeValue (rule : OptionRule) (argument : Bytes) : Bool :=
  rule.takesHyphens || argument == [0x2D] || argument.head? != some 0x2D

def advance (progress : Progress) (argument : Bytes) : Except Halt Progress :=
  match progress.expects with
  | .nothing => .error .refused
  | .topic given =>
      if given = false ∧
          ((JobName.ofWord? argument).isSome ∨ argument = Text.Utf8.encode "help") then
        .ok { progress with expects := .topic true }
      else .error .refused
  | .value rule =>
      if canBeValue rule argument then progress.takeValue rule argument else .error .refused
  | .anything =>
      match argument with
      | [0x2D, 0x2D] => .ok { progress with expects := .nothing }
      | 0x2D :: 0x2D :: body => progress.readLong body
      | 0x2D :: letter :: letters => progress.readLetters (letter :: letters)
      | word => progress.readWord word

/-- The options of the `translate` job that settings make. The platform and the
input must be among them. -/
def translateOptions (settings : List Setting) : Option TranslateOptions := do
  let platform ← settings.findSome? Setting.platform?
  let input ← settings.findSome? Setting.input?
  some
    { platform
      input
      binaryFormat := (settings.findSome? Setting.binaryFormat?).getD defaultBinaryFormat
      features := (settings.findSome? Setting.features?).getD ""
      backendOptions := settings.filterMap Setting.backendOption?
      timePasses := settings.contains .timePasses
      output := settings.findSome? Setting.output?
      debugInfo := settings.findSome? Setting.debugInfo?
      configuration := settings.findSome? Setting.configuration?
      dryRun := settings.contains .dryRun
      json := settings.contains .json }

def jobOf (name : JobName) (settings : List Setting) : Option Job :=
  match name with
  | .translate => (translateOptions settings).map Job.translate
  | .platforms => some (.platforms (settings.findSome? Setting.format?))
  | .doctor => some (.doctor (settings.findSome? Setting.configuration?))

def finish (progress : Progress) : Except Halt CommandLine :=
  match progress.expects with
  | .topic _ => .error .help
  | .value _ => .error .refused
  | _ =>
      match progress.job.bind fun name => jobOf name progress.settings with
      | none => .error .refused
      | some job => .ok ⟨progress.settings.contains .verbose, job⟩

end Progress

/-- Reads the arguments behind the program's name. -/
def read (arguments : List Bytes) : Except Halt CommandLine :=
  match arguments.foldlM Progress.advance Progress.start with
  | .error reason => .error reason
  | .ok progress => progress.finish

end KernelForge.CommandLine
