import KernelForge.Configuration

/-!
Contract: the two option texts of a device compiler command.

Owns: the public options and the internal options, with their flags in a fixed
order. Nothing is escaped: the parts are taken as they are.

Does not own: where the two texts stand in the argument list; that is
`KernelForge.Command`.
-/

namespace KernelForge

def codegenFlag : String := "-vc-codegen"

def timeReportFlag : String := "-ftime-report"

/-- The public options: the code generation flag, then the configured text unless
it is empty. -/
def composeOptions (configuration : Configuration) : String :=
  match configuration.apiOptions with
  | none => codegenFlag
  | some text => if text = "" then codegenFlag else codegenFlag ++ " " ++ text

/-- The part for the options passed on to the backend; an empty list has none. -/
def backendPart (backendOptions : List String) : String :=
  if backendOptions = [] then ""
  else " -llvm-options='" ++ String.intercalate " " backendOptions ++ "'"

/-- The part for the target features; no features have none. -/
def featuresPart (features : String) : String :=
  if features = "" then "" else " -target-features=" ++ features

/-- The part for the configured text, which is kept even when it is empty. -/
def configuredPart : Option String → String
  | none => ""
  | some text => " " ++ text

def timePart (timePasses : Bool) : String :=
  if timePasses then " " ++ timeReportFlag else ""

/-- The internal options: binary format, backend options, target features,
configured text, timing report, each with a space in front. -/
def composeInternalOptions (configuration : Configuration) (binaryFormat : String)
    (backendOptions : List String) (features : String) (timePasses : Bool) : String :=
  " -binary-format=" ++ binaryFormat ++ backendPart backendOptions ++ featuresPart features ++
    configuredPart configuration.internalOptions ++ timePart timePasses

end KernelForge
