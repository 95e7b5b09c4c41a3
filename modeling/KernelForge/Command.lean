import KernelForge.Echo.Escaped
import KernelForge.Failure
import KernelForge.Options

/-!
Contract: a request becomes a device compiler command.

Owns: the request, the argument list in its fixed order, and composing a command
while echoing it to a writer.

In debug mode the platform, the binary format and both option texts are echoed
before the platform is looked up, and the arguments after it. What the writer
makes of that changes nothing about the command.

Does not own: running the command; that is `KernelForge.Session`.
-/

namespace KernelForge

/-- What is asked of the device compiler, apart from the IR itself. -/
structure Request where
  platform : String
  binaryFormat : String
  /-- The target features; empty for none. -/
  features : String
  backendOptions : List String
  timePasses : Bool
deriving DecidableEq, Repr

def sourceLabel : String := "cmoc_spirv"

def inputFlag : String := "-spirv_input"

structure Command where
  arguments : List String
  options : String
  internalOptions : String
deriving DecidableEq, Repr

/-- The revision arguments: none for no revision. -/
def revisionArguments (revision : Revision) : List String :=
  if revision.isUnspecified then [] else ["-revision_id", revision.text]

/-- The argument list. Its order is fixed. -/
def commandArguments (device : String) (revision : Revision) (options internalOptions : String)
    (quiet : Bool) : List String :=
  ["ocloc", "compile", "-device", device] ++ revisionArguments revision ++
    [inputFlag, "-file", sourceLabel, "-options", options, "-internal_options",
     internalOptions] ++
    (if quiet then ["-q"] else [])

namespace Command

/-- The command for a request, without any echo. -/
def compose (request : Request) (configuration : Configuration) : Except Failure Command :=
  let options := composeOptions configuration
  let internalOptions := composeInternalOptions configuration request.binaryFormat
    request.backendOptions request.features request.timePasses
  match Platform.deviceCode request.platform with
  | none => .error (.contractViolation (.unmappedPlatform request.platform))
  | some device =>
      .ok ⟨commandArguments device (Revision.ofPlatform request.platform) options internalOptions
        (!configuration.debug), options, internalOptions⟩

/-- The command for a request, echoed to a writer in debug mode. -/
def composeEchoing {σ : Type} (writer : Writer σ) (state : σ) (request : Request)
    (configuration : Configuration) : σ × Except Failure Command :=
  let echo (current : σ) (label value : String) : σ :=
    if configuration.debug then Echo.echoLine writer current label value else current
  let afterPlatform := echo state "requested platform for translateIL" request.platform
  let afterFormat := echo afterPlatform "requested runtime for translateIL" request.binaryFormat
  let options := composeOptions configuration
  let internalOptions := composeInternalOptions configuration request.binaryFormat
    request.backendOptions request.features request.timePasses
  let afterOptions := echo afterFormat "IGC Translation Options" options
  let afterInternal := echo afterOptions "IGC Translation Internal" internalOptions
  match Platform.deviceCode request.platform with
  | none =>
      (afterInternal, .error (.contractViolation (.unmappedPlatform request.platform)))
  | some device =>
      let arguments := commandArguments device (Revision.ofPlatform request.platform) options
        internalOptions (!configuration.debug)
      let afterArguments :=
        if configuration.debug then
          Echo.echoArguments writer afterInternal "oclocInvoke options" arguments
        else afterInternal
      (afterArguments, .ok ⟨arguments, options, internalOptions⟩)

theorem composeEchoing_snd {σ : Type} (writer : Writer σ) (state : σ) (request : Request)
    (configuration : Configuration) :
    (composeEchoing writer state request configuration).2 = compose request configuration := by
  simp only [composeEchoing, compose]
  cases Platform.deviceCode request.platform <;> rfl

end Command

end KernelForge
