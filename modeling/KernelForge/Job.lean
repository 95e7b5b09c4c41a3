import KernelForge.Configuration.Document
import KernelForge.Library

/-!
Contract: what every job of the program is given and what it does.

Owns: the surroundings of a job, the failures of a job with their chain of
messages, and the effects of a job.

How much of its outputs a job gets rid of is for the storage to say, and it may say
anything, so that is one of the surroundings.

Does not own: what a particular job does, and how its effects reach a reader;
that is `KernelForge.Program`.
-/

namespace KernelForge

structure Host where
  files : FileTree
  environment : Environment
  loader : Loader
  /-- Where the storage stops when the kernel binary is written. -/
  kernelStop : Option Stop := none
  /-- Where the storage stops when the debug info is written. -/
  debugInfoStop : Option Stop := none

inductive JobFailure where
  | loadingConfiguration (path : Path) (cause : Failure)
  | readingInput (path : Path) (cause : FileError)
  /-- A command that was to be shown only cannot be composed. -/
  | composing (cause : Failure)
  | translating (input : Path) (cause : Failure)
  | creating (path : Path) (cause : FileError)
  | writing (path : Path) (cause : FileError)
  | unknownFormat (format : String)
deriving DecidableEq, Repr

/-- The messages of a failure and of what caused it, outermost first. -/
def JobFailure.chain : JobFailure → List String
  | .loadingConfiguration path cause => ("loading " ++ path.display) :: cause.chain
  | .readingInput path cause => ["reading " ++ path.display, cause.message]
  | .composing cause => cause.chain
  | .translating input cause => ("translating " ++ input.display) :: cause.chain
  | .creating path cause => ["creating " ++ path.display, cause.message]
  | .writing path cause => ["writing " ++ path.display, cause.message]
  | .unknownFormat format =>
      ["unknown format '" ++ format ++ "' (expected text, toml, or json)"]

structure Effects where
  /-- The text for standard output, or why there is none. -/
  result : Except JobFailure String
  echo : Bytes
  /-- The log records, behind the echo. -/
  log : List LogRecord
  files : FileTree
  /-- The bytes that went to paths of the two streams. -/
  sent : Streams
  opened : List Path
  calls : List ForeignCall

/-- The effects of a job that only has a result. -/
def Host.answers (host : Host) (result : Except JobFailure String) : Effects where
  result := result
  echo := []
  log := []
  files := host.files
  sent := .nothing
  opened := []
  calls := []

/-- The settings of a job: the document, if one is named, under the variables of
the process. -/
def Host.configuration (host : Host) (document : Option Path) :
    Except JobFailure Configuration :=
  let ambient := host.environment.texts
  match document with
  | none => .ok (Configuration.initial.overriddenBy ambient)
  | some path =>
      match Configuration.load host.files path with
      | .error cause => .error (.loadingConfiguration path cause)
      | .ok configuration => .ok (configuration.overriddenBy ambient)

end KernelForge
