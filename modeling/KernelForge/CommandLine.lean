import KernelForge.Path

/-!
Contract: what a command line asks for.

Owns: the three jobs with their options, and the reasons to stop before any of
them begins.

Does not own: how arguments are read; that is `KernelForge.CommandLine.Arguments`.
-/

namespace KernelForge

/-- What the `translate` job is asked to do. -/
structure TranslateOptions where
  platform : String
  binaryFormat : String
  input : Path
  /-- The target features; empty for none. -/
  features : String
  backendOptions : List String
  timePasses : Bool
  /-- Where the kernel binary goes, if that is not left to the input's name. -/
  output : Option Path
  /-- Where debug info goes, if that is not left to the input's name. -/
  debugInfo : Option Path
  configuration : Option Path
  dryRun : Bool
  json : Bool
deriving DecidableEq, Repr

inductive Job where
  | translate (options : TranslateOptions)
  | platforms (format : Option String)
  | doctor (configuration : Option Path)
deriving DecidableEq, Repr

structure CommandLine where
  verbose : Bool
  job : Job
deriving DecidableEq, Repr

inductive Halt where
  | version
  | help
  | refused
deriving DecidableEq, Repr

end KernelForge
