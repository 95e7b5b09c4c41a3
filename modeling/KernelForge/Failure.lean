import KernelForge.FileTree
import KernelForge.Platform

/-!
Contract: the ways in which driving the device compiler fails, and their wording.

Owns: the two entry points of the compiler library by name, the violations of
what caller and compiler promise, the failures, the message of each, and the
chain of causes that a report spells out.

Every failure ends the compilation at hand; none is retried.

Does not own: which stage raises which failure.
-/

namespace KernelForge

inductive EntryPoint where
  | invoke
  | freeOutput
deriving DecidableEq, Repr

def EntryPoint.symbol : EntryPoint → String
  | .invoke => "oclocInvoke"
  | .freeOutput => "oclocFreeOutput"

/-- A promise of the caller or of the compiler that was not kept. -/
inductive Violation where
  | unmappedPlatform (id : String)
  | zeroInArgument (argument : String)
  /-- There are more arguments than the argument count can say. -/
  | tooManyArguments (count : Nat)
  | missingData (name : Bytes) (length : Nat)
  | missingKernel (outputs : Nat)
  | stated (detail : String)
deriving DecidableEq, Repr

def Violation.detail : Violation → String
  | .unmappedPlatform id => unmappedPlatformMessage id
  | .zeroInArgument argument => "argument contains a NUL byte: " ++ Text.quoted argument
  | .tooManyArguments count => "too many arguments (" ++ toString count ++ ")"
  | .missingData name length =>
      "output '" ++ Text.Utf8.decodeLossy name ++ "' reports " ++ toString length ++
        " bytes but has no data"
  | .missingKernel outputs =>
      "gen binary is missing from " ++ toString outputs ++ " compiler output(s)"
  | .stated detail => detail

inductive DocumentError where
  | malformed
  | wrongKind (key : String)
deriving DecidableEq, Repr

def DocumentError.message : DocumentError → String
  | .malformed => "the text is not a TOML document"
  | .wrongKind key => "the value of " ++ Text.quoted key ++ " is of the wrong kind"

/-- A failure on the way from a request to a device binary. -/
inductive Failure where
  | libraryLoad (path : Path) (reason : String)
  | symbolMissing (entry : EntryPoint)
  | foreignCallFailed (entry : EntryPoint) (status : Int)
  | contractViolation (violation : Violation)
  | file (cause : FileError)
  | document (cause : DocumentError)
deriving DecidableEq, Repr

def Failure.message : Failure → String
  | .libraryLoad path reason => "failed to load " ++ path.display ++ ": " ++ reason
  | .symbolMissing entry => entry.symbol ++ " symbol is missing"
  | .foreignCallFailed entry status =>
      "call to " ++ entry.symbol ++ " failed with status " ++ toString status
  | .contractViolation violation => "contract violation: " ++ violation.detail
  | .file cause => "I/O error: " ++ cause.message
  | .document cause => "config parse error: " ++ cause.message

/-- The messages of a failure and of what caused it, outermost first. -/
def Failure.chain (failure : Failure) : List String :=
  match failure with
  | .file cause => [failure.message, cause.message]
  | .document cause => [failure.message, cause.message]
  | _ => [failure.message]

end KernelForge
