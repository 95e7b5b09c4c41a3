/-!
Contract: log records of the bridge.

Owns: the levels and their names, the parts of the bridge that write records and
the target names under which they do, and the record itself.

Does not own: which records reach a reader; that is `KernelForge.Log.Filter`.
-/

namespace KernelForge

inductive LogLevel where
  | error
  | warn
  | info
  | debug
  | trace
deriving DecidableEq, Repr

def LogLevel.name : LogLevel → String
  | .error => "ERROR"
  | .warn => "WARN"
  | .info => "INFO"
  | .debug => "DEBUG"
  | .trace => "TRACE"

/-- Levels as numbers; a larger one is less important. -/
def LogLevel.rank : LogLevel → Nat
  | .error => 1
  | .warn => 2
  | .info => 3
  | .debug => 4
  | .trace => 5

inductive LogSource where
  | library
  | invoke
  | output
deriving DecidableEq, Repr

def LogSource.target : LogSource → String
  | .library => "cmoc_backend::library"
  | .invoke => "cmoc_backend::invoke"
  | .output => "cmoc_backend::output"

structure LogRecord where
  level : LogLevel
  source : LogSource
  message : String
deriving DecidableEq, Repr

end KernelForge
