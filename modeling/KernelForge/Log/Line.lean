import KernelForge.Log.Filter
import KernelForge.Text.ControlSequence
import KernelForge.Text.Utf8

/-!
Contract: the line that a log record makes on standard error.

Owns: the layout of a line, its colours, and what is kept from a terminal.

A line has the level and the target in brackets and the message behind them; a
line end inside the message is followed by four spaces. Without colours, control
characters and control sequences are removed.

Does not own: which records are written; that is `KernelForge.Log.Filter`.
-/

namespace KernelForge.Log

inductive LineStyle where
  | plain
  | coloured
deriving DecidableEq, Repr

/-- A control sequence that selects a graphic rendition by its number. -/
def selectRendition (number : Nat) : String :=
  "\x1b[" ++ toString number ++ "m"

/-- A text in graphic renditions, with the default one behind it. -/
def rendered (renditions : List Nat) (text : String) : String :=
  String.join (renditions.map selectRendition) ++ text ++ selectRendition 0

def levelRenditions : LogLevel → List Nat
  | .error => [1, 31]
  | .warn => [33]
  | .info => [32]
  | .debug => [34]
  | .trace => [36]

def bracketRenditions : List Nat := [90]

def paddedLevel (level : LogLevel) : String :=
  match level with
  | .warn => "WARN "
  | .info => "INFO "
  | other => other.name

/-- A message with every further line moved to the right. -/
def indented (message : String) : String :=
  String.ofList (message.toList.flatMap fun character =>
    if character = '\n' then ['\n', ' ', ' ', ' ', ' '] else [character])

def line (style : LineStyle) (record : LogRecord) : Bytes :=
  let level := paddedLevel record.level
  let body := indented record.message ++ "\n"
  match style with
  | .plain =>
      Text.ControlSequence.removed (Text.Utf8.encode
        ("[" ++ level ++ " " ++ record.source.target ++ "] " ++ body))
  | .coloured =>
      Text.Utf8.encode
        (rendered bracketRenditions "[" ++ rendered (levelRenditions record.level) level ++ " " ++
          record.source.target ++ rendered bracketRenditions "]" ++ " " ++ body)

end KernelForge.Log
