import KernelForge.Echo.Writer
import KernelForge.Text.Utf8

/-!
Contract: the escaped form in which a command line is shown, and writing it.

Owns: one argument between quotes, a whole argument list on one line, and the
order of the pieces in which both reach a writer.

Only the quote inside an argument is escaped, by a backslash in front of it. A
backslash is not escaped.

Does not own: which quote is chosen, and what a failed write means to a caller.
-/

namespace KernelForge.Echo

/-- An argument with a backslash in front of every quote in it. -/
def escapedChars (quote : Char) : List Char → List Char
  | [] => []
  | character :: rest =>
      if character = quote then '\\' :: character :: escapedChars quote rest
      else character :: escapedChars quote rest

def escaped (quote : Char) (argument : String) : String :=
  String.ofList (quote :: escapedChars quote argument.toList ++ [quote])

/-- An argument list on one line: each argument escaped and followed by a space,
then the line end. -/
def escapedLine (quote : Char) (arguments : List String) : String :=
  String.join (arguments.map fun argument => escaped quote argument ++ " ") ++ "\n"

def linePieces (quote : Char) (arguments : List String) : List Bytes :=
  arguments.flatMap
    (fun argument => [Text.Utf8.encode (escaped quote argument), Text.Utf8.encode " "]) ++
    [Text.Utf8.encode "\n"]

/-- Writes one escaped argument, as one piece. -/
def writeEscaped {σ : Type} (writer : Writer σ) (state : σ) (quote : Char)
    (argument : String) : σ × Bool :=
  writer.accept state (Text.Utf8.encode (escaped quote argument))

/-- Writes an escaped argument list; the first failure ends it. -/
def writeEscapedLine {σ : Type} (writer : Writer σ) (state : σ) (quote : Char)
    (arguments : List String) : σ × Bool :=
  writer.acceptAll state (linePieces quote arguments)

/-- Echoes a label and a value on one line. A failure ends the line and is
otherwise ignored. -/
def echoLine {σ : Type} (writer : Writer σ) (state : σ) (label value : String) : σ :=
  (writer.acceptAll state
    [Text.Utf8.encode label, Text.Utf8.encode ": ", Text.Utf8.encode value,
     Text.Utf8.encode "\n"]).1

/-- Echoes a label and an escaped argument list on one line. A failure in the
label does not keep the arguments from being offered. -/
def echoArguments {σ : Type} (writer : Writer σ) (state : σ) (label : String)
    (arguments : List String) : σ :=
  let labelled := (writer.acceptAll state [Text.Utf8.encode label, Text.Utf8.encode ": "]).1
  (writeEscapedLine writer labelled '"' arguments).1

theorem linePieces_flatten (quote : Char) (arguments : List String) :
    (linePieces quote arguments).flatten = Text.Utf8.encode (escapedLine quote arguments) := by
  have pieces : (linePieces quote arguments).flatten =
      arguments.flatMap (fun argument =>
        Text.Utf8.encode (escaped quote argument) ++ Text.Utf8.encode " ") ++
        Text.Utf8.encode "\n" := by
    unfold linePieces
    induction arguments with
    | nil => simp
    | cons argument rest inductionHypothesis => simpa using inductionHypothesis
  rw [pieces, escapedLine, Text.Utf8.encode_append, Text.Utf8.encode_join, List.flatMap_map]
  simp only [Text.Utf8.encode_append]

theorem writeEscapedLine_unlimited (written : Bytes) (quote : Char) (arguments : List String) :
    writeEscapedLine .unlimited written quote arguments =
      (written ++ Text.Utf8.encode (escapedLine quote arguments), true) := by
  rw [writeEscapedLine, Writer.acceptAll_unlimited, linePieces_flatten]

end KernelForge.Echo
