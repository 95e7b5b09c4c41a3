import KernelForge.Fields
import KernelForge.Pattern.Span

/-!
Contract: what is wrong with a written pattern, and how it is said.

Owns: the causes and their wording, faults as causes with a place, and the report that
shows the pattern with marks under the place.

A pattern of one line is shown behind four spaces. One of several lines is shown
between two rules with its lines numbered, and a place that goes over a line end is
described by its line and column numbers instead of marks.

Does not own: when a fault arises; that is for the modules that read a pattern.
-/

namespace KernelForge.Pattern

/-- How deep parts of a pattern may stand inside one another. -/
def depthLimit : Nat := 250

inductive Cause where
  | classEscapeInvalid
  | classRangeInvalid
  | classRangeLiteral
  | classUnclosed
  | decimalInvalid
  | escapeHexEmpty
  | escapeHexInvalid
  | escapeHexInvalidDigit
  | escapeUnfinished
  | escapeUnrecognized
  | flagDanglingNegation
  | flagDuplicate
  | flagRepeatedNegation
  | flagUnfinished
  | flagUnrecognized
  | groupNameDuplicate
  | groupNameEmpty
  | groupNameInvalid
  | groupNameUnfinished
  | groupUnclosed
  | groupUnopened
  | tooDeep
  | repetitionCountInvalid
  | repetitionCountEmpty
  | repetitionCountUnclosed
  | repetitionMissing
  | wordBoundaryUnclosed
  | wordBoundaryUnrecognized
  | wordBoundaryUnfinished
  | propertyInvalid
  | backreference
  | lookAround
  /-- A property of all characters where only bytes are told apart. -/
  | unicodeNotAllowed
  | illFormedMatch
  | propertyNotFound
  | propertyValueNotFound
  | shorthandUnavailable
  | letterCaseUnavailable
deriving DecidableEq, Repr

def Cause.message : Cause → String
  | .classEscapeInvalid => "invalid escape sequence found in character class"
  | .classRangeInvalid => "invalid character class range, the start must be <= the end"
  | .classRangeLiteral => "invalid range boundary, must be a literal"
  | .classUnclosed => "unclosed character class"
  | .decimalInvalid => "decimal literal invalid"
  | .escapeHexEmpty => "hexadecimal literal empty"
  | .escapeHexInvalid => "hexadecimal literal is not a Unicode scalar value"
  | .escapeHexInvalidDigit => "invalid hexadecimal digit"
  | .escapeUnfinished => "incomplete escape sequence, reached end of pattern prematurely"
  | .escapeUnrecognized => "unrecognized escape sequence"
  | .flagDanglingNegation => "dangling flag negation operator"
  | .flagDuplicate => "duplicate flag"
  | .flagRepeatedNegation => "flag negation operator repeated"
  | .flagUnfinished => "expected flag but got end of regex"
  | .flagUnrecognized => "unrecognized flag"
  | .groupNameDuplicate => "duplicate capture group name"
  | .groupNameEmpty => "empty capture group name"
  | .groupNameInvalid => "invalid capture group character"
  | .groupNameUnfinished => "unclosed capture group name"
  | .groupUnclosed => "unclosed group"
  | .groupUnopened => "unopened group"
  | .tooDeep =>
      "exceed the maximum number of nested parentheses/brackets (" ++ toString depthLimit ++ ")"
  | .repetitionCountInvalid =>
      "invalid repetition count range, the start must be <= the end"
  | .repetitionCountEmpty => "repetition quantifier expects a valid decimal"
  | .repetitionCountUnclosed => "unclosed counted repetition"
  | .repetitionMissing => "repetition operator missing expression"
  | .wordBoundaryUnclosed =>
      "special word boundary assertion is either unclosed or contains an invalid character"
  | .wordBoundaryUnrecognized =>
      "unrecognized special word boundary assertion, valid choices are: start, end, " ++
        "start-half or end-half"
  | .wordBoundaryUnfinished =>
      "found either the beginning of a special word boundary or a bounded repetition on a " ++
        "\\b with an opening brace, but no closing brace"
  | .propertyInvalid => "invalid Unicode character class"
  | .backreference => "backreferences are not supported"
  | .lookAround => "look-around, including look-ahead and look-behind, is not supported"
  | .unicodeNotAllowed => "Unicode not allowed here"
  | .illFormedMatch => "pattern can match invalid UTF-8"
  | .propertyNotFound => "Unicode property not found"
  | .propertyValueNotFound => "Unicode property value not found"
  | .shorthandUnavailable =>
      "Unicode-aware Perl class not found (make sure the unicode-perl feature is enabled)"
  | .letterCaseUnavailable =>
      "Unicode-aware case insensitivity matching is not available " ++
        "(make sure the unicode-case feature is enabled)"

/-- Something wrong at a place, and the earlier place with which it conflicts. -/
structure Fault where
  span : Span
  cause : Cause
  conflict : Option Span
deriving DecidableEq, Repr

namespace Fault

def of (span : Span) (cause : Cause) : Fault := ⟨span, cause, none⟩

def spans (fault : Fault) : List Span :=
  match fault.conflict with
  | none => [fault.span]
  | some other =>
      if other.precedes fault.span then [other, fault.span] else [fault.span, other]

/-- The lines of a text. A line feed ends a line, and a carriage return in front of it
belongs to the line end. Behind the last line feed there is a line only if there is a
character. -/
def linesOf (characters : List Char) : List (List Char) :=
  let pieces := fields (· == '\n') characters
  let ended := pieces.dropLast.map fun line =>
    if line.getLast? = some '\r' then line.dropLast else line
  match pieces.getLast? with
  | none | some [] => ended
  | some line => ended ++ [line]

/-- The marks under one line from a column on, for the places on it. -/
def marksFrom : Nat → List Span → List Char
  | _, [] => []
  | column, span :: rest =>
      List.replicate (span.start.column - column) ' ' ++ List.replicate span.width '^' ++
        marksFrom (max column span.start.column + span.width) rest

/-- A line with its marks, if there are any. -/
def shownLine (margin label : String) (spans : List Span) (line : List Char) : String :=
  let shown := label ++ String.ofList line ++ "\n"
  if spans = [] then shown else shown ++ margin ++ String.ofList (marksFrom 1 spans) ++ "\n"

/-- The description of a place that goes over a line end. -/
def describe (span : Span) : String :=
  "on line " ++ toString span.start.line ++ " (column " ++ toString span.start.column ++
    ") through line " ++ toString span.stop.line ++ " (column " ++
    toString (span.stop.column - 1) ++ ")"

def lineLabel (width number : Nat) : String :=
  let digits := toString number
  String.ofList (List.replicate (width - digits.length) ' ') ++ digits ++ ": "

/-- The lines of a pattern of several lines, numbered, with their marks. -/
def numberedLines (spans : List Span) (lines : List (List Char)) (count : Nat) : String :=
  let width := (toString count).length
  let margin := String.ofList (List.replicate (width + 2) ' ')
  String.join ((lines.zipIdx 1).map fun entry =>
    shownLine margin (lineLabel width entry.2)
      (spans.filter fun span => span.isOneLine && span.start.line == entry.2) entry.1)

def report (fault : Fault) (written : List Char) : String :=
  let opening := "regex parse error:\n"
  let closing := "error: " ++ fault.cause.message
  let lines := linesOf written
  if written.contains '\n' then
    let count := if written.getLast? = some '\n' then lines.length + 1 else lines.length
    let rule := String.ofList (List.replicate 79 '~') ++ "\n"
    let across := (fault.spans.filter fun span => !span.isOneLine).map describe
    let notes := if across = [] then "" else String.intercalate "\n" across ++ "\n"
    opening ++ rule ++ numberedLines fault.spans lines count ++ rule ++ notes ++ closing
  else
    opening ++ String.join (lines.map (shownLine "    " "    " fault.spans)) ++ closing

end Fault

end KernelForge.Pattern
