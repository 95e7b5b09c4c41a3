/-!
Contract: conditions on a place in a text.

Owns: places as what stands before and behind them, the conditions, and when they
hold.

Words consist of ASCII letters, digits and the underscore. A line ends at a line feed
or, on request, at a carriage return, a line feed, or both together.

Does not own: how a condition is written.
-/

namespace KernelForge.Pattern

/-- A place in a text: the characters before and behind it, if there are any. -/
structure Gap where
  before : Option Char
  behind : Option Char
deriving DecidableEq, Repr

inductive WordEdge where
  | boundary
  | noBoundary
  | start
  | stop
  | startHalf
  | stopHalf
deriving DecidableEq, Repr

inductive Condition where
  | textStart
  | textEnd
  | lineStart
  | lineEnd
  | lineStartCrlf
  | lineEndCrlf
  | word (edge : WordEdge)
  /-- An edge of words in all letters. There are no tables for it, so it never holds. -/
  | foreignWord
deriving DecidableEq, Repr

def isWordCharacter (character : Char) : Bool :=
  character.isAlphanum || character == '_'

def WordEdge.holds (edge : WordEdge) (gap : Gap) : Bool :=
  let before := gap.before.any isWordCharacter
  let behind := gap.behind.any isWordCharacter
  match edge with
  | .boundary => before != behind
  | .noBoundary => before == behind
  | .start => !before && behind
  | .stop => before && !behind
  | .startHalf => !before
  | .stopHalf => !behind

def Condition.holds (condition : Condition) (gap : Gap) : Bool :=
  match condition with
  | .textStart => gap.before.isNone
  | .textEnd => gap.behind.isNone
  | .lineStart => gap.before.all (· == '\n')
  | .lineEnd => gap.behind.all (· == '\n')
  | .lineStartCrlf =>
      match gap.before with
      | none => true
      | some '\n' => true
      | some '\r' => gap.behind != some '\n'
      | some _ => false
  | .lineEndCrlf =>
      match gap.behind with
      | none => true
      | some '\r' => true
      | some '\n' => gap.before != some '\r'
      | some _ => false
  | .word edge => edge.holds gap
  | .foreignWord => false

end KernelForge.Pattern
