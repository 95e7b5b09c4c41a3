/-!
Contract: places in a written pattern.

Owns: positions by line and column, and the spans between two of them.

Lines and columns count from one. A line feed is the last character of its line.

Does not own: what stands at a place.
-/

namespace KernelForge.Pattern

/-- A position between two characters: the line and the column of the second. -/
structure Position where
  line : Nat
  column : Nat
deriving DecidableEq, Repr

namespace Position

def first : Position := ⟨1, 1⟩

def after (position : Position) (character : Char) : Position :=
  if character = '\n' then ⟨position.line + 1, 1⟩ else ⟨position.line, position.column + 1⟩

/-- One position stands before another, or is the same. -/
def precedes (position other : Position) : Bool :=
  position.line < other.line || (position.line == other.line && position.column ≤ other.column)

end Position

structure Span where
  start : Position
  stop : Position
deriving DecidableEq, Repr

namespace Span

/-- Both ends are on one line. -/
def isOneLine (span : Span) : Bool :=
  span.start.line == span.stop.line

/-- The number of marks that point the span out on its line: one for each character,
and one for an empty span. -/
def width (span : Span) : Nat :=
  max 1 (span.stop.column - span.start.column)

/-- One span starts before another, or starts there and stops before it. -/
def precedes (span other : Span) : Bool :=
  if span.start = other.start then span.stop.precedes other.stop
  else span.start.precedes other.start

end Span

end KernelForge.Pattern
