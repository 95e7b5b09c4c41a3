import KernelForge.Pattern.Expression

/-!
Contract: whether a text contains a match of an expression.

Owns: matchers, which are expressions without counts, the marks that show how far
matches have come, how marks move over a character, and the search.

A mark stands behind each set with which a match in progress may have taken the last
character. A text is read once, and between any two characters a new match may start,
so that the marks stand for all matches in progress together.

Does not own: which part of a text a match takes; only its existence counts.
-/

namespace KernelForge.Pattern

inductive Matcher where
  | empty
  | condition (required : Condition)
  | one (set : CharacterSet)
  | sequence (first second : Matcher)
  | either (first second : Matcher)
  | star (body : Matcher)
deriving Repr

inductive Marks where
  | none
  | here
  /-- In the first and in the second part of the matcher. -/
  | both (first second : Marks)
deriving DecidableEq, Repr

namespace Marks

def isNone : Marks → Bool
  | .none => true
  | _ => false

def first : Marks → Marks
  | .both first _ => first
  | _ => .none

def second : Marks → Marks
  | .both _ second => second
  | _ => .none

/-- The marks in two parts as marks in the whole. -/
def join (first second : Marks) : Marks :=
  if first.isNone && second.isNone then .none else .both first second

end Marks

namespace Matcher

/-- A matcher a number of times. Half as many are made once and used twice. -/
def copies (part : Matcher) (count : Nat) : Matcher :=
  if count = 0 then .empty
  else if count = 1 then part
  else
    let half := copies part (count / 2)
    if count % 2 = 0 then .sequence half half else .sequence part (.sequence half half)
termination_by count
decreasing_by omega

def ofExpression : Expression → Matcher
  | .empty => .empty
  | .condition required => .condition required
  | .character value => .one (.single value)
  | .one set => .one set
  | .sequence first second => .sequence (ofExpression first) (ofExpression second)
  | .either first second => .either (ofExpression first) (ofExpression second)
  | .repeated body least none =>
      let part := ofExpression body
      .sequence (part.copies least) (.star part)
  | .repeated body least (some most) =>
      let part := ofExpression body
      .sequence (part.copies least) ((Matcher.either .empty part).copies (most - least))
  | .capture body => ofExpression body

/-- The matcher can be passed at a place without taking a character. -/
def skips (gap : Gap) : Matcher → Bool
  | .empty => true
  | .condition required => required.holds gap
  | .one _ => false
  | .sequence first second => first.skips gap && second.skips gap
  | .either first second => first.skips gap || second.skips gap
  | .star _ => true

/-- A match in progress can leave the matcher at a place. -/
def emits (gap : Gap) : Matcher → Marks → Bool
  | _, .none => false
  | .one _, .here => true
  | .sequence first second, .both left right =>
      second.emits gap right || (first.emits gap left && second.skips gap)
  | .either first second, .both left right => first.emits gap left || second.emits gap right
  | .star body, marks => body.emits gap marks
  | _, _ => false

/-- Moves the marks over a character behind a place. Matches enter the matcher there if
`entered` says so. Also tells whether one leaves the matcher at that place. -/
def advance (gap : Gap) (character : Char) : Matcher → Bool → Marks → Marks × Bool
  | .empty, entered, _ => (.none, entered)
  | .condition required, entered, _ => (.none, entered && required.holds gap)
  | .one set, entered, marks =>
      (if entered && set.contains character then .here else .none, !marks.isNone)
  | .sequence first second, entered, marks =>
      if !entered && marks.isNone then (.none, false)
      else
        let (left, between) := first.advance gap character entered marks.first
        let (right, leaves) := second.advance gap character between marks.second
        (left.join right, leaves)
  | .either first second, entered, marks =>
      if !entered && marks.isNone then (.none, false)
      else
        let (left, leavesFirst) := first.advance gap character entered marks.first
        let (right, leavesSecond) := second.advance gap character entered marks.second
        (left.join right, leavesFirst || leavesSecond)
  | .star body, entered, marks =>
      let enters := entered || body.emits gap marks
      ((body.advance gap character enters marks).1, enters)

/-- A match ends in a text that goes on from a place, where marks show the matches in
progress. -/
def endsWithin (matcher : Matcher) (marks : Marks) (before : Option Char) :
    List Char → Bool
  | [] =>
      let gap : Gap := ⟨before, none⟩
      matcher.skips gap || matcher.emits gap marks
  | character :: rest =>
      let (moved, found) := matcher.advance ⟨before, some character⟩ character true marks
      found || matcher.endsWithin moved (some character) rest

def occursIn (matcher : Matcher) (text : List Char) : Bool :=
  matcher.endsWithin .none none text

end Matcher

end KernelForge.Pattern
