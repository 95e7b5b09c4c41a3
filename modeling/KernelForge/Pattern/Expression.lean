import KernelForge.Pattern.CharacterSet
import KernelForge.Pattern.Condition

/-!
Contract: regular expressions with conditions.

Owns: expressions, their simplified forms, and how much room the state machine of an
expression takes.

The room is counted in bytes, for the machine that reads a text forwards and for the
one that reads it backwards. A set that reaches beyond ASCII is counted like the set of
all characters but one, which differs between the two machines.

Does not own: what an expression matches; that is `KernelForge.Pattern.Matcher`.
-/

namespace KernelForge.Pattern

inductive Expression where
  | empty
  | condition (required : Condition)
  | character (value : Char)
  | one (set : CharacterSet)
  | sequence (first second : Expression)
  | either (first second : Expression)
  /-- Matches the body a number of times between two bounds. -/
  | repeated (body : Expression) (least : Nat) (most : Option Nat)
  /-- Matches what the body matches, and remembers it. -/
  | capture (body : Expression)
deriving Repr

namespace Expression

/-- The expression never takes a character. -/
def takesNothing : Expression → Bool
  | .empty => true
  | .condition _ => true
  | .character _ => false
  | .one _ => false
  | .sequence first second => first.takesNothing && second.takesNothing
  | .either first second => first.takesNothing && second.takesNothing
  | .repeated body _ _ => body.takesNothing
  | .capture body => body.takesNothing

/-- A repetition, simplified: one that takes nothing is needed at most once, none at
all is the empty text, and exactly one is the body. -/
def ofRepetition (body : Expression) (least : Nat) (most : Option Nat) : Expression :=
  let lower := if body.takesNothing then min least 1 else least
  let upper := if body.takesNothing then some (min (most.getD 1) 1) else most
  match lower, upper with
  | 0, some 0 => .empty
  | 1, some 1 => body
  | _, _ => .repeated body lower upper

def isEmpty : Expression → Bool
  | .empty => true
  | _ => false

def join : List Expression → Expression
  | [] => .empty
  | [part] => part
  | part :: rest => .sequence part (join rest)

/-- Expressions one after another, simplified: those of the empty text are left out. -/
def ofParts (parts : List Expression) : Expression :=
  join (parts.filter fun part => !part.isEmpty)

/-- The set of an expression that matches exactly one character. -/
def set? : Expression → Option CharacterSet
  | .character value => some (.single value)
  | .one set => some set
  | _ => none

def chooseFrom : List Expression → Expression
  | [] => .one .nothing
  | [branch] => branch
  | branch :: rest => .either branch (chooseFrom rest)

/-- Expressions to choose from, simplified: single characters make one set. -/
def ofBranches (branches : List Expression) : Expression :=
  match branches.mapM set? with
  | some (first :: rest) => .one (rest.foldl .union first)
  | _ => chooseFrom branches

/-- The expression asks for an edge of words in all letters. -/
def needsForeignWords : Expression → Bool
  | .empty => false
  | .condition required => required == .foreignWord
  | .character _ => false
  | .one _ => false
  | .sequence first second => first.needsForeignWords || second.needsForeignWords
  | .either first second => first.needsForeignWords || second.needsForeignWords
  | .repeated body _ _ => body.needsForeignWords
  | .capture body => body.needsForeignWords

structure Costs where
  wideSet : Nat
  capture : Nat
deriving DecidableEq, Repr

def forwards : Costs := ⟨368, 64⟩

/-- The machine that reads backwards, which remembers nothing. -/
def backwards : Costs := ⟨1000, 0⟩

def stateRoom : Nat := 32

def choiceRoom : Nat := stateRoom + 8

def setRoom (costs : Costs) (set : CharacterSet) : Nat :=
  if set.reachesBeyondAscii then costs.wideSet
  else if set.asciiCount ≤ 1 then stateRoom
  else if set.asciiRuns = 1 then 2 * stateRoom
  else 2 * stateRoom + 8 * set.asciiRuns

/-- The room of the way into a branch of a choice. -/
def branchRoom (isBranch : Bool) : Nat := if isBranch then 4 else 0

/-- The room of an expression, as a branch of a choice or on its own. -/
def room (costs : Costs) : Expression → Bool → Nat
  | .either first second, isBranch =>
      (if isBranch then 0 else 2 * stateRoom) + first.room costs true + second.room costs true
  | .empty, isBranch => branchRoom isBranch + stateRoom
  | .condition _, isBranch => branchRoom isBranch + stateRoom
  | .character value, isBranch => branchRoom isBranch + stateRoom * value.utf8Size
  | .one set, isBranch => branchRoom isBranch + setRoom costs set
  | .sequence first second, isBranch =>
      branchRoom isBranch + first.room costs false + second.room costs false
  | .repeated body least most, isBranch =>
      let bodyRoom := body.room costs false
      let optional :=
        match most with
        | none => choiceRoom + if least = 0 then bodyRoom else 0
        | some upper =>
            if upper = least then 0 else stateRoom + (upper - least) * (choiceRoom + bodyRoom)
      branchRoom isBranch + least * bodyRoom + optional
  | .capture body, isBranch => branchRoom isBranch + costs.capture + body.room costs false

/-- The room around every expression: the search for its start, the ends of the whole
match, and the state that accepts. -/
def frameRoom : Nat := 168

/-- The most room that a machine may take. -/
def roomLimit : Nat := 10485760

def isTooLarge (costs : Costs) (expression : Expression) : Bool :=
  roomLimit < frameRoom + expression.room costs false

end Expression

end KernelForge.Pattern
