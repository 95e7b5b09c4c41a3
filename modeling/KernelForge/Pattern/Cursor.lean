import KernelForge.Pattern.Fault
import KernelForge.Text.CharacterClass

/-!
Contract: how far a written pattern is read.

Owns: the characters that are still to be read, the position in front of them, whether
blanks between parts mean anything, and the group names met so far.

Where blanks mean nothing, a number sign starts a comment up to the end of its line.

Does not own: what the characters spell.
-/

namespace KernelForge.Pattern

structure Cursor where
  rest : List Char
  position : Position
  ignoresBlanks : Bool
  /-- The group names so far, with their places. -/
  names : List (List Char × Span)
deriving Repr

namespace Cursor

def start (written : List Char) : Cursor := ⟨written, .first, false, []⟩

def atEnd (cursor : Cursor) : Bool := cursor.rest.isEmpty

def sees (cursor : Cursor) (character : Char) : Bool := cursor.rest.head? == some character

def step (cursor : Cursor) : Cursor :=
  match cursor.rest with
  | [] => cursor
  | character :: rest => { cursor with rest, position := cursor.position.after character }

def steps (cursor : Cursor) : Nat → Cursor
  | 0 => cursor
  | count + 1 => cursor.step.steps count

/-- The cursor behind a text, if it comes next. -/
def past? (cursor : Cursor) (text : String) : Option Cursor :=
  if text.toList.isPrefixOf cursor.rest then some (cursor.steps text.length) else none

/-- What is left of characters behind blanks and comments, and the position there. -/
def behindBlanks : Bool → Position → List Char → Position × List Char
  | _, position, [] => (position, [])
  | true, position, character :: rest =>
      behindBlanks (character != '\n') (position.after character) rest
  | false, position, character :: rest =>
      if Text.isWhiteSpace character then behindBlanks false (position.after character) rest
      else if character = '#' then behindBlanks true (position.after character) rest
      else (position, character :: rest)

def skipBlanks (cursor : Cursor) : Cursor :=
  if cursor.ignoresBlanks then
    let found := behindBlanks false cursor.position cursor.rest
    { cursor with position := found.1, rest := found.2 }
  else cursor

/-- The cursor behind the next character and what means nothing behind it. -/
def stepOver (cursor : Cursor) : Cursor := cursor.step.skipBlanks

/-- The cursor behind blanks, whether they mean something or not. -/
def skipWhiteSpace (cursor : Cursor) : Cursor :=
  let blanks := cursor.rest.takeWhile Text.isWhiteSpace
  cursor.steps blanks.length

/-- The first character that is no blank, where one number sign counts as a blank. -/
def firstVisible : Bool → List Char → Option Char
  | _, [] => none
  | commented, character :: rest =>
      if Text.isWhiteSpace character then firstVisible commented rest
      else if character = '#' ∧ commented = false then firstVisible true rest
      else some character

/-- The character behind the next one. Where blanks mean nothing it is the first
visible one, as long as there is any. -/
def second (cursor : Cursor) : Option Char :=
  let behind := cursor.rest.drop 1
  if cursor.ignoresBlanks then (firstVisible false behind).or behind.head? else behind.head?

def here (cursor : Cursor) : Span := ⟨cursor.position, cursor.position⟩

def next (cursor : Cursor) : Span := ⟨cursor.position, cursor.step.position⟩

/-- The span from an earlier position up to the cursor. -/
def since (cursor : Cursor) (start : Position) : Span := ⟨start, cursor.position⟩

end Cursor

end KernelForge.Pattern
