import KernelForge.Pattern.Cursor
import KernelForge.Pattern.Term

/-!
Contract: reading what a backslash introduces.

Owns: escaped characters, characters by their hexadecimal code point, control
characters by their letters, classes and properties of one letter, and the conditions
that a backslash introduces.

A backslash takes away the meaning of any ASCII character but a letter, a digit and
the angle brackets.

Does not own: what stands without a backslash.
-/

namespace KernelForge.Pattern

/-- A character without a meaning of its own behind a backslash. -/
def isEscapable (character : Char) : Bool :=
  character.toNat < 0x80 && !character.isAlphanum && character != '<' && character != '>'

def controlCharacter? : Char → Option Char
  | 'a' => some '\x07'
  | 'f' => some '\x0c'
  | 't' => some '\t'
  | 'n' => some '\n'
  | 'r' => some '\r'
  | 'v' => some '\x0b'
  | _ => none

/-- The condition that a letter or an angle bracket means. -/
def anchor? : Char → Option Anchor
  | 'A' => some .textStart
  | 'z' => some .textEnd
  | 'B' => some .noWordBoundary
  | '<' => some .wordStart
  | '>' => some .wordEnd
  | _ => none

/-- The class that a letter means, and whether it is negated. -/
def shorthand? : Char → Option (Bool × Shorthand)
  | 'd' => some (false, .digit)
  | 's' => some (false, .space)
  | 'w' => some (false, .word)
  | 'D' => some (true, .digit)
  | 'S' => some (true, .space)
  | 'W' => some (true, .word)
  | _ => none

def hexValue? (character : Char) : Option Nat :=
  if character.isDigit then some (character.toNat - 0x30)
  else if 'a' ≤ character ∧ character ≤ 'f' then some (character.toNat - 0x57)
  else if 'A' ≤ character ∧ character ≤ 'F' then some (character.toNat - 0x37)
  else none

def hexNumber (digits : List Nat) : Nat :=
  digits.foldl (fun value digit => 16 * value + digit) 0

/-- The character with a code point, if there is one. -/
def scalar? (codePoint : Nat) : Option Char :=
  if codePoint.isValidChar then some (Char.ofNat codePoint) else none

/-- Reads a fixed number of hexadecimal digits and gives the cursor behind the last. -/
def readHexDigits : Nat → Cursor → Except Fault (List Nat × Cursor)
  | 0, cursor => .ok ([], cursor)
  | count + 1, cursor =>
      match cursor.rest with
      | [] => .error (.of cursor.here .escapeUnfinished)
      | character :: _ =>
          match hexValue? character with
          | none => .error (.of cursor.next .escapeHexInvalidDigit)
          | some digit => do
              let (digits, behind) ← readHexDigits count cursor.stepOver
              return (digit :: digits, behind)

/-- Reads hexadecimal digits up to a closing brace, which stays unread. The allowance
bounds their number. -/
def readBracedDigits : Nat → Cursor → Except Fault (List Nat × Cursor)
  | 0, cursor => .ok ([], cursor)
  | allowance + 1, cursor =>
      match cursor.rest with
      | [] => .ok ([], cursor)
      | '\x7d' :: _ => .ok ([], cursor)
      | character :: _ =>
          match hexValue? character with
          | none => .error (.of cursor.next .escapeHexInvalidDigit)
          | some digit => do
              let (digits, behind) ← readBracedDigits allowance cursor.stepOver
              return (digit :: digits, behind)

/-- Reads a code point in braces, from the opening one on. -/
def readBracedHex (start : Position) (cursor : Cursor) : Except Fault (Literal × Cursor) := do
  let (digits, closing) ← readBracedDigits cursor.rest.length cursor.stepOver
  if closing.atEnd then
    throw (.of (closing.since cursor.position) .escapeUnfinished)
  let behind := closing.stepOver
  if digits = [] then throw (.of (behind.since cursor.position) .escapeHexEmpty)
  match scalar? (hexNumber digits) with
  | none => throw (.of (closing.since cursor.step.position) .escapeHexInvalid)
  | some value => return (⟨behind.since start, value, false⟩, behind)

/-- Reads a code point of a fixed number of digits. -/
def readFixedHex (start : Position) (count : Nat) (cursor : Cursor) :
    Except Fault (Literal × Cursor) := do
  let (digits, behind) ← readHexDigits count cursor
  match scalar? (hexNumber digits) with
  | none => throw (.of (behind.since cursor.position) .escapeHexInvalid)
  | some value => return (⟨behind.since start, value, count == 2⟩, behind)

/-- Reads a character by its code point, from the letter in front of it on. -/
def readHex (start : Position) (count : Nat) (cursor : Cursor) : Except Fault (Literal × Cursor) :=
  let behind := cursor.stepOver
  if behind.atEnd then .error (.of behind.here .escapeUnfinished)
  else if behind.sees '\x7b' then readBracedHex start behind
  else readFixedHex start count behind

/-- Collects characters up to a closing brace, which stays unread. The allowance bounds
their number. -/
def collectBraced : Nat → Cursor → List Char × Cursor
  | 0, cursor => ([], cursor)
  | allowance + 1, cursor =>
      match cursor.rest with
      | [] => ([], cursor)
      | '\x7d' :: _ => ([], cursor)
      | character :: _ =>
          let (characters, behind) := collectBraced allowance cursor.stepOver
          (character :: characters, behind)

def propertyOf (name : List Char) : Property :=
  if name.contains ':' || name.contains '=' then .valued else .named name

/-- Reads a property, from the letter in front of it on. -/
def readProperty (start : Position) (cursor : Cursor) : Except Fault (Term × Cursor) :=
  let behind := cursor.stepOver
  match behind.rest with
  | [] => .error (.of behind.here .escapeUnfinished)
  | '\\' :: _ => .error (.of behind.next .propertyInvalid)
  | '\x7b' :: _ =>
      let (name, closing) := collectBraced behind.rest.length behind.stepOver
      if closing.atEnd then .error (.of closing.here .escapeUnfinished)
      else .ok (.property (closing.step.since start) (propertyOf name), closing.step)
  | letter :: _ =>
      .ok (.property (behind.stepOver.since start) (.named [letter]), behind.stepOver)

def isConditionLetter (character : Char) : Bool :=
  character.isAlpha || character == '-'

/-- Collects the name of a word condition. The allowance bounds its length. -/
def collectCondition : Nat → Cursor → List Char × Cursor
  | 0, cursor => ([], cursor)
  | allowance + 1, cursor =>
      match cursor.rest with
      | [] => ([], cursor)
      | character :: _ =>
          if isConditionLetter character then
            let (characters, behind) := collectCondition allowance cursor.stepOver
            (character :: characters, behind)
          else ([], cursor)

def wordCondition? (name : List Char) : Option Anchor :=
  let names : List (String × Anchor) :=
    [("start", .wordStart), ("end", .wordEnd), ("start-half", .wordStartHalf),
     ("end-half", .wordEndHalf)]
  names.lookup (String.ofList name)

/-- Reads what a brace behind a word boundary introduces: the name of a word condition.
Anything else than a name there is left for a repetition. -/
def readWordBoundary (start : Position) (cursor : Cursor) : Except Fault (Term × Cursor) :=
  let plain : Term := .anchor (cursor.since start) .wordBoundary
  if cursor.sees '\x7b' then
    let name := cursor.stepOver
    match name.rest with
    | [] => .error (.of (name.since start) .wordBoundaryUnfinished)
    | character :: _ =>
        if isConditionLetter character then
          let (letters, closing) := collectCondition name.rest.length name
          if closing.sees '\x7d' then
            match wordCondition? letters with
            | some condition =>
                .ok (.anchor (closing.step.since start) condition, closing.step)
            | none => .error (.of (closing.since name.position) .wordBoundaryUnrecognized)
          else .error (.of (closing.since cursor.position) .wordBoundaryUnclosed)
        else .ok (plain, cursor)
  else .ok (plain, cursor)

def readShortEscape (start : Position) (character : Char) (behind : Cursor) :
    Except Fault (Term × Cursor) :=
  let span := behind.since start
  if isEscapable character then .ok (.literal ⟨span, character, false⟩, behind)
  else if character = 'b' then readWordBoundary start behind
  else
    match controlCharacter? character, anchor? character, shorthand? character with
    | some value, _, _ => .ok (.literal ⟨span, value, false⟩, behind)
    | _, some kind, _ => .ok (.anchor span kind, behind)
    | _, _, some (negated, kind) => .ok (.shorthand span negated kind, behind)
    | none, none, none => .error (.of span .escapeUnrecognized)

/-- Reads an escape, from the backslash on. -/
def readEscape (cursor : Cursor) : Except Fault (Term × Cursor) :=
  let start := cursor.position
  let letter := cursor.step
  let hexadecimal (count : Nat) : Except Fault (Term × Cursor) := do
    let (literal, behind) ← readHex start count letter
    return (.literal literal, behind)
  match letter.rest with
  | [] => .error (.of (letter.since start) .escapeUnfinished)
  | 'x' :: _ => hexadecimal 2
  | 'u' :: _ => hexadecimal 4
  | 'U' :: _ => hexadecimal 8
  | 'p' :: _ => readProperty start letter
  | 'P' :: _ => readProperty start letter
  | character :: _ =>
      if character.isDigit then .error (.of (letter.step.since start) .backreference)
      else readShortEscape start character letter.step

end KernelForge.Pattern
