import KernelForge.Pattern.Bracket
import KernelForge.Text.Letter

/-!
Contract: reading a whole pattern.

Owns: flags, groups and their names, repetitions, sequences, alternatives, and the
term that a written pattern is.

A pattern is read from left to right and the first fault counts. Only a pattern that is
well formed otherwise is too deep.

Does not own: escapes and classes; those are `KernelForge.Pattern.Escape` and
`KernelForge.Pattern.Bracket`.
-/

namespace KernelForge.Pattern

/-! Flags. -/

structure FlagList where
  /-- The flags with their places and whether they are switched on, last first. -/
  flags : List (Flag × Span × Bool)
  /-- Where the hyphen stands behind which flags are switched off. -/
  hyphen : Option Span
  endsWithHyphen : Bool
deriving Repr

namespace FlagList

def empty : FlagList := ⟨[], none, false⟩

def switches (list : FlagList) : Switches where
  on := (list.flags.filter fun entry => entry.2.2).map Prod.fst
  off := (list.flags.filter fun entry => !entry.2.2).map Prod.fst

/-- The list with a hyphen behind it. There is at most one. -/
def addHyphen (list : FlagList) (span : Span) : Except Fault FlagList :=
  match list.hyphen with
  | some earlier => .error ⟨span, .flagRepeatedNegation, some earlier⟩
  | none => .ok { list with hyphen := some span, endsWithHyphen := true }

/-- The list with a flag behind it. Each flag is named at most once. -/
def addFlag (list : FlagList) (flag : Flag) (span : Span) : Except Fault FlagList :=
  match list.flags.lookup flag with
  | some (earlier, _) => .error ⟨span, .flagDuplicate, some earlier⟩
  | none =>
      .ok
        { list with
          flags := (flag, span, list.hyphen.isNone) :: list.flags
          endsWithHyphen := false }

/-- The list with the character at a place behind it. -/
def add (list : FlagList) (character : Char) (span : Span) : Except Fault FlagList :=
  if character = '-' then list.addHyphen span
  else
    match Flag.ofLetter? character with
    | none => .error (.of span .flagUnrecognized)
    | some flag => list.addFlag flag span

/-- The end of the list: a hyphen must have a flag behind it. -/
def finish (list : FlagList) : Except Fault Unit :=
  match list.endsWithHyphen, list.hyphen with
  | true, some span => .error (.of span .flagDanglingNegation)
  | _, _ => .ok ()

end FlagList

/-- Reads flags up to a colon or a closing parenthesis, which stays unread. The
allowance bounds their number. -/
def readFlags : Nat → FlagList → Cursor → Except Fault (FlagList × Cursor)
  | 0, list, cursor => .ok (list, cursor)
  | allowance + 1, list, cursor =>
      match cursor.rest with
      | [] => .error (.of cursor.here .flagUnfinished)
      | character :: _ =>
          if character = ':' ∨ character = ')' then do
            list.finish
            return (list, cursor)
          else do
            let longer ← list.add character cursor.next
            readFlags allowance longer cursor.step

/-! Groups. -/

/-- A character at the start of a group name, or behind it. -/
def isNameCharacter (isFirst : Bool) (character : Char) : Bool :=
  if isFirst then character == '_' || Text.isAlphabetic character
  else
    character == '_' || character == '.' || character == '[' || character == ']' ||
      Text.isAlphanumeric character

/-- Collects a group name up to its closing angle bracket, which stays unread. The
allowance bounds its length. -/
def collectName : Nat → Bool → Cursor → Except Fault (List Char × Cursor)
  | 0, _, cursor => .ok ([], cursor)
  | allowance + 1, isFirst, cursor =>
      match cursor.rest with
      | [] => .error (.of cursor.here .groupNameUnfinished)
      | '>' :: _ => .ok ([], cursor)
      | character :: _ =>
          if isNameCharacter isFirst character then do
            let (name, behind) ← collectName allowance false cursor.step
            return (character :: name, behind)
          else .error (.of cursor.next .groupNameInvalid)

/-- Reads a group name and its closing angle bracket. No two groups have one name. -/
def readGroupName (cursor : Cursor) : Except Fault Cursor := do
  let (name, closing) ← collectName (cursor.rest.length + 1) true cursor
  let span := closing.since cursor.position
  if name = [] then throw (.of cursor.here .groupNameEmpty)
  match closing.names.lookup name with
  | some earlier => throw ⟨span, .groupNameDuplicate, some earlier⟩
  | none => return { closing.step with names := (name, span) :: closing.names }

inductive Introduction where
  | switches (span : Span) (switches : Switches)
  | group (kind : GroupKind)
deriving Repr

/-- Reads flags behind a question mark: switches, or the opening of a plain group. -/
def readSwitches (start inner : Cursor) (cursor : Cursor) :
    Except Fault (Introduction × Cursor) := do
  if cursor.atEnd then throw (.of start.next .groupUnclosed)
  let (list, closing) ← readFlags (cursor.rest.length + 1) .empty cursor
  let behind := closing.step
  if closing.sees ':' then return (.group (.plain list.switches), behind)
  if list.flags.isEmpty then throw (.of inner.here .repetitionMissing)
  return (.switches (behind.since start.position) list.switches, behind)

/-- The first of several texts that comes next, and the cursor behind it. -/
def pastAny? (cursor : Cursor) (texts : List String) : Option Cursor :=
  texts.findSome? cursor.past?

/-- Reads what an opening parenthesis introduces, from the parenthesis on. -/
def readIntroduction (cursor : Cursor) : Except Fault (Introduction × Cursor) :=
  let inner := cursor.stepOver
  match pastAny? inner ["?=", "?!", "?<=", "?<!"] with
  | some behind => .error (.of (behind.since cursor.position) .lookAround)
  | none =>
      match pastAny? inner ["?P<", "?<"] with
      | some name => do
          let behind ← readGroupName name
          return (.group .capturing, behind)
      | none =>
          match inner.past? "?" with
          | some flags => readSwitches cursor inner flags
          | none => .ok (.group .capturing, inner)

/-! Repetitions. -/

/-- Collects decimal digits and gives the cursor behind the last. The allowance bounds
their number. -/
def collectDigits : Nat → Cursor → List Char × Cursor
  | 0, cursor => ([], cursor)
  | allowance + 1, cursor =>
      match cursor.rest with
      | [] => ([], cursor)
      | character :: _ =>
          if character.isDigit then
            let (digits, behind) := collectDigits allowance cursor.stepOver
            (character :: digits, behind)
          else ([], cursor)

def countLimit : Nat := 4294967296

/-- Reads a count, which may have blanks around it. The count is refused only when it
is needed. -/
def readCount (given : Cursor) : Except Fault Nat × Cursor :=
  let cursor := given.skipWhiteSpace
  let (digits, behind) := collectDigits cursor.rest.length cursor
  let span := behind.since cursor.position
  let value := digits.foldl (fun value digit => 10 * value + (digit.toNat - 0x30)) 0
  let count : Except Fault Nat :=
    if digits = [] then .error (.of span .repetitionCountEmpty)
    else if countLimit ≤ value then .error (.of span .decimalInvalid)
    else .ok value
  (count, (behind.skipWhiteSpace).skipBlanks)

/-- Reads the bounds behind a comma and the least count in front of it. -/
def readUpperBound (start : Position) (least : Except Fault Nat) (comma : Cursor) :
    Except Fault ((Nat × Option Nat) × Cursor) := do
  let behind := comma.stepOver
  if behind.atEnd then throw (.of (behind.since start) .repetitionCountUnclosed)
  let lower ← least
  if behind.sees '\x7d' then return ((lower, none), behind)
  let (most, closing) := readCount behind
  let upper ← most
  return ((lower, some upper), closing)

/-- Reads the bounds of a counted repetition up to its closing brace, which stays
unread: one count for both, a least count, or a least and a greatest one. -/
def readBounds (start : Position) (cursor : Cursor) :
    Except Fault ((Nat × Option Nat) × Cursor) := do
  if cursor.atEnd then throw (.of (cursor.since start) .repetitionCountUnclosed)
  let (least, behind) := readCount cursor
  if behind.atEnd then throw (.of (behind.since start) .repetitionCountUnclosed)
  if behind.sees ',' then readUpperBound start least behind
  else
    let count ← least
    return ((count, some count), behind)

/-- The cursor behind a mark that prefers few repetitions. Whether few or many are
preferred does not matter where only the existence of a match does. -/
def skipPreference (cursor : Cursor) : Cursor :=
  if cursor.sees '?' then cursor.step else cursor

/-- Reads a counted repetition, from its opening brace on. -/
def readCounted (cursor : Cursor) : Except Fault ((Nat × Option Nat) × Cursor) := do
  let (bounds, closing) ← readBounds cursor.position cursor.stepOver
  if !closing.sees '\x7d' then
    throw (.of (closing.since cursor.position) .repetitionCountUnclosed)
  let behind := skipPreference closing.stepOver
  if bounds.2.any (· < bounds.1) then
    throw (.of (behind.since cursor.position) .repetitionCountInvalid)
  return (bounds, behind)

def bounds? : Char → Option (Nat × Option Nat)
  | '*' => some (0, none)
  | '+' => some (1, none)
  | '?' => some (0, some 1)
  | _ => none

def Term.isRepeatable : Term → Bool
  | .empty _ => false
  | .switches _ _ => false
  | _ => true

/-! Sequences and alternatives. -/

structure Branches where
  first : Position
  /-- The finished branches, last first. -/
  finished : List Term
  start : Position
  /-- The parts of the branch in progress, last first. -/
  parts : List Term
deriving Repr

namespace Branches

def empty (start : Position) : Branches := ⟨start, [], start, []⟩

def push (branches : Branches) (part : Term) : Branches :=
  { branches with parts := part :: branches.parts }

/-- The branch in progress as a term that ends at a position. -/
def current (branches : Branches) (stop : Position) : Term :=
  .ofParts ⟨branches.start, stop⟩ branches.parts.reverse

/-- The next branch, between two positions around a bar. -/
def next (branches : Branches) (stop start : Position) : Branches :=
  { branches with finished := branches.current stop :: branches.finished, start, parts := [] }

/-- All branches as a term that ends at a position. -/
def toTerm (branches : Branches) (stop : Position) : Term :=
  .ofBranches ⟨branches.first, stop⟩ (branches.current stop :: branches.finished).reverse

/-- Repeats the last part of the branch in progress. The repetition is read by the
given reader, if there is a part that can be repeated. -/
def repeatLast (branches : Branches) (cursor : Cursor)
    (reader : Except Fault ((Nat × Option Nat) × Cursor)) :
    Except Fault (Branches × Cursor) :=
  match branches.parts with
  | [] => .error (.of cursor.here .repetitionMissing)
  | last :: before =>
      if last.isRepeatable then do
        let (bounds, behind) ← reader
        let repetition :=
          Term.repetition (behind.since last.span.start) bounds.1 bounds.2 last
        return ({ branches with parts := repetition :: before }, behind)
      else .error (.of cursor.here .repetitionMissing)

end Branches

/-- Reads a part that is neither a group nor a class. -/
def readSimple (cursor : Cursor) (character : Char) : Except Fault (Term × Cursor) :=
  if character = '\\' then readEscape cursor
  else if character = '.' then .ok (.dot cursor.next, cursor.step)
  else if character = '^' then .ok (.anchor cursor.next .lineStart, cursor.step)
  else if character = '$' then .ok (.anchor cursor.next .lineEnd, cursor.step)
  else .ok (.literal (plainLiteral cursor character), cursor.step)

/-- Reads a class, or a part without parts. -/
def readPart (cursor : Cursor) (character : Char) : Except Fault (Term × Cursor) :=
  if character = '[' then do
    let (bracket, behind) ← readBracket cursor
    return (.bracket bracket, behind)
  else readSimple cursor character

/-- The cursor with blanks read as the switches of a group say. -/
def Cursor.under (cursor : Cursor) (switches : Switches) : Cursor :=
  match switches.state? .ignoresBlanks with
  | some ignoresBlanks => { cursor with ignoresBlanks }
  | none => cursor

/-- Reads alternatives up to a closing parenthesis, which stays unread, or up to the
end. The allowance bounds the number of parts, read one behind or inside another. -/
def readBranches : Nat → Branches → Cursor → Except Fault (Term × Cursor)
  | 0, branches, cursor => .ok (branches.toTerm cursor.position, cursor)
  | allowance + 1, branches, given =>
      let cursor := given.skipBlanks
      match cursor.rest with
      | [] => .ok (branches.toTerm cursor.position, cursor)
      | ')' :: _ => .ok (branches.toTerm cursor.position, cursor)
      | '|' :: _ =>
          let behind := cursor.step
          readBranches allowance (branches.next cursor.position behind.position) behind
      | '(' :: _ => do
          let (introduction, behind) ← readIntroduction cursor
          match introduction with
          | .switches span switches =>
              readBranches allowance (branches.push (.switches span switches))
                (behind.under switches)
          | .group kind =>
              let inner :=
                match kind with
                | .capturing => behind
                | .plain switches => behind.under switches
              let (body, closing) ← readBranches allowance (.empty inner.position) inner
              if closing.atEnd then throw (.of cursor.next .groupUnclosed)
              let after := { closing.step with ignoresBlanks := cursor.ignoresBlanks }
              let span := after.since cursor.position
              readBranches allowance (branches.push (.group span kind body)) after
      | '\x7b' :: _ => do
          let (repeated, behind) ← branches.repeatLast cursor (readCounted cursor)
          readBranches allowance repeated behind
      | character :: _ =>
          match bounds? character with
          | some bounds => do
              let (repeated, behind) ←
                branches.repeatLast cursor (.ok (bounds, skipPreference cursor.step))
              readBranches allowance repeated behind
          | none => do
              let (part, behind) ← readPart cursor character
              readBranches allowance (branches.push part) behind

def Term.read (written : List Char) : Except Fault Term := do
  let (term, behind) ← readBranches (written.length + 1) (.empty .first) (.start written)
  if !behind.atEnd then throw (.of behind.next .groupUnopened)
  match term.tooDeep depthLimit with
  | some span => throw (.of span .tooDeep)
  | none => return term

end KernelForge.Pattern
