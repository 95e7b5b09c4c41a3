import KernelForge.Pattern.Escape

/-!
Contract: reading a character class in brackets.

Owns: the opening of a class, its members, ranges, named classes, classes inside
classes, and operations on what stands to their left and to their right.

Hyphens behind the opening are members, and so is a closing bracket that comes first.
The operations are read from the left, all with the same weight. What looks like a
named class but is none is a class inside the class.

Does not own: which characters a class has; that is `KernelForge.Pattern.Meaning`.
-/

namespace KernelForge.Pattern

/-- The opening of a class: its place, and whether a circumflex negates the class. -/
structure Opening where
  span : Span
  negated : Bool
deriving DecidableEq, Repr

structure Members where
  /-- What stands to the left of the last operation, and the operation. -/
  left : Option (ClassTerm × SetOperation)
  start : Position
  /-- The members behind the last operation, last first. -/
  recent : List ClassTerm
deriving Repr

namespace Members

def empty (start : Position) : Members := ⟨none, start, []⟩

def push (members : Members) (member : ClassTerm) : Members :=
  { members with recent := member :: members.recent }

def right (members : Members) : ClassTerm :=
  match members.recent.reverse, members.recent.head? with
  | [], _ => .empty ⟨members.start, members.start⟩
  | [member], _ => member
  | first :: rest, last =>
      .union ⟨first.span.start, (last.getD first).span.stop⟩ (first :: rest)

def toTerm (members : Members) : ClassTerm :=
  match members.left with
  | none => members.right
  | some (left, kind) =>
      .operation ⟨left.span.start, members.right.span.stop⟩ kind left members.right

/-- An operation, whose right side starts at a position. -/
def operate (members : Members) (kind : SetOperation) (start : Position) : Members :=
  ⟨some (members.toTerm, kind), start, []⟩

end Members

def plainLiteral (cursor : Cursor) (character : Char) : Literal :=
  ⟨cursor.next, character, false⟩

/-- Reads the hyphens that open a class. The allowance bounds their number. -/
def readHyphens (start : Position) : Nat → Members → Cursor →
    Except Fault (Members × Cursor)
  | 0, members, cursor => .ok (members, cursor)
  | allowance + 1, members, cursor =>
      if cursor.sees '-' then
        if cursor.stepOver.atEnd then .error (.of ⟨start, start⟩ .classUnclosed)
        else
          readHyphens start allowance (members.push (.literal (plainLiteral cursor '-')))
            cursor.stepOver
      else .ok (members, cursor)

/-- The cursor behind the next character, unless the class ends in front of that. -/
def stepInClass (start : Position) (cursor : Cursor) : Except Fault Cursor :=
  let behind := cursor.stepOver
  if behind.atEnd then .error (.of (behind.since start) .classUnclosed) else .ok behind

/-- Reads the opening of a class with the members that belong to it, from the bracket
on. -/
def readOpening (cursor : Cursor) : Except Fault (Opening × Members × Cursor) := do
  let start := cursor.position
  let inner ← stepInClass start cursor
  let negated := inner.sees '^'
  let body ← if negated then stepInClass start inner else pure inner
  let (members, behind) ← readHyphens start body.rest.length (.empty body.position) body
  if members.recent.isEmpty && behind.sees ']' then
    let last ← stepInClass start behind
    let member := ClassTerm.literal (plainLiteral behind ']')
    return (⟨last.since start, negated⟩, members.push member, last)
  return (⟨behind.since start, negated⟩, members, behind)

/-- The name between a colon in front and one behind, and whether a circumflex stands
in front of it. -/
def enclosedName (characters : List Char) : Bool × List Char :=
  let negated := characters.head? == some '^'
  (negated, (if negated then characters.drop 1 else characters).takeWhile (· ≠ ':'))

/-- Reads a named class, from the bracket on, if one stands there. -/
def readNamedClass? (cursor : Cursor) : Option (ClassTerm × Cursor) :=
  match cursor.rest with
  | '[' :: ':' :: inner => do
      let (negated, name) := enclosedName inner
      let length := name.length + (if negated then 1 else 0)
      let kind ← NamedClass.ofName? name
      if [':', ']'].isPrefixOf (inner.drop length) then
        let behind := cursor.steps (length + 4)
        some (.named (behind.since cursor.position) negated kind, behind)
      else none
  | _ => none

/-- Reads one end of a range, or a member without a range. -/
def readMember (cursor : Cursor) (character : Char) : Except Fault (Term × Cursor) :=
  if character = '\\' then readEscape cursor
  else .ok (.literal (plainLiteral cursor character), cursor.step)

def memberTerm : Term → Except Fault ClassTerm
  | .literal character => .ok (.literal character)
  | .shorthand span negated kind => .ok (.shorthand span negated kind)
  | .property span property => .ok (.property span property)
  | other => .error (.of other.span .classEscapeInvalid)

def rangeEnd : Term → Except Fault Literal
  | .literal character => .ok character
  | other => .error (.of other.span .classRangeLiteral)

/-- Reads the upper end of a range, behind the hyphen. -/
def readRange (opening : Opening) (low : Term) (cursor : Cursor) :
    Except Fault (ClassTerm × Cursor) :=
  match cursor.rest with
  | [] => .error (.of opening.span .classUnclosed)
  | character :: _ => do
      let (high, behind) ← readMember cursor character
      let span : Span := ⟨low.span.start, high.span.stop⟩
      let first ← rangeEnd low
      let last ← rangeEnd high
      if last.value < first.value then throw (.of span .classRangeInvalid)
      return (.range span first last, behind)

/-- Reads a member or a range. A hyphen in front of the closing bracket or of another
hyphen makes no range. -/
def readMemberOrRange (opening : Opening) (cursor : Cursor) (character : Char) :
    Except Fault (ClassTerm × Cursor) := do
  let (member, following) ← readMember cursor character
  let behind := following.skipBlanks
  if behind.atEnd then throw (.of opening.span .classUnclosed)
  if behind.sees '-' && behind.second != some ']' && behind.second != some '-' then
    readRange opening member behind.stepOver
  else
    let term ← memberTerm member
    return (term, behind)

def setOperation? (first : Char) (second : Option Char) : Option SetOperation :=
  if second = some first then
    match first with
    | '&' => some .intersection
    | '-' => some .difference
    | '~' => some .symmetricDifference
    | _ => none
  else none

/-- Reads the members of a class up to its closing bracket, and that. The allowance
bounds their number, read one behind or inside another. -/
def readMembers : Nat → Opening → Members → Cursor → Except Fault (ClassTerm × Cursor)
  | 0, opening, _, _ => .error (.of opening.span .classUnclosed)
  | allowance + 1, opening, members, given =>
      let cursor := given.skipBlanks
      match cursor.rest with
      | [] => .error (.of opening.span .classUnclosed)
      | ']' :: _ =>
          let span := cursor.step.since opening.span.start
          .ok (.bracketed span opening.negated members.toTerm, cursor.step)
      | '[' :: _ =>
          match readNamedClass? cursor with
          | some (named, behind) => readMembers allowance opening (members.push named) behind
          | none => do
              let (inner, first, body) ← readOpening cursor
              let (nested, behind) ← readMembers allowance inner first body
              readMembers allowance opening (members.push nested) behind
      | character :: rest =>
          match setOperation? character rest.head? with
          | some kind =>
              let behind := cursor.step.step
              readMembers allowance opening (members.operate kind behind.position) behind
          | none => do
              let (member, behind) ← readMemberOrRange opening cursor character
              readMembers allowance opening (members.push member) behind

/-- Reads a class, from its opening bracket on. -/
def readBracket (cursor : Cursor) : Except Fault (ClassTerm × Cursor) := do
  let (opening, members, body) ← readOpening cursor
  readMembers (body.rest.length + 1) opening members body

end KernelForge.Pattern
