import KernelForge.Pattern.Fault

/-!
Contract: the terms that a written pattern consists of.

Owns: characters, character classes, conditions, flags, repetitions, groups,
sequences and alternatives as they are written, each with its place, and the limit on
how deep they stand inside one another.

Does not own: what a term matches; that is `KernelForge.Pattern.Meaning`.
-/

namespace KernelForge.Pattern

structure Literal where
  span : Span
  value : Char
  /-- It is written as two hexadecimal digits, which may also mean a byte. -/
  isByte : Bool
deriving DecidableEq, Repr

/-- The classes with names, as in `[:alpha:]`. -/
inductive NamedClass where
  | alnum
  | alpha
  | ascii
  | blank
  | cntrl
  | digit
  | graph
  | lower
  | print
  | punct
  | space
  | upper
  | word
  | xdigit
deriving DecidableEq, Repr

def NamedClass.ofName? (name : List Char) : Option NamedClass :=
  let names : List (String × NamedClass) :=
    [("alnum", .alnum), ("alpha", .alpha), ("ascii", .ascii), ("blank", .blank),
     ("cntrl", .cntrl), ("digit", .digit), ("graph", .graph), ("lower", .lower),
     ("print", .print), ("punct", .punct), ("space", .space), ("upper", .upper),
     ("word", .word), ("xdigit", .xdigit)]
  names.lookup (String.ofList name)

/-- The classes of one letter behind a backslash: digits, blanks, and what words
consist of. -/
inductive Shorthand where
  | digit
  | space
  | word
deriving DecidableEq, Repr

/-- A property of characters: a name, or a name with a value. -/
inductive Property where
  | named (name : List Char)
  | valued
deriving DecidableEq, Repr

inductive SetOperation where
  | intersection
  | difference
  | symmetricDifference
deriving DecidableEq, Repr

inductive ClassTerm where
  | empty (span : Span)
  | literal (character : Literal)
  | range (span : Span) (low high : Literal)
  | named (span : Span) (negated : Bool) (name : NamedClass)
  | shorthand (span : Span) (negated : Bool) (kind : Shorthand)
  | property (span : Span) (property : Property)
  | bracketed (span : Span) (negated : Bool) (inner : ClassTerm)
  | union (span : Span) (members : List ClassTerm)
  | operation (span : Span) (kind : SetOperation) (left right : ClassTerm)
deriving Repr

def ClassTerm.span : ClassTerm → Span
  | .empty span => span
  | .literal character => character.span
  | .range span _ _ => span
  | .named span _ _ => span
  | .shorthand span _ _ => span
  | .property span _ => span
  | .bracketed span _ _ => span
  | .union span _ => span
  | .operation span _ _ _ => span

inductive Anchor where
  | lineStart
  | lineEnd
  | textStart
  | textEnd
  | wordBoundary
  | noWordBoundary
  | wordStart
  | wordEnd
  | wordStartHalf
  | wordEndHalf
deriving DecidableEq, Repr

inductive Flag where
  | ignoresCase
  | multiLine
  | dotMatchesAll
  | swapsGreed
  | unicode
  | crlf
  | ignoresBlanks
deriving DecidableEq, Repr

def Flag.ofLetter? : Char → Option Flag
  | 'i' => some .ignoresCase
  | 'm' => some .multiLine
  | 's' => some .dotMatchesAll
  | 'U' => some .swapsGreed
  | 'u' => some .unicode
  | 'R' => some .crlf
  | 'x' => some .ignoresBlanks
  | _ => none

/-- Flags that are switched on, and flags that are switched off. -/
structure Switches where
  on : List Flag
  off : List Flag
deriving DecidableEq, Repr

def Switches.state? (switches : Switches) (flag : Flag) : Option Bool :=
  if flag ∈ switches.on then some true
  else if flag ∈ switches.off then some false
  else none

inductive GroupKind where
  | capturing
  /-- Only holds a term together, under switches. -/
  | plain (switches : Switches)
deriving DecidableEq, Repr

inductive Term where
  | empty (span : Span)
  | switches (span : Span) (switches : Switches)
  | literal (character : Literal)
  | dot (span : Span)
  | anchor (span : Span) (kind : Anchor)
  | shorthand (span : Span) (negated : Bool) (kind : Shorthand)
  | property (span : Span) (property : Property)
  | bracket (inner : ClassTerm)
  | repetition (span : Span) (least : Nat) (most : Option Nat) (body : Term)
  | group (span : Span) (kind : GroupKind) (body : Term)
  | sequence (span : Span) (parts : List Term)
  | alternatives (span : Span) (branches : List Term)
deriving Repr

def Term.span : Term → Span
  | .empty span => span
  | .switches span _ => span
  | .literal character => character.span
  | .dot span => span
  | .anchor span _ => span
  | .shorthand span _ _ => span
  | .property span _ => span
  | .bracket inner => inner.span
  | .repetition span _ _ _ => span
  | .group span _ _ => span
  | .sequence span _ => span
  | .alternatives span _ => span

def Term.ofParts (span : Span) : List Term → Term
  | [] => .empty span
  | [part] => part
  | parts => .sequence span parts

def Term.ofBranches (span : Span) : List Term → Term
  | [] => .empty span
  | [branch] => branch
  | branches => .alternatives span branches

/-! The first term that stands too deep, in the order in which terms begin. The
argument `room` says how many more terms may stand around one another. -/

mutual

def ClassTerm.tooDeep (room : Nat) : ClassTerm → Option Span
  | .bracketed span _ inner =>
      match room with
      | 0 => some span
      | less + 1 => inner.tooDeep less
  | .union span members =>
      match room with
      | 0 => some span
      | less + 1 => ClassTerm.anyTooDeep less members
  | .operation span _ left right =>
      match room with
      | 0 => some span
      | less + 1 => (left.tooDeep less).or (right.tooDeep less)
  | _ => none

/-- The first of several class terms, or of their parts, that stands too deep. -/
def ClassTerm.anyTooDeep (room : Nat) : List ClassTerm → Option Span
  | [] => none
  | member :: rest => (member.tooDeep room).or (ClassTerm.anyTooDeep room rest)

end

mutual

def Term.tooDeep (room : Nat) : Term → Option Span
  | .bracket inner => inner.tooDeep room
  | .repetition span _ _ body =>
      match room with
      | 0 => some span
      | less + 1 => body.tooDeep less
  | .group span _ body =>
      match room with
      | 0 => some span
      | less + 1 => body.tooDeep less
  | .sequence span parts =>
      match room with
      | 0 => some span
      | less + 1 => Term.anyTooDeep less parts
  | .alternatives span branches =>
      match room with
      | 0 => some span
      | less + 1 => Term.anyTooDeep less branches
  | _ => none

/-- The first of several terms, or of their parts, that stands too deep. -/
def Term.anyTooDeep (room : Nat) : List Term → Option Span
  | [] => none
  | part :: rest => (part.tooDeep room).or (Term.anyTooDeep room rest)

end

end KernelForge.Pattern
