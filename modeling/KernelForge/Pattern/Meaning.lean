import KernelForge.Pattern.Expression
import KernelForge.Pattern.Term

/-!
Contract: the expression that a term means under flags.

Owns: the flags in force, the characters of named classes, and the expressions of
terms.

With the `unicode` flag, characters are told apart in full, but there are no tables for
their classes, properties and cases, so that whatever needs one is refused. Without it,
classes have ASCII members only, and one that is negated would also match parts of
characters, so that it is refused.

Does not own: which flags a term switches; that is part of the term.
-/

namespace KernelForge.Pattern

structure Mode where
  ignoresCase : Bool
  multiLine : Bool
  dotMatchesAll : Bool
  unicode : Bool
  crlf : Bool
deriving DecidableEq, Repr

namespace Mode

def initial : Mode := ⟨false, false, false, true, false⟩

def after (mode : Mode) (switches : Switches) : Mode where
  ignoresCase := (switches.state? .ignoresCase).getD mode.ignoresCase
  multiLine := (switches.state? .multiLine).getD mode.multiLine
  dotMatchesAll := (switches.state? .dotMatchesAll).getD mode.dotMatchesAll
  unicode := (switches.state? .unicode).getD mode.unicode
  crlf := (switches.state? .crlf).getD mode.crlf

end Mode

def NamedClass.members : NamedClass → List (Char × Char)
  | .alnum => [('0', '9'), ('A', 'Z'), ('a', 'z')]
  | .alpha => [('A', 'Z'), ('a', 'z')]
  | .ascii => [('\x00', '\x7f')]
  | .blank => [('\t', '\t'), (' ', ' ')]
  | .cntrl => [('\x00', '\x1f'), ('\x7f', '\x7f')]
  | .digit => [('0', '9')]
  | .graph => [('!', '~')]
  | .lower => [('a', 'z')]
  | .print => [(' ', '~')]
  | .punct => [('!', '/'), (':', '@'), ('[', '\x60'), ('\x7b', '~')]
  | .space => [('\t', '\r'), (' ', ' ')]
  | .upper => [('A', 'Z')]
  | .word => [('0', '9'), ('A', 'Z'), ('_', '_'), ('a', 'z')]
  | .xdigit => [('0', '9'), ('A', 'F'), ('a', 'f')]

/-- The named class with the ASCII characters of a shorthand. -/
def Shorthand.namedClass : Shorthand → NamedClass
  | .digit => .digit
  | .space => .space
  | .word => .word

/-- A set under the flags, where letter case can be ignored in ASCII only. -/
def Mode.fold (mode : Mode) (set : CharacterSet) : CharacterSet :=
  if mode.ignoresCase then .ignoringCase set else set

def Mode.checkCase (mode : Mode) (span : Span) : Except Fault Unit :=
  if mode.unicode && mode.ignoresCase then .error (.of span .letterCaseUnavailable) else .ok ()

/-- A set or what it leaves out. The latter has parts of characters where characters
are not told apart in full. -/
def Mode.complemented (mode : Mode) (span : Span) (negated : Bool) (set : CharacterSet) :
    Except Fault CharacterSet :=
  if !negated then .ok set
  else if mode.unicode then .ok (.complement set)
  else .error (.of span .illFormedMatch)

def Mode.shorthand (mode : Mode) (span : Span) (negated : Bool) (kind : Shorthand) :
    Except Fault CharacterSet :=
  if mode.unicode then .error (.of span .shorthandUnavailable)
  else mode.complemented span negated (.ranges kind.namedClass.members)

/-- A property name without case, blanks, hyphens, underscores, and an opening `is`. -/
def plainName (name : List Char) : List Char :=
  let lower := name.map Char.toLower
  let body := if ['i', 's'].isPrefixOf lower then lower.drop 2 else lower
  let plain := body.filter fun character =>
    character.toNat < 0x80 && character != ' ' && character != '_' && character != '-'
  if body.length < lower.length && plain == ['c'] then ['i', 's', 'c'] else plain

/-- Why a property is refused. Three names of values are told apart from the others,
because they are not taken for names of properties. -/
def Mode.propertyCause (mode : Mode) : Property → Cause
  | .valued => if mode.unicode then .propertyNotFound else .unicodeNotAllowed
  | .named name =>
      if !mode.unicode then .unicodeNotAllowed
      else if plainName name ∈ [['c', 'f'], ['s', 'c'], ['l', 'c']] then .propertyValueNotFound
      else .propertyNotFound

def Mode.member (mode : Mode) (literal : Literal) : Except Fault Char :=
  if mode.unicode || literal.value.toNat < 0x80 then .ok literal.value
  else if literal.isByte && literal.value.toNat < 0x100 then
    .error (.of literal.span .illFormedMatch)
  else .error (.of literal.span .unicodeNotAllowed)

def SetOperation.apply : SetOperation → CharacterSet → CharacterSet → CharacterSet
  | .intersection => .intersection
  | .difference => .difference
  | .symmetricDifference => .symmetricDifference

mutual

/-- A class term names characters itself, not through a term inside it that ignores
case on its own. -/
def ClassTerm.namesCharacters : ClassTerm → Bool
  | .literal _ => true
  | .range _ _ _ => true
  | .union _ members => ClassTerm.anyNamesCharacters members
  | _ => false

def ClassTerm.anyNamesCharacters : List ClassTerm → Bool
  | [] => false
  | member :: rest => member.namesCharacters || ClassTerm.anyNamesCharacters rest

end

/-- Letter case is ignored in a class term, unless there is nothing in which to ignore
it. -/
def Mode.foldTerm (mode : Mode) (span : Span) (term : ClassTerm) (set : CharacterSet) :
    Except Fault CharacterSet := do
  if term.namesCharacters then mode.checkCase span
  return mode.fold set

mutual

def ClassTerm.meaning (mode : Mode) : ClassTerm → Except Fault CharacterSet
  | .empty _ => .ok .nothing
  | .literal character => do
      let value ← mode.member character
      return .single value
  | .range _ low high => do
      let first ← mode.member low
      let last ← mode.member high
      return .ranges [(first, last)]
  | .named span negated name => do
      mode.checkCase span
      mode.complemented span negated (mode.fold (.ranges name.members))
  | .shorthand span negated kind => mode.shorthand span negated kind
  | .property span kind => .error (.of span (mode.propertyCause kind))
  | .bracketed span negated inner => do
      let set ← inner.meaning mode
      let folded ← mode.foldTerm span inner set
      mode.complemented span negated folded
  | .union _ members => ClassTerm.unionOf mode members
  | .operation _ kind left right => do
      let first ← left.meaning mode
      let second ← right.meaning mode
      let foldedSecond ← mode.foldTerm right.span right second
      let foldedFirst ← mode.foldTerm left.span left first
      return kind.apply foldedFirst foldedSecond

def ClassTerm.unionOf (mode : Mode) : List ClassTerm → Except Fault CharacterSet
  | [] => .ok .nothing
  | member :: rest => do
      let first ← member.meaning mode
      let others ← ClassTerm.unionOf mode rest
      return .union first others

end

def Mode.literal (mode : Mode) (literal : Literal) : Except Fault Expression := do
  mode.checkCase literal.span
  if !mode.unicode && literal.isByte && 0x80 ≤ literal.value.toNat then
    throw (.of literal.span .illFormedMatch)
  if mode.ignoresCase && literal.value.isAlpha then
    return .one (.ignoringCase (.single literal.value))
  return .character literal.value

def Mode.dot (mode : Mode) (span : Span) : Except Fault Expression :=
  if !mode.unicode then .error (.of span .illFormedMatch)
  else if mode.dotMatchesAll then .ok (.one (.complement .nothing))
  else if mode.crlf then .ok (.one (.complement (.ranges [('\n', '\n'), ('\r', '\r')])))
  else .ok (.one (.complement (.single '\n')))

def Mode.word (mode : Mode) (edge : WordEdge) : Condition :=
  if mode.unicode then .foreignWord else .word edge

def Mode.condition (mode : Mode) : Anchor → Condition
  | .lineStart =>
      if !mode.multiLine then .textStart else if mode.crlf then .lineStartCrlf else .lineStart
  | .lineEnd =>
      if !mode.multiLine then .textEnd else if mode.crlf then .lineEndCrlf else .lineEnd
  | .textStart => .textStart
  | .textEnd => .textEnd
  | .wordBoundary => mode.word .boundary
  | .noWordBoundary => mode.word .noBoundary
  | .wordStart => mode.word .start
  | .wordEnd => mode.word .stop
  | .wordStartHalf => mode.word .startHalf
  | .wordEndHalf => mode.word .stopHalf

mutual

/-- The expression of a term, and the flags behind it. -/
def Term.meaning (mode : Mode) : Term → Except Fault (Expression × Mode)
  | .empty _ => .ok (.empty, mode)
  | .switches _ given => .ok (.empty, mode.after given)
  | .literal character => do
      let expression ← mode.literal character
      return (expression, mode)
  | .dot span => do
      let expression ← mode.dot span
      return (expression, mode)
  | .anchor _ kind => .ok (.condition (mode.condition kind), mode)
  | .shorthand span negated kind => do
      let set ← mode.shorthand span negated kind
      return (.one set, mode)
  | .property span kind => .error (.of span (mode.propertyCause kind))
  | .bracket inner => do
      let set ← inner.meaning mode
      return (.one set, mode)
  | .repetition _ least most body => do
      let (expression, _) ← body.meaning mode
      return (.ofRepetition expression least most, mode)
  | .group _ .capturing body => do
      let (expression, _) ← body.meaning mode
      return (.capture expression, mode)
  | .group _ (.plain given) body => do
      let (expression, _) ← body.meaning (mode.after given)
      return (expression, mode)
  | .sequence _ parts => do
      let (expressions, behind) ← Term.meanings mode parts
      return (.ofParts expressions, behind)
  | .alternatives _ branches => do
      let (expressions, behind) ← Term.meanings mode branches
      return (.ofBranches expressions, behind)

/-- The expressions of terms one behind another, and the flags behind them. -/
def Term.meanings (mode : Mode) : List Term → Except Fault (List Expression × Mode)
  | [] => .ok ([], mode)
  | part :: rest => do
      let (first, between) ← part.meaning mode
      let (others, behind) ← Term.meanings between rest
      return (first :: others, behind)

end

end KernelForge.Pattern
