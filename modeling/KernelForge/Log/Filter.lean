import KernelForge.Fields
import KernelForge.Log
import KernelForge.Pattern
import KernelForge.Text.CharacterClass

/-!
Contract: which log records reach a reader.

Owns: directives, which let the records of a target through up to a level; the
filter that they make together with a message pattern; and reading a
specification of both.

A directive covers the targets that begin with its name. Of the directives that
cover a target the longest name decides, and a target that none covers is silent.
A specification replaces directives of the same name and adds the others.

Does not own: how a record that gets through is written; that is
`KernelForge.Log.Line`.
-/

namespace KernelForge.Log

inductive Ceiling where
  | off
  | upTo (level : LogLevel)
deriving DecidableEq, Repr

def Ceiling.admits : Ceiling → LogLevel → Bool
  | .off, _ => false
  | .upTo most, level => level.rank ≤ most.rank

/-- The ceiling with a name; letter case does not matter. -/
def Ceiling.ofName? (name : List Char) : Option Ceiling :=
  let names : List (String × Ceiling) :=
    [("off", .off), ("error", .upTo .error), ("warn", .upTo .warn), ("info", .upTo .info),
     ("debug", .upTo .debug), ("trace", .upTo .trace)]
  names.lookup (String.ofList (name.map Char.toLower))

/-- Lets the records of the targets that begin with a name through up to a level.
Without a name it covers every target. -/
structure Directive where
  name : Option String
  ceiling : Ceiling
deriving DecidableEq, Repr

namespace Directive

def covers (directive : Directive) (target : String) : Bool :=
  match directive.name with
  | none => true
  | some name => name.toList.isPrefixOf target.toList

def precision (directive : Directive) : Nat :=
  (directive.name.map String.length).getD 0

end Directive

structure Filter where
  directives : List Directive
  /-- What the message of a record must contain. -/
  pattern : Option Pattern
deriving Repr

namespace Filter

/-- The directive that decides about a target: the most precise of those that cover
it, and of equally precise ones the last. -/
def deciding (filter : Filter) (target : String) : Option Directive :=
  filter.directives.foldl
    (fun best directive =>
      if directive.covers target then
        match best with
        | none => some directive
        | some other => if other.precision ≤ directive.precision then some directive else best
      else best)
    none

def admits (filter : Filter) (record : LogRecord) : Bool :=
  let levelAdmitted := (filter.deciding record.source.target).any fun directive =>
    directive.ceiling.admits record.level
  levelAdmitted && filter.pattern.all fun pattern => pattern.occursIn record.message

/-- The filter with a directive in place of the one with its name, or behind the
others. -/
def insert (filter : Filter) (directive : Directive) : Filter :=
  if filter.directives.any fun other => other.name == directive.name then
    { filter with
      directives := filter.directives.map fun other =>
        if other.name = directive.name then directive else other }
  else { filter with directives := filter.directives ++ [directive] }

end Filter

/-- What a specification says: its directives, its pattern, and what is said about
the entries that make no sense. -/
structure Specification where
  directives : List Directive
  pattern : Option Pattern
  remarks : List String
deriving Repr

namespace Specification

def invalid (what : List Char) : String :=
  "invalid logging spec '" ++ String.ofList what ++ "'"

/-- Reads one entry: a level, a name, or a name and a level. A name alone, or with
an empty level, lets everything through. -/
def readEntry (entry : List Char) : Directive ⊕ String :=
  match fields (· == '=') entry with
  | [name] =>
      match Ceiling.ofName? name with
      | some ceiling => .inl ⟨none, ceiling⟩
      | none => .inl ⟨some (String.ofList name), .upTo .trace⟩
  | [name, level] =>
      if Text.trimmed level = [] then .inl ⟨some (String.ofList name), .upTo .trace⟩
      else
        match Ceiling.ofName? (Text.trimmed level) with
        | some ceiling => .inl ⟨some (String.ofList name), ceiling⟩
        | none => .inr (invalid (Text.trimmed level))
  | _ => .inr (invalid entry)

/-- Reads entries separated by commas; empty ones say nothing. -/
def readEntries (characters : List Char) : List (Directive ⊕ String) :=
  (((fields (· == ',') characters).map Text.trimmed).filter (· != [])).map readEntry

def invalidPattern (written : List Char) (refusal : Pattern.Refusal) : String :=
  "invalid regex filter - " ++ refusal.message written

/-- Reads a specification: entries, and perhaps a slash and a pattern behind them.
A second slash spoils all of it. -/
def read (text : String) : Specification :=
  let parts := fields (· == '/') text.toList
  let entries := readEntries (parts.headD [])
  let directives := entries.filterMap Sum.getLeft?
  let remarks := entries.filterMap Sum.getRight?
  match parts.tail with
  | [] => ⟨directives, none, remarks⟩
  | [written] =>
      match Pattern.read written with
      | .ok pattern => ⟨directives, some pattern, remarks⟩
      | .error refusal => ⟨directives, none, remarks ++ [invalidPattern written refusal]⟩
  | _ => ⟨[], none, [invalid text.toList ++ " (too many '/'s)"]⟩

def applyTo (specification : Specification) (filter : Filter) : Filter :=
  { specification.directives.foldl Filter.insert filter with pattern := specification.pattern }

end Specification

end KernelForge.Log
