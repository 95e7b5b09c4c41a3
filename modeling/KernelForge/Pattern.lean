import KernelForge.Pattern.Matcher
import KernelForge.Pattern.Meaning
import KernelForge.Pattern.Reader

/-!
Contract: patterns that a text must contain.

Owns: reading a pattern, why it is refused, and whether a text contains a match.

A pattern is refused for the first reason that applies: it is malformed, its machine
takes too much room, or it asks for words in all letters.

Does not own: the grammar, which is `KernelForge.Pattern.Reader`, and what it means,
which is `KernelForge.Pattern.Meaning`.
-/

namespace KernelForge

structure Pattern where
  matcher : Pattern.Matcher
deriving Repr

namespace Pattern

inductive Refusal where
  | malformed (fault : Fault)
  | tooLarge
  | foreignWords
deriving DecidableEq, Repr

/-- What is said about a text that is no pattern. -/
def Refusal.message (written : List Char) : Refusal → String
  | .malformed fault => fault.report written
  | .tooLarge =>
      "Compiled regex exceeds size limit of " ++ toString Expression.roomLimit ++ " bytes."
  | .foreignWords => "error building NFA"

def expression? (written : List Char) : Except Fault Expression := do
  let term ← Term.read written
  let (expression, _) ← term.meaning .initial
  return expression

def read (written : List Char) : Except Refusal Pattern :=
  match expression? written with
  | .error fault => .error (.malformed fault)
  | .ok expression =>
      if expression.isTooLarge Expression.forwards then .error .tooLarge
      else if expression.needsForeignWords then .error .foreignWords
      else if expression.isTooLarge Expression.backwards then .error .tooLarge
      else .ok ⟨.ofExpression expression⟩

def occursIn (pattern : Pattern) (text : String) : Bool :=
  pattern.matcher.occursIn text.toList

end Pattern

end KernelForge
