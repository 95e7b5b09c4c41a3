/-!
Contract: sets of characters.

Owns: sets made of ranges and of other sets, membership, and which ASCII characters
and whether any others are members.

Does not own: how a set is written.
-/

namespace KernelForge.Pattern

inductive CharacterSet where
  /-- The characters of ranges that include both ends. -/
  | ranges (members : List (Char × Char))
  | union (left right : CharacterSet)
  | intersection (left right : CharacterSet)
  | difference (left right : CharacterSet)
  | symmetricDifference (left right : CharacterSet)
  | complement (set : CharacterSet)
  /-- The characters of a set, and the ASCII letters that differ from one in case. -/
  | ignoringCase (set : CharacterSet)
deriving Repr

/-- An ASCII letter in the other case; any other character as it is. -/
def otherCase (character : Char) : Char :=
  if character.isLower then character.toUpper else character.toLower

namespace CharacterSet

def contains (character : Char) : CharacterSet → Bool
  | .ranges members => members.any fun range => range.1 ≤ character && character ≤ range.2
  | .union left right => left.contains character || right.contains character
  | .intersection left right => left.contains character && right.contains character
  | .difference left right => left.contains character && !right.contains character
  | .symmetricDifference left right => left.contains character != right.contains character
  | .complement set => !set.contains character
  | .ignoringCase set => set.contains character || set.contains (otherCase character)

def nothing : CharacterSet := .ranges []

def single (character : Char) : CharacterSet := .ranges [(character, character)]

def borders : CharacterSet → List Nat
  | .ranges members => members.flatMap fun range => [range.1.toNat, range.2.toNat + 1]
  | .union left right => left.borders ++ right.borders
  | .intersection left right => left.borders ++ right.borders
  | .difference left right => left.borders ++ right.borders
  | .symmetricDifference left right => left.borders ++ right.borders
  | .complement set => set.borders
  | .ignoringCase set => set.borders

/-- Some member is no ASCII character. Beyond ASCII it is enough to ask for the first
character and for those at the borders. -/
def reachesBeyondAscii (set : CharacterSet) : Bool :=
  (0x80 :: set.borders).any fun codePoint =>
    0x80 ≤ codePoint && codePoint.isValidChar && set.contains (Char.ofNat codePoint)

/-- The number of runs of neighbouring ASCII characters among the members. -/
def asciiRuns (set : CharacterSet) : Nat :=
  let member (codePoint : Nat) : Bool := set.contains (Char.ofNat codePoint)
  (List.range 0x80).countP fun codePoint =>
    member codePoint && (codePoint == 0 || !member (codePoint - 1))

def asciiCount (set : CharacterSet) : Nat :=
  (List.range 0x80).countP fun codePoint => set.contains (Char.ofNat codePoint)

end CharacterSet

end KernelForge.Pattern
