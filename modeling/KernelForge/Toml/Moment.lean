import KernelForge.Toml.Number

/-!
Contract: reading TOML dates and times.

Owns: dates with the lengths of the months, times of day with an optional
fraction of a second, offsets, and their combinations.

Does not own: the instant that a moment denotes; nothing here computes with it.
-/

namespace KernelForge.Toml

/-- A fixed number of decimal digits, as a number. -/
def readFixed : Nat → Nat → List Char → Option (Nat × List Char)
  | 0, value, rest => some (value, rest)
  | _ + 1, _, [] => none
  | due + 1, value, digit :: rest =>
      if isDecimalDigit digit then readFixed due (10 * value + digitValue digit) rest else none

def readPair (low high : Nat) (characters : List Char) : Option (Nat × List Char) :=
  match readFixed 2 0 characters with
  | none => none
  | some (value, rest) => if low ≤ value ∧ value ≤ high then some (value, rest) else none

def readMark (mark : Char) : List Char → Option (List Char)
  | [] => none
  | character :: rest => if character = mark then some rest else none

def isLeapYear (year : Nat) : Bool :=
  year % 4 == 0 && (year % 100 != 0 || year % 400 == 0)

def daysInMonth (year month : Nat) : Nat :=
  if month = 2 then if isLeapYear year then 29 else 28
  else if month = 4 ∨ month = 6 ∨ month = 9 ∨ month = 11 then 30
  else 31

def readDate (characters : List Char) : Option (Date × List Char) := do
  let (year, rest) ← readFixed 4 0 characters
  let rest ← readMark '-' rest
  let (month, rest) ← readPair 1 12 rest
  let rest ← readMark '-' rest
  let (day, rest) ← readPair 1 (daysInMonth year month) rest
  some (⟨year, month, day⟩, rest)

/-- The digits of a fraction of a second, if a point and a digit follow. -/
def readFraction : List Char → List Char × List Char
  | '.' :: digit :: rest =>
      if isDecimalDigit digit then
        (digit :: rest.takeWhile isDecimalDigit, rest.dropWhile isDecimalDigit)
      else ([], '.' :: digit :: rest)
  | characters => ([], characters)

/-- Reads a time of day. A minute may have a sixty-first second. -/
def readTime (characters : List Char) : Option (TimeOfDay × List Char) := do
  let (hour, rest) ← readPair 0 23 characters
  let rest ← readMark ':' rest
  let (minute, rest) ← readPair 0 59 rest
  let rest ← readMark ':' rest
  let (second, rest) ← readPair 0 60 rest
  let fraction := readFraction rest
  some (⟨hour, minute, second, fraction.1⟩, fraction.2)

/-- The hours and minutes of an offset behind its sign. -/
def readOffsetMinutes (negative : Bool) (characters : List Char) :
    Option (Int × List Char) := do
  let (hour, rest) ← readPair 0 23 characters
  let rest ← readMark ':' rest
  let (minute, rest) ← readPair 0 59 rest
  let total : Int := 60 * hour + minute
  some (if negative then -total else total, rest)

/-- Reads an offset: the letter Z, or a signed number of hours and minutes. -/
def readOffset : List Char → Option (Int × List Char)
  | [] => none
  | mark :: rest =>
      if mark = 'Z' ∨ mark = 'z' then some (0, rest)
      else if mark = '+' then readOffsetMinutes false rest
      else if mark = '-' then readOffsetMinutes true rest
      else none

/-- The time that may follow a date behind the letter T or a space. -/
def readDelimitedTime : List Char → Option (TimeOfDay × List Char)
  | [] => none
  | mark :: rest =>
      if mark = 'T' ∨ mark = 't' ∨ mark = ' ' then readTime rest else none

/-- Reads a date, a date and a time with or without an offset, or a time. -/
def readMoment (characters : List Char) : Option (Moment × List Char) :=
  match readDate characters with
  | none => (readTime characters).map fun result => (.time result.1, result.2)
  | some (date, rest) =>
      match readDelimitedTime rest with
      | none => some (.date date, rest)
      | some (time, behind) =>
          match readOffset behind with
          | none => some (.dateTime date time none, behind)
          | some (offset, after) => some (.dateTime date time (some offset), after)

end KernelForge.Toml
