/-!
Contract: the values of a TOML document.

Owns: the value type with exact decimal numbers, dates and times, and the way in
which a table came to be, which decides whether it may still grow.

Does not own: how a document is read into values; that is
`KernelForge.Toml.Document`.
-/

namespace KernelForge.Toml

inductive Decimal where
  /-- The mantissa times ten to the exponent, with a sign. -/
  | finite (negative : Bool) (mantissa : Nat) (exponent : Int)
  | infinite (negative : Bool)
  | notANumber
deriving DecidableEq, Repr

structure Date where
  year : Nat
  month : Nat
  day : Nat
deriving DecidableEq, Repr

/-- A time of day with the digits of its fraction of a second. -/
structure TimeOfDay where
  hour : Nat
  minute : Nat
  second : Nat
  fraction : List Char
deriving DecidableEq, Repr

/-- A date, a time, or both, the latter perhaps with an offset in minutes. -/
inductive Moment where
  | date (date : Date)
  | time (time : TimeOfDay)
  | dateTime (date : Date) (time : TimeOfDay) (offset : Option Int)
deriving DecidableEq, Repr

inductive TableOrigin where
  /-- By a heading of its own, or as the root. -/
  | heading
  | passedThrough
  | dotted
  | braces
deriving DecidableEq, Repr

/-- A TOML value. An array of tables made by headings is kept apart from an array
in brackets, because only the former can grow. -/
inductive Value where
  | text (value : String)
  | integer (value : Int)
  | decimal (value : Decimal)
  | boolean (value : Bool)
  | moment (value : Moment)
  | array (items : List Value)
  | table (origin : TableOrigin) (entries : List (String × Value))
  | tables (elements : List (List (String × Value)))
deriving Repr

/-- The entries of a table, in the order in which they were added. -/
abbrev Entries := List (String × Value)

end KernelForge.Toml
