import KernelForge.Toml.Value

/-!
Contract: reading TOML numbers.

Owns: runs of digits with underscores between them, integers in four radices
within sixty-four bits, and floating point numbers.

A decimal integer has no leading zero. A sign goes with decimal integers and
floating point numbers only. A floating point number above the largest finite
double is refused unless it is negative.

Does not own: dates and times, which start like numbers; they are
`KernelForge.Toml.Moment`.
-/

namespace KernelForge.Toml

def isDecimalDigit (character : Char) : Bool :=
  '0' ≤ character && character ≤ '9'

/-- A digit of a radix of at most sixteen. -/
def digitIn (radix : Nat) (character : Char) : Bool :=
  let value :=
    if isDecimalDigit character then character.toNat - 0x30
    else if 'a' ≤ character ∧ character ≤ 'f' then character.toNat - 0x57
    else if 'A' ≤ character ∧ character ≤ 'F' then character.toNat - 0x37
    else 16
  value < radix

/-- The value of a digit of a radix of at most sixteen. -/
def digitValue (character : Char) : Nat :=
  if isDecimalDigit character then character.toNat - 0x30
  else if 'a' ≤ character then character.toNat - 0x57
  else character.toNat - 0x37

def digitsValue (radix : Nat) (digits : List Char) : Nat :=
  digits.foldl (fun value digit => radix * value + digitValue digit) 0

/-- Puts a digit in front of the digits that were read. -/
def prependDigit (digit : Char) (reading : Option (List Char × List Char)) :
    Option (List Char × List Char) :=
  reading.map fun result => (digit :: result.1, result.2)

/-- The digits behind a digit; an underscore must stand between two digits. -/
def readMoreDigits (radix : Nat) : List Char → Option (List Char × List Char)
  | [] => some ([], [])
  | ['_'] => none
  | '_' :: digit :: rest =>
      if digitIn radix digit then prependDigit digit (readMoreDigits radix rest) else none
  | digit :: rest =>
      if digitIn radix digit then prependDigit digit (readMoreDigits radix rest)
      else some ([], digit :: rest)

def readDigits (radix : Nat) : List Char → Option (List Char × List Char)
  | [] => none
  | digit :: rest =>
      if digitIn radix digit then prependDigit digit (readMoreDigits radix rest) else none

/-- The digits of a decimal integer: a zero alone, or digits after another one. -/
def readWhole : List Char → Option (List Char × List Char)
  | [] => none
  | digit :: rest =>
      if digit = '0' then some (['0'], rest)
      else if isDecimalDigit digit then prependDigit digit (readMoreDigits 10 rest)
      else none

/-- An optional sign: whether it is negative, and what follows. -/
def readSign : List Char → Bool × List Char
  | '-' :: rest => (true, rest)
  | '+' :: rest => (false, rest)
  | characters => (false, characters)

/-- The integer with a sign and a magnitude, if sixty-four bits hold it. -/
def boundedInteger (negative : Bool) (magnitude : Nat) : Option Int :=
  if negative then if magnitude ≤ Nat.pow 2 63 then some (-magnitude) else none
  else if magnitude < Nat.pow 2 63 then some magnitude else none

/-- The exponent part, if there is one: its value, and what follows. -/
def readExponent : List Char → Option (Int × List Char)
  | [] => some (0, [])
  | mark :: rest =>
      if mark = 'e' ∨ mark = 'E' then
        let sign := readSign rest
        (readDigits 10 sign.2).map fun result =>
          let magnitude : Int := digitsValue 10 result.1
          (if sign.1 then -magnitude else magnitude, result.2)
      else some (0, mark :: rest)

/-- The smallest number that rounds to infinity as a double. -/
def overflowBound : Nat := Nat.pow 2 1024 - Nat.pow 2 970

/-- A mantissa times a power of ten rounds to infinity as a double. Exponents
that settle the matter by the number of digits alone are not raised to. -/
def overflows (mantissa : Nat) (exponent : Int) : Bool :=
  let digits : Int := (Nat.toDigits 10 mantissa).length
  if mantissa = 0 then false
  else if 310 < digits + exponent then true
  else if digits + exponent < 308 then false
  else if 0 ≤ exponent then overflowBound ≤ mantissa * Nat.pow 10 exponent.toNat
  else overflowBound * Nat.pow 10 (-exponent).toNat ≤ mantissa

/-- The floating point number with a sign, digits before and after the point, and
an exponent. -/
def boundedDecimal (negative : Bool) (whole fraction : List Char) (exponent : Int) :
    Option Decimal :=
  let mantissa := digitsValue 10 (whole ++ fraction)
  let scale := exponent - fraction.length
  if !negative && overflows mantissa scale then none
  else some (.finite negative mantissa scale)

/-- What stands behind a sign: infinity, not a number, or decimal digits that a
point or an exponent makes a floating point number. -/
def readSigned (negative : Bool) : List Char → Option (Value × List Char)
  | 'i' :: 'n' :: 'f' :: rest => some (.decimal (.infinite negative), rest)
  | 'n' :: 'a' :: 'n' :: rest => some (.decimal .notANumber, rest)
  | characters =>
      match readWhole characters with
      | none => none
      | some (whole, '.' :: rest) =>
          match readDigits 10 rest with
          | none => none
          | some (fraction, behind) =>
              match readExponent behind with
              | none => none
              | some (exponent, after) =>
                  (boundedDecimal negative whole fraction exponent).map fun decimal =>
                    (.decimal decimal, after)
      | some (whole, rest) =>
          if rest.head? = some 'e' ∨ rest.head? = some 'E' then
            match readExponent rest with
            | none => none
            | some (exponent, after) =>
                (boundedDecimal negative whole [] exponent).map fun decimal =>
                  (.decimal decimal, after)
          else
            (boundedInteger negative (digitsValue 10 whole)).map fun value =>
              (.integer value, rest)

/-- An integer in a radix that its first two characters announced. -/
def readRadix (radix : Nat) (characters : List Char) : Option (Value × List Char) :=
  match readDigits radix characters with
  | none => none
  | some (digits, rest) =>
      (boundedInteger false (digitsValue radix digits)).map fun value => (.integer value, rest)

def readNumber : List Char → Option (Value × List Char)
  | '0' :: 'x' :: rest => readRadix 16 rest
  | '0' :: 'o' :: rest => readRadix 8 rest
  | '0' :: 'b' :: rest => readRadix 2 rest
  | characters =>
      let sign := readSign characters
      readSigned sign.1 sign.2

end KernelForge.Toml
