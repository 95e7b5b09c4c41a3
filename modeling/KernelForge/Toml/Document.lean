import KernelForge.Toml.Moment
import KernelForge.Toml.Table
import KernelForge.Toml.Text

/-!
Contract: reading a TOML 1.0 document.

Owns: keys, values, headings, comments and line ends, and the document as a whole.
A byte order mark may precede it.

Arrays and tables in braces nest at most seventy-nine levels, and a dotted key
has at most seventy-nine parts. Everything else that TOML 1.0 allows is read.

Does not own: what a document is read for.
-/

namespace KernelForge.Toml

/-- The most levels of arrays and tables in braces. -/
def nestingLimit : Nat := 79

/-- The most parts of a dotted key. -/
def keyPartLimit : Nat := 79

/-- A blank: a space or a tab. -/
def isBlank (character : Char) : Bool :=
  character = ' ' || character = '\t'

def skipBlanks (characters : List Char) : List Char :=
  characters.dropWhile isBlank

/-- What follows a line end; the end of the document ends a line, too. -/
def readLineEnd : List Char → Option (List Char)
  | [] => some []
  | '\n' :: rest => some rest
  | '\r' :: '\n' :: rest => some rest
  | _ => none

/-- What follows the rest of a line: blanks, perhaps a comment, and a line end. -/
def finishLine (characters : List Char) : Option (List Char) :=
  match skipBlanks characters with
  | '#' :: rest => readLineEnd (rest.dropWhile isTextChar)
  | rest => readLineEnd rest

/-- What follows blanks, line ends and comments inside an array. A comment needs a
line end behind it. -/
def skipFiller : Bool → List Char → Option (List Char)
  | _, [] => some []
  | _, '\n' :: rest => skipFiller false rest
  | _, '\r' :: '\n' :: rest => skipFiller false rest
  | true, character :: rest => if isTextChar character then skipFiller true rest else none
  | false, character :: rest =>
      if isBlank character then skipFiller false rest
      else if character = '#' then skipFiller true rest
      else if character = '\r' then none
      else some (character :: rest)

def isBareKeyChar (character : Char) : Bool :=
  character.isAlphanum || character = '_' || character = '-'

def readKeyPart : List Char → Option (String × List Char)
  | '"' :: rest => (readBasic .outside rest).map fun result => (String.ofList result.1, result.2)
  | '\'' :: rest => (readLiteral rest).map fun result => (String.ofList result.1, result.2)
  | characters =>
      match characters.takeWhile isBareKeyChar with
      | [] => none
      | name => some (String.ofList name, characters.dropWhile isBareKeyChar)

/-- Reads the parts of a key with dots and blanks between them, and the blanks
behind it. The allowance bounds the number of parts. -/
def readKeyParts : Nat → List Char → Option (List String × List Char)
  | 0, _ => none
  | allowance + 1, characters =>
      match readKeyPart (skipBlanks characters) with
      | none => none
      | some (part, rest) =>
          match skipBlanks rest with
          | '.' :: behind =>
              (readKeyParts allowance behind).map fun result => (part :: result.1, result.2)
          | behind => some ([part], behind)

/-- Reads a key as the path to its table and its last part. -/
def readKey (characters : List Char) : Option ((List String × String) × List Char) :=
  match readKeyParts keyPartLimit characters with
  | none => none
  | some (parts, rest) => parts.getLast?.map fun last => ((parts.dropLast, last), rest)

abbrev ValueReader := List Char → Option (Value × List Char)

def readScalar : ValueReader
  | 't' :: 'r' :: 'u' :: 'e' :: rest => some (.boolean true, rest)
  | 'f' :: 'a' :: 'l' :: 's' :: 'e' :: rest => some (.boolean false, rest)
  | '"' :: rest => (readText ('"' :: rest)).map fun result => (.text result.1, result.2)
  | '\'' :: rest => (readText ('\'' :: rest)).map fun result => (.text result.1, result.2)
  | characters =>
      match readMoment characters with
      | some (moment, rest) => some (.moment moment, rest)
      | none => readNumber characters

/-- Reads the items of an array behind its opening bracket. The allowance bounds
their number. -/
def readItems (readItem : ValueReader) : Nat → List Char → Option (List Value × List Char)
  | 0, _ => none
  | allowance + 1, characters =>
      match skipFiller false characters with
      | none => none
      | some (']' :: rest) => some ([], rest)
      | some start =>
          match readItem start with
          | none => none
          | some (item, rest) =>
              match skipFiller false rest with
              | some (',' :: behind) =>
                  (readItems readItem allowance behind).map fun result =>
                    (item :: result.1, result.2)
              | some (']' :: behind) => some ([item], behind)
              | _ => none

/-- Reads a key, an equals sign and a value, and the blanks in between. -/
def readPair? (readItem : ValueReader) (characters : List Char) :
    Option ((List String × String) × Value × List Char) :=
  match readKey characters with
  | some (key, '=' :: rest) =>
      (readItem (skipBlanks rest)).map fun result => (key, result.1, result.2)
  | _ => none

/-- Reads the pairs of a table in braces from its first key on. The allowance
bounds their number. -/
def readPairs (readItem : ValueReader) :
    Nat → Entries → List Char → Option (Entries × List Char)
  | 0, _, _ => none
  | allowance + 1, entries, characters =>
      match readPair? readItem characters with
      | none => none
      | some ((path, key), value, rest) =>
          match addDotted path key value .braces entries with
          | none => none
          | some extended =>
              match skipBlanks rest with
              | ',' :: behind => readPairs readItem allowance extended behind
              | '\x7d' :: behind => some (extended, behind)
              | _ => none

/-- Reads a value with at most the given number of levels. -/
def readValue : Nat → ValueReader
  | 0, '[' :: _ => none
  | 0, '\x7b' :: _ => none
  | levels + 1, '[' :: rest =>
      (readItems (readValue levels) (rest.length + 1) rest).map fun result =>
        (.array result.1, result.2)
  | levels + 1, '\x7b' :: rest =>
      match skipBlanks rest with
      | '\x7d' :: behind => some (.table .braces [], behind)
      | start =>
          (readPairs (readValue levels) (start.length + 1) [] start).map fun result =>
            (.table .braces result.1, result.2)
  | _, characters => readScalar characters

/-- A document being read: the root table, and the path of the last heading. -/
structure Reading where
  root : Entries
  heading : List String
deriving Repr

def Reading.start : Reading := ⟨[], []⟩

/-- Reads the heading of an element of an array of tables behind its brackets. -/
def readElementHeading (reading : Reading) (characters : List Char) :
    Option (Reading × List Char) :=
  match readKey characters with
  | some ((path, key), ']' :: ']' :: rest) =>
      (openElement path key reading.root).map fun root => (⟨root, path ++ [key]⟩, rest)
  | _ => none

def readTableHeading (reading : Reading) (characters : List Char) :
    Option (Reading × List Char) :=
  match readKey characters with
  | some ((path, key), ']' :: rest) =>
      (openTable path key reading.root).map fun root => (⟨root, path ++ [key]⟩, rest)
  | _ => none

def readEntry (reading : Reading) (characters : List Char) : Option (Reading × List Char) :=
  match readPair? (readValue nestingLimit) characters with
  | none => none
  | some ((path, key), value, rest) =>
      (addUnder reading.heading path key value reading.root).map fun root =>
        (⟨root, reading.heading⟩, rest)

/-- Reads what a line says; an empty line and a comment say nothing. -/
def readStatement (reading : Reading) : List Char → Option (Reading × List Char)
  | '[' :: '[' :: rest => readElementHeading reading rest
  | '[' :: rest => readTableHeading reading rest
  | '#' :: rest => some (reading, '#' :: rest)
  | '\n' :: rest => some (reading, '\n' :: rest)
  | '\r' :: rest => some (reading, '\r' :: rest)
  | characters => readEntry reading characters

/-- Reads lines. The allowance bounds their number. -/
def readLines : Nat → Reading → List Char → Option Reading
  | 0, _, _ => none
  | allowance + 1, reading, characters =>
      match skipBlanks characters with
      | [] => some reading
      | start =>
          match readStatement reading start with
          | none => none
          | some (next, rest) =>
              match finishLine rest with
              | none => none
              | some behind => readLines allowance next behind

def skipByteOrderMark : List Char → List Char
  | '\uFEFF' :: rest => rest
  | characters => characters

/-- The root table of a document, if the text is one. -/
def parse? (document : String) : Option Entries :=
  let characters := skipByteOrderMark document.toList
  (readLines (characters.length + 1) .start characters).map Reading.root

end KernelForge.Toml
