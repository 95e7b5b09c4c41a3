import KernelForge.Text.Quoted

/-!
Contract: Unix paths as byte strings.

Owns: joining a directory and a name, the last name of a path, the stem and the
extension of a name, and putting another extension on a path.

A path is a list of bytes, nothing is normalised in it, and only `/` separates.
The last name is looked for behind trailing separators and behind trailing `.`
components; `.` and `..` themselves are no names. The extension is what follows
the last dot of the name, unless that dot is the first byte of the name.

Does not own: what a path leads to; that is `KernelForge.FileTree`.
-/

namespace KernelForge

/-- A path: any bytes. -/
structure Path where
  bytes : Bytes
deriving DecidableEq, Repr

namespace Path

/-- The byte `/`. -/
def separator : UInt8 := 0x2F

/-- The byte `.`. -/
def dot : UInt8 := 0x2E

def ofText (text : String) : Path :=
  ⟨Text.Utf8.encode text⟩

/-- The path as a text for people: ill-formed bytes show as U+FFFD. -/
def display (path : Path) : String :=
  Text.Utf8.decodeLossy path.bytes

def quoted (path : Path) : String :=
  Text.quotedBytes path.bytes

def isAbsolute (path : Path) : Bool :=
  path.bytes.head? == some separator

def endsWithSeparator (path : Path) : Bool :=
  path.bytes.getLast? == some separator

/-- A path inside a directory. An absolute path stays as it is; otherwise one
separator is added unless the directory is empty or ends with one. -/
def join (directory path : Path) : Path :=
  if path.isAbsolute then path
  else if directory.bytes = [] ∨ directory.endsWithSeparator then
    ⟨directory.bytes ++ path.bytes⟩
  else ⟨directory.bytes ++ separator :: path.bytes⟩

/-- Removes, from a reversed path, what follows its last component: separators,
and `.` components that a separator precedes. -/
def dropTrailing : Bytes → Bytes
  | [] => []
  | [byte] => if byte = separator then [] else [byte]
  | first :: second :: rest =>
      if first = separator then dropTrailing (second :: rest)
      else if first = dot ∧ second = separator then dropTrailing (second :: rest)
      else first :: second :: rest

def isName (component : Bytes) : Bool :=
  component != [] && component != [dot] && component != [dot, dot]

/-- The path cut before its last name: what stands in front, and the name. None
if the last component is the root, `.` or `..`, or if there is none. -/
def splitLastName (path : Path) : Option (Bytes × Bytes) :=
  let reversed := dropTrailing path.bytes.reverse
  let name := (reversed.takeWhile (· ≠ separator)).reverse
  if isName name then some ((reversed.dropWhile (· ≠ separator)).reverse, name) else none

def fileName (path : Path) : Option Bytes :=
  path.splitLastName.map Prod.snd

/-- A name cut at its last dot: the stem, and the extension if there is one. A
dot that starts the name starts no extension. -/
def splitExtension (name : Bytes) : Bytes × Option Bytes :=
  let after := (name.reverse.takeWhile (· ≠ dot)).reverse
  match name.reverse.dropWhile (· ≠ dot) with
  | [] => (name, none)
  | _ :: before => if before = [] then (name, none) else (before.reverse, some after)

def stem (path : Path) : Option Bytes :=
  path.fileName.map fun name => (splitExtension name).1

def extension (path : Path) : Option Bytes :=
  path.fileName.bind fun name => (splitExtension name).2

/-- Replaces everything after the stem of the last name by a dot and the given
extension. A path without a last name stays as it is. -/
def replaceExtension (path : Path) (new : Bytes) : Path :=
  match path.splitLastName with
  | none => path
  | some (front, name) => ⟨front ++ (splitExtension name).1 ++ dot :: new⟩

/-- The path with another extension. As many bytes as the old extension has are
cut from the end first; what is left then has its extension replaced. -/
def withExtension (path : Path) (new : Bytes) : Path :=
  let old := (path.extension.getD []).length
  replaceExtension ⟨path.bytes.take (path.bytes.length - old)⟩ new

end Path

end KernelForge
