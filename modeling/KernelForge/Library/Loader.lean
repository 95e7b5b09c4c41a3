import KernelForge.Library

/-!
Contract: a loader that finds shared libraries in a tree of files.

Owns: the search for a bare name along a search path, the opening of any other
path as it is, and recognising a library by the content of its file.

The first directory of the search path that holds the name decides, whatever it
holds under that name, unless that is a library for another kind of machine, which
is passed over. A relative directory that cannot even be reached, for another reason
than that it is missing, ends the search without a result. A path with a zero byte,
a path that leads to no file, and a file that is no library are refused alike.

Does not own: what a library contains.
-/

namespace KernelForge

structure LibrarySearch where
  /-- The directories in which a bare name is looked for. -/
  directories : List Path
  recognise : Bytes → Option LibraryImage
  refusal : String

namespace LibrarySearch

/-- The byte between the directories of a search path variable: `:` or `;`. -/
def isListSeparator (byte : UInt8) : Bool :=
  byte = 0x3A || byte = 0x3B

/-- The directories of a search path variable. An empty value names none; an empty
directory in a longer value is the working directory. -/
def directoriesOf (value : Bytes) : List Path :=
  if value = [] then []
  else
    (fields isListSeparator value).map fun directory =>
      ⟨if directory = [] then [Path.dot] else directory⟩

inductive Candidate where
  /-- Nothing; the next directory is asked. -/
  | passedOver
  | refused
  /-- A file, which decides. -/
  | found (content : Bytes)
deriving DecidableEq, Repr

def headerLength : Nat := 64

def signature : Bytes := [0x7F, 0x45, 0x4C, 0x46]

/-- What follows the signature for a word size of 64 bits: the word size, the byte
order, the version, either of two systems, and zeros up to the sixteenth byte. -/
def isNativeFormat (format : Bytes) : Bool :=
  let zeros := List.replicate 8 0
  format == [2, 1, 1, 0] ++ zeros || format == [2, 1, 1, 3] ++ zeros

/-- A library header for another word size, or a sound one for another processor. -/
def isForeign (content : Bytes) : Bool :=
  let format := (content.drop 4).take 12
  let version := (content.drop 20).take 4
  let processor := (content.drop 18).take 2
  headerLength ≤ content.length && content.take 4 == signature &&
    (format.head? != some 2 ||
      (isNativeFormat format && version == [1, 0, 0, 0] && processor != [0x3E, 0]))

def candidate (tree : FileTree) (path : Path) : Candidate :=
  match tree.locate path with
  | .error .notFound => .passedOver
  | .error _ => if path.isAbsolute then .passedOver else .refused
  | .ok location =>
      match tree.lookup location with
      | none => .passedOver
      | some (.file content) => if isForeign content then .passedOver else .found content
      | some _ => .refused

def firstDecisive : List Candidate → Option Bytes
  | [] => none
  | .passedOver :: rest => firstDecisive rest
  | .refused :: _ => none
  | .found content :: _ => some content

/-- The content of the file that is opened: of a path with a separator in it as it
is, of a bare name along the search path. -/
def opened (search : LibrarySearch) (tree : FileTree) (path : Path) : Option Bytes :=
  if path.bytes.contains Path.separator then (tree.read path).toOption
  else
    firstDecisive (search.directories.map fun directory =>
      candidate tree (Path.join directory path))

def loader (search : LibrarySearch) (tree : FileTree) : Loader := fun path =>
  match (search.opened tree path).bind search.recognise with
  | none => .error search.refusal
  | some found => .ok found

end LibrarySearch

end KernelForge
