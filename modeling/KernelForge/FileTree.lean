import KernelForge.Fields
import KernelForge.Path

/-!
Contract: a tree of files as a map from locations to nodes, and how paths are
followed, files read and files written in it.

Owns: the nodes, resolution of a path against the working directory, reading a
file as bytes or as text, creating and truncating a file, writing to it, and the
reason why each of these is refused.

A location is the list of names from the root down. There are no links, so `..`
removes the last name. Every step of a path must start from a directory, so the
first failing step decides the refusal. A trailing separator asks for a
directory.

A write may break off. Where it does is up to the storage and is said with the
write; the bytes in front of that place are kept. A path may also lead to one of
the two streams that the process itself writes to. Such a stream is a pipe or a
terminal and no file: it takes bytes behind those that it took before. What is
read, from a file or from a terminal, is not used up.

Does not own: permissions, which never refuse here.
-/

namespace KernelForge

abbrev Location := List Bytes

/-- The streams that a process writes to. -/
inductive OutputStream where
  | output
  | errors
deriving DecidableEq, Repr

/-- Bytes for each of the two streams. -/
structure Streams where
  output : Bytes
  errors : Bytes
deriving DecidableEq, Repr

namespace Streams

def nothing : Streams := ⟨[], []⟩

def only (stream : OutputStream) (data : Bytes) : Streams :=
  match stream with
  | .output => ⟨data, []⟩
  | .errors => ⟨[], data⟩

/-- The bytes for each stream, one after the other. -/
instance : Append Streams :=
  ⟨fun first second => ⟨first.output ++ second.output, first.errors ++ second.errors⟩⟩

@[simp] theorem output_append (first second : Streams) :
    (first ++ second).output = first.output ++ second.output := rfl

end Streams

/-- Special files: one that swallows what is written and reads as empty, one that
reads without end and has no space for any byte, and a stream of the process, from
which comes what is typed at its other end. -/
inductive Device where
  | null
  | full
  | stream (which : OutputStream) (typed : Bytes)
deriving DecidableEq, Repr

inductive Node where
  | file (content : Bytes)
  | directory
  | device (kind : Device)
deriving DecidableEq, Repr

inductive FileError where
  | notFound
  | notDirectory
  | isDirectory
  | nameTooLong
  | noSpace
  | noMemory
  | zeroInPath
  | notText
  /-- Any other refusal by the storage, in the wording of the system. -/
  | storage (reason : String)
deriving DecidableEq, Repr

/-- The system's wording, with the system's number where it has one. -/
def FileError.message : FileError → String
  | .notFound => "No such file or directory (os error 2)"
  | .notDirectory => "Not a directory (os error 20)"
  | .isDirectory => "Is a directory (os error 21)"
  | .nameTooLong => "File name too long (os error 36)"
  | .noSpace => "No space left on device (os error 28)"
  | .noMemory => "Cannot allocate memory (os error 12)"
  | .zeroInPath => "file name contained an unexpected NUL byte"
  | .notText => "stream did not contain valid UTF-8"
  | .storage reason => reason

/-- Where a write breaks off: how many bytes are taken, and why no more. -/
structure Stop where
  taken : Nat
  reason : FileError
deriving DecidableEq, Repr

/-- A tree of files and the directory in which relative paths start. -/
structure FileTree where
  nodes : List (Location × Node)
  workingDirectory : Location
deriving DecidableEq, Repr

namespace FileTree

/-- The longest name, in bytes. -/
def nameLimit : Nat := 255

/-- The longest path, in bytes. -/
def pathLimit : Nat := 4095

/-- What a location holds. The root is always a directory. -/
def lookup (tree : FileTree) (location : Location) : Option Node :=
  if location = [] then some .directory else tree.nodes.lookup location

/-- The tree with another node at a location; every other location is kept. -/
def put (tree : FileTree) (location : Location) (node : Node) : FileTree :=
  { tree with nodes := (location, node) :: tree.nodes.filter fun entry => entry.1 != location }

/-- The steps of a path: its components without the empty ones. -/
def steps (path : Path) : List Bytes :=
  (fields (· == Path.separator) path.bytes).filter (· != [])

def enter (tree : FileTree) (location : Location) (step : Bytes) :
    Except FileError Location :=
  match tree.lookup location with
  | none => .error .notFound
  | some .directory =>
      if step = [Path.dot] then .ok location
      else if step = [Path.dot, Path.dot] then .ok location.dropLast
      else if nameLimit < step.length then .error .nameTooLong
      else .ok (location ++ [step])
  | some _ => .error .notDirectory

def follow (tree : FileTree) : Location → List Bytes → Except FileError Location
  | location, [] => .ok location
  | location, step :: rest =>
      match tree.enter location step with
      | .error refusal => .error refusal
      | .ok next => follow tree next rest

def origin (tree : FileTree) (path : Path) : Location :=
  if path.isAbsolute then [] else tree.workingDirectory

def refuses (path : Path) : Option FileError :=
  if path.bytes.contains 0 then some .zeroInPath
  else if path.bytes = [] then some .notFound
  else if pathLimit < path.bytes.length then some .nameTooLong
  else none

/-- The location that a path names, existing or not; a trailing separator adds
the step `.`, which asks for a directory. -/
def locate (tree : FileTree) (path : Path) : Except FileError Location :=
  match refuses path with
  | some refusal => .error refusal
  | none =>
      let marker := if path.endsWithSeparator then [[Path.dot]] else []
      tree.follow (tree.origin path) (steps path ++ marker)

def read (tree : FileTree) (path : Path) : Except FileError Bytes :=
  match tree.locate path with
  | .error refusal => .error refusal
  | .ok location =>
      match tree.lookup location with
      | none => .error .notFound
      | some (.file content) => .ok content
      | some .directory => .error .isDirectory
      | some (.device .null) => .ok []
      | some (.device .full) => .error .noMemory
      | some (.device (.stream _ typed)) => .ok typed

def readText (tree : FileTree) (path : Path) : Except FileError String :=
  match tree.read path with
  | .error refusal => .error refusal
  | .ok content =>
      match Text.Utf8.decode? content with
      | none => .error .notText
      | some text => .ok text

inductive Handle where
  | file (location : Location)
  | device (kind : Device)
deriving DecidableEq, Repr

def Handle.device? : Handle → Option Device
  | .file _ => none
  | .device kind => some kind

/-- Opens a location for writing: a missing file is made, an existing one is
emptied, a directory is refused. -/
def openLocation (tree : FileTree) (location : Location) :
    Except FileError (FileTree × Handle) :=
  match tree.lookup location with
  | some .directory => .error .isDirectory
  | some (.device kind) => .ok (tree, .device kind)
  | _ => .ok (tree.put location (.file []), .file location)

/-- The steps of a path before the last one, and the last one if it names an entry of
a directory: it is neither `.` nor `..`, and no separator follows it. -/
def splitLast (path : Path) : List Bytes × Option Bytes :=
  match (steps path).reverse with
  | [] => ([], none)
  | last :: before =>
      (before.reverse,
        if path.endsWithSeparator || !Path.isName last then none else some last)

/-- Opens the file that a path names for writing. Once the steps before the last are
followed to a directory, a last step that names no entry is refused as a directory,
whatever it is. -/
def create (tree : FileTree) (path : Path) : Except FileError (FileTree × Handle) :=
  match refuses path with
  | some refusal => .error refusal
  | none =>
      let (before, last) := splitLast path
      match tree.follow (tree.origin path) (before ++ [[Path.dot]]) with
      | .error refusal => .error refusal
      | .ok parent =>
          match last with
          | none => .error .isDirectory
          | some name =>
              match tree.enter parent name with
              | .error refusal => .error refusal
              | .ok location => tree.openLocation location

/-- Where writing bytes breaks off on a device, if it is one, given where the storage
would stop: a place behind the bytes is none, nothing stops a device that swallows
everything, and a full device takes no byte at all. -/
def breakOff (device : Option Device) (stop : Option Stop) (data : Bytes) : Option Stop :=
  match device with
  | some .null => none
  | some .full => if data = [] then none else some ⟨0, .noSpace⟩
  | some (.stream _ _) | none => stop.filter fun place => place.taken < data.length

/-- The bytes in front of the place where writing breaks off. -/
def taken (device : Option Device) (stop : Option Stop) (data : Bytes) : Bytes :=
  match breakOff device stop data with
  | none => data
  | some place => data.take place.taken

/-- The streams that bytes on a device go to. -/
def sends (device : Option Device) (data : Bytes) : Streams :=
  match device with
  | some (.stream which _) => .only which data
  | some .null | some .full | none => .nothing

/-- The tree after bytes arrived at a file just opened; a device keeps none. -/
def deliver (tree : FileTree) (handle : Handle) (data : Bytes) : FileTree :=
  match handle with
  | .file location => tree.put location (.file data)
  | .device _ => tree

/-- The tree behind a write, what went to the streams, and what came of it. -/
structure Writing (ε α : Type) where
  files : FileTree
  sent : Streams
  result : Except ε α

/-- Writes bytes to a file just opened, up to where the write breaks off. -/
def write (tree : FileTree) (handle : Handle) (data : Bytes) (stop : Option Stop) :
    Writing FileError Unit where
  files := tree.deliver handle (taken handle.device? stop data)
  sent := sends handle.device? (taken handle.device? stop data)
  result :=
    match breakOff handle.device? stop data with
    | none => .ok ()
    | some place => .error place.reason

/-- The regular files at or below a location, with their names relative to it. -/
def filesBelow (tree : FileTree) (location : Location) : List (Location × Bytes) :=
  tree.nodes.filterMap fun entry =>
    match entry.2 with
    | .file content =>
        if location.isPrefixOf entry.1 then some (entry.1.drop location.length, content) else none
    | _ => none

/-- A tree with a node added at a location and directories made above it where
nothing stands. -/
def withParents (tree : FileTree) (location : Location) (node : Node) : FileTree :=
  let parents := (List.range location.length).map location.take
  let prepared := parents.foldl
    (fun current parent =>
      match current.lookup parent with
      | none => current.put parent .directory
      | some _ => current)
    tree
  if location = [] then prepared else prepared.put location node

/-- The empty tree: a root and nothing in it. -/
def empty : FileTree := ⟨[], []⟩

/-- The paths under which a process finds the streams that it writes to. -/
def streamPaths : List (String × OutputStream) :=
  [("/dev/stdout", .output), ("/dev/stderr", .errors), ("/dev/fd/1", .output),
   ("/dev/fd/2", .errors), ("/proc/self/fd/1", .output), ("/proc/self/fd/2", .errors)]

/-- A tree with the streams at their paths, at which nothing is typed. -/
def withStreams (tree : FileTree) : FileTree :=
  streamPaths.foldl
    (fun current entry =>
      current.withParents (steps (Path.ofText entry.1)) (.device (.stream entry.2 [])))
    tree

theorem lookup_put_same (tree : FileTree) {location : Location} (notRoot : location ≠ [])
    (node : Node) : (tree.put location node).lookup location = some node := by
  simp [lookup, put, notRoot]

private theorem lookup_filter_other {location other : Location} (different : other ≠ location)
    (nodes : List (Location × Node)) :
    (nodes.filter fun entry => entry.1 != location).lookup other = nodes.lookup other := by
  induction nodes with
  | nil => rfl
  | cons head tail inductionHypothesis =>
      obtain ⟨key, node⟩ := head
      by_cases isLocation : key = location
      · have notOther : (other == key) = false := by simp [isLocation, different]
        simp only [isLocation, bne_self_eq_false, Bool.false_eq_true, not_false_eq_true,
          List.filter_cons_of_neg, inductionHypothesis, List.lookup_cons]
        rw [isLocation] at notOther
        rw [notOther]
      · simp only [bne_iff_ne, ne_eq, isLocation, not_false_eq_true, List.filter_cons_of_pos,
          List.lookup_cons, inductionHypothesis]

theorem lookup_put_other (tree : FileTree) {location other : Location}
    (different : other ≠ location) (node : Node) :
    (tree.put location node).lookup other = tree.lookup other := by
  unfold lookup put
  by_cases root : other = []
  · simp [root]
  · have notHead : (other == location) = false := by simp [different]
    simp only [root, ↓reduceIte, List.lookup_cons, notHead]
    exact lookup_filter_other different tree.nodes

end FileTree

end KernelForge
