import KernelForge.Session

/-!
Contract: finding the compiler library and what it exports.

Owns: the path of the library, the loader as a value, the order in which the
entry points are looked for, and compiling through a library that is loaded for
one command only.

Does not own: how a loader finds a library; one such loader is
`KernelForge.Library.Loader`.
-/

namespace KernelForge

def libraryFileName : String := "libocloc.so"

/-- The path of the compiler library: the file name in the configured directory,
or alone if none is configured, which leaves the search to the loader. -/
def libraryPath (configuration : Configuration) : Path :=
  Path.join (configuration.libraryDirectory.getD ⟨[]⟩) (Path.ofText libraryFileName)

/-- A shared library as the loader maps it: the compiler behind its entry points,
and for each entry point that is missing what the loader says about it. -/
structure LibraryImage where
  compiler : DeviceCompiler
  missing : EntryPoint → Option String

/-- A loader: the image at a path, or what the system says instead. -/
abbrev Loader := Path → Except String LibraryImage

/-- A library with both entry points found. -/
structure Library where
  path : Path
  compiler : DeviceCompiler

def Library.shown (library : Library) : String :=
  "LibOcloc \x7b path: " ++ library.path.quoted ++ " \x7d"

/-- What loading does: its result, and the records that it writes. -/
structure Loading where
  result : Except Failure Library
  log : List LogRecord

namespace Library

/-- The record that a library is about to be loaded. -/
def loadRecord (path : Path) : LogRecord :=
  ⟨.debug, .library, "loading device compiler from " ++ path.display⟩

def foundRecord (entry : EntryPoint) : LogRecord :=
  ⟨.debug, .library, "resolved " ++ entry.symbol⟩

def missingRecord (entry : EntryPoint) (reason : String) : LogRecord :=
  ⟨.debug, .library, "resolving " ++ entry.symbol ++ ": " ++ reason⟩

/-- Looks for entry points in order; the first missing one ends the search. -/
def resolve (image : LibraryImage) : List EntryPoint → List LogRecord × Except Failure Unit
  | [] => ([], .ok ())
  | entry :: rest =>
      match image.missing entry with
      | some reason => ([missingRecord entry reason], .error (.symbolMissing entry))
      | none =>
          let following := resolve image rest
          (foundRecord entry :: following.1, following.2)

def loadFrom (loader : Loader) (path : Path) : Loading :=
  match loader path with
  | .error reason => ⟨.error (.libraryLoad path reason), [loadRecord path]⟩
  | .ok image =>
      let resolution := resolve image [.invoke, .freeOutput]
      ⟨resolution.2.map fun _ => ⟨path, image.compiler⟩, loadRecord path :: resolution.1⟩

def load (loader : Loader) (configuration : Configuration) : Loading :=
  loadFrom loader (libraryPath configuration)

end Library

/-- What a compilation does: its result, the echo that it writes, the paths that
it opens as libraries, the calls that it makes, and the records that it writes. -/
structure Compilation (σ : Type) where
  result : Except Failure DeviceBinary
  echo : σ
  opened : List Path
  calls : List ForeignCall
  log : List LogRecord

/-- Compiles an IR: composes the command, loads the library, runs the command.
The first stage that fails ends it, and nothing is tried twice. -/
def compileIR {σ : Type} (writer : Writer σ) (state : σ) (loader : Loader) (request : Request)
    (configuration : Configuration) (ir : Bytes) : Compilation σ :=
  match Command.composeEchoing writer state request configuration with
  | (echo, .error failure) => ⟨.error failure, echo, [], [], []⟩
  | (echo, .ok command) =>
      let loading := Library.load loader configuration
      let opened := [libraryPath configuration]
      match loading.result with
      | .error failure => ⟨.error failure, echo, opened, [], loading.log⟩
      | .ok library =>
          let run := command.run library.compiler ir
          ⟨run.result, echo, opened, run.calls, loading.log ++ run.log⟩

end KernelForge
