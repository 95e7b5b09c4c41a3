import KernelForge.Configuration
import KernelForge.Failure
import KernelForge.Toml.Document

/-!
Contract: settings in a TOML document.

Owns: the keys of the settings, and reading them from the root table of a
document or from a file. A key that is not there leaves its setting unset, and
keys of other names are allowed.

Does not own: layering variables over what was read.
-/

namespace KernelForge.Configuration

def directoryKey : String := "ocloc-dir"

/-- The key for the text added to the public options. -/
def apiOptionsKey : String := "vc-api-options"

/-- The key for the text added to the internal options. -/
def internalOptionsKey : String := "internal-options"

def debugKey : String := "debug"

/-- The text under a key, if there is one. -/
def textSetting (entries : Toml.Entries) (key : String) : Except DocumentError (Option String) :=
  match entries.lookup key with
  | none => .ok none
  | some (.text value) => .ok (some value)
  | some _ => .error (.wrongKind key)

/-- The flag under a key; off if there is none. -/
def flagSetting (entries : Toml.Entries) (key : String) : Except DocumentError Bool :=
  match entries.lookup key with
  | none => .ok false
  | some (.boolean value) => .ok value
  | some _ => .error (.wrongKind key)

def ofEntries (entries : Toml.Entries) : Except DocumentError Configuration := do
  let libraryDirectory ← textSetting entries directoryKey
  let apiOptions ← textSetting entries apiOptionsKey
  let internalOptions ← textSetting entries internalOptionsKey
  let debug ← flagSetting entries debugKey
  .ok ⟨libraryDirectory.map Path.ofText, apiOptions, internalOptions, debug⟩

def parse (document : String) : Except Failure Configuration :=
  match Toml.parse? document with
  | none => .error (.document .malformed)
  | some entries =>
      match ofEntries entries with
      | .error cause => .error (.document cause)
      | .ok configuration => .ok configuration

def load (tree : FileTree) (path : Path) : Except Failure Configuration :=
  match tree.readText path with
  | .error cause => .error (.file cause)
  | .ok document => parse document

end KernelForge.Configuration
