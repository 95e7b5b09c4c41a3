import KernelForge.Path

/-!
Contract: the ambient settings of the bridge to the device compiler.

Owns: the settings record, the environment variables that supply it, and
layering variables over settings that are already there.

A variable that is set wins, and the empty text counts as set. A process variable
whose bytes are no text counts as unset.

Does not own: reading settings from a TOML document; that is
`KernelForge.Configuration.Document`.
-/

namespace KernelForge

structure Configuration where
  /-- The directory of the compiler library; none leaves the search to the
  system's loader. -/
  libraryDirectory : Option Path
  apiOptions : Option String
  internalOptions : Option String
  debug : Bool
deriving DecidableEq, Repr

/-- A variable lookup: the text of a variable that is set. -/
abbrev Variables := String → Option String

/-- The variables of a process, as bytes. -/
abbrev Environment := List (String × Bytes)

/-- The variables of a process that are set to a text. -/
def Environment.texts (environment : Environment) : Variables :=
  fun name => (environment.lookup name).bind Text.Utf8.decode?

namespace Configuration

def directoryVariable : String := "CMOC_OCLOC_DIR"

/-- The variable for the text added to the public options. -/
def apiOptionsVariable : String := "CM_VC_API_OPTIONS"

/-- The variable for the text added to the internal options. -/
def internalOptionsVariable : String := "CM_INTERNAL_OPTIONS"

/-- The variable that turns the debug mode on or off. -/
def debugVariable : String := "CMOC_DEBUG"

def initial : Configuration := ⟨none, none, none, false⟩

/-- A flag is on unless its text is empty, `0` or `false`. -/
def flagEnabled (text : String) : Bool :=
  text != "" && text != "0" && text != "false"

def ofVariables (ambient : Variables) : Configuration where
  libraryDirectory := (ambient directoryVariable).map Path.ofText
  apiOptions := ambient apiOptionsVariable
  internalOptions := ambient internalOptionsVariable
  debug := (ambient debugVariable).any flagEnabled

/-- Settings with variables laid over them; an unset variable changes nothing. -/
def overriddenBy (configuration : Configuration) (ambient : Variables) : Configuration :=
  let layer := ofVariables ambient
  { libraryDirectory := layer.libraryDirectory <|> configuration.libraryDirectory
    apiOptions := layer.apiOptions <|> configuration.apiOptions
    internalOptions := layer.internalOptions <|> configuration.internalOptions
    debug :=
      match ambient debugVariable with
      | some _ => layer.debug
      | none => configuration.debug }

end Configuration

end KernelForge
