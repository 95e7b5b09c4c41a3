import KernelForge.Platform.Listing
import KernelForge.Job

/-!
Contract: the job that says what the program finds around it.

Owns: the report on the settings and on the compiler library.

The report says that the library cannot be loaded where that is so; the job does
not fail for it. The device compiler is not called.

Does not own: the settings, which are found before the job begins.
-/

namespace KernelForge.Doctor

def nameWidth : Nat := 22

/-- A line about a setting, under the name of its variable. -/
def settingLine (name value : String) : String :=
  "  " ++ padRight nameWidth name ++ " " ++ value ++ "\n"

def settingsPart (configuration : Configuration) : String :=
  "--- Configuration ---\n" ++
    settingLine Configuration.directoryVariable
      ((configuration.libraryDirectory.map Path.display).getD "(default search path)") ++
    settingLine Configuration.apiOptionsVariable (configuration.apiOptions.getD "(unset)") ++
    settingLine Configuration.internalOptionsVariable
      (configuration.internalOptions.getD "(unset)") ++
    settingLine Configuration.debugVariable (if configuration.debug then "true" else "false")

def loadingLines : Except Failure Library → String
  | .ok library =>
      "  loaded:  " ++ library.path.display ++ "\n" ++
        "  symbols: " ++ EntryPoint.invoke.symbol ++ ", " ++ EntryPoint.freeOutput.symbol ++ "\n"
  | .error failure => "  error:   " ++ failure.message ++ "\n"

def libraryPart (configuration : Configuration) (loading : Loading) : String :=
  "--- Device Compiler ---\n" ++
    "  library: " ++ (libraryPath configuration).display ++ "\n" ++ loadingLines loading.result

def run (host : Host) (version : String) (configuration : Configuration) : Effects :=
  let loading := Library.load host.loader configuration
  let report :=
    "=== cmoc doctor ===\n\n" ++ "cmoc version: " ++ version ++ "\n\n" ++
      settingsPart configuration ++ "\n" ++ libraryPart configuration loading
  { host.answers (.ok report) with
    log := loading.log
    opened := [libraryPath configuration] }

end KernelForge.Doctor
