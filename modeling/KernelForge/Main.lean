import KernelForge.Program

/-!
Contract: the program on a real machine.

Owns: taking the arguments, the variables and the named files from the machine,
and giving the outcome back to it.

Only the files that the arguments name are taken, and the directories above every
named path are assumed to exist. A path of one of the two streams is known by its
name. No compiler library can be opened from here, so every attempt to load one is
refused.

Does not own: any decision; that is `KernelForge.Program`.
-/

namespace KernelForge.Main

def libraryRefusal : String := "shared libraries cannot be opened"

def variableNames : List String :=
  [Configuration.directoryVariable, Configuration.apiOptionsVariable,
   Configuration.internalOptionsVariable, Configuration.debugVariable, Program.logVariable,
   Program.logStyleVariable, Program.noColourVariable, Program.forceColourVariable]

def takeEnvironment : IO Environment := do
  let entries ← variableNames.mapM fun name => do
    let value ← IO.getEnv name
    return value.map fun text => (name, Text.Utf8.encode text)
  return entries.filterMap id

def readPaths : Job → List Path
  | .translate options => options.input :: options.configuration.toList
  | .platforms _ => []
  | .doctor configuration => configuration.toList

def writtenPaths : Job → List Path
  | .translate options => [Translate.kernelPath options, Translate.debugInfoPath options]
  | _ => []

/-- The location that a path names where every directory exists. -/
def locationOf (tree : FileTree) (path : Path) : Location :=
  (FileTree.steps path).foldl
    (fun location step =>
      if step = [Path.dot] then location
      else if step = [Path.dot, Path.dot] then location.dropLast
      else location ++ [step])
    (tree.origin path)

def withDirectories (tree : FileTree) (path : Path) : FileTree :=
  tree.withParents (locationOf tree path).dropLast .directory

/-- A tree with the file that a path names, if there is one. -/
def takeFile (tree : FileTree) (path : Path) : IO FileTree := do
  try
    let content ← IO.FS.readBinFile path.display
    return tree.withParents (locationOf tree path) (.file content.toList)
  catch _ => return withDirectories tree path

/-- Writes the file that a path names if a job has changed it. -/
def giveFile (before after : FileTree) (path : Path) : IO Unit :=
  match after.lookup (locationOf after path) with
  | some (.file content) =>
      if before.lookup (locationOf before path) = some (.file content) then pure ()
      else IO.FS.writeBinFile path.display ⟨content.toArray⟩
  | _ => pure ()

/-- The tree with the working directory and the streams of the process, and nothing else. -/
def startingTree : IO FileTree := do
  let here := FileTree.steps (Path.ofText (← IO.currentDir).toString)
  let tree := FileTree.empty.withStreams.withParents here .directory
  return { tree with workingDirectory := here }

def run (arguments : List String) : IO UInt32 := do
  let given := arguments.map Text.Utf8.encode
  let environment ← takeEnvironment
  let job := (CommandLine.read given).toOption.map CommandLine.job
  let directories := ((job.map writtenPaths).getD []).foldl withDirectories (← startingTree)
  let files ← ((job.map readPaths).getD []).foldlM takeFile directories
  let host : Host :=
    { files := files, environment := environment, loader := fun _ => .error libraryRefusal }
  let outcome := Program.run host given
  for path in (job.map writtenPaths).getD [] do
    giveFile files outcome.files path
  let output ← IO.getStdout
  let errors ← IO.getStderr
  output.write ⟨outcome.standardOutput.toArray⟩
  errors.write ⟨outcome.standardError.toArray⟩
  return outcome.exitStatus.toUInt32

end KernelForge.Main

def main (arguments : List String) : IO UInt32 :=
  KernelForge.Main.run arguments
