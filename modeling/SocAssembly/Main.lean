import SocAssembly.CommandLine.Execution

/-!
# The program

The outer layer: it takes the environment and the files that a command names from the system, runs
the command on them, and writes back what has changed. It starts no other programs, so a build ends
where the first tool would be started.
-/

namespace SocAssembly.Program

/-- The path of a location. -/
def locationPath (l : Location) : String := "/" ++ String.intercalate "/" l

/-- The location of an absolute path. -/
def locationOf (path : String) : Location :=
  (pathSteps path).foldl PathStep.apply []

/-- The environment, as far as the program looks at it. -/
def readEnvironment : IO (Dict String) := do
  let pairs ← environmentVariables.filterMapM fun name => do
    return (← IO.getEnv name).map (name, ·)
  return .ofList pairs

/-- What stands at a location. -/
def readNode (l : Location) : IO (Option FileNode) := do
  let path := (← IO.currentDir) / locationPath l
  if ← path.isDir then return some .directory
  else if ← path.pathExists then return some (.file (← IO.FS.readFile path))
  else return none

/-- Adds what stands at a location to a tree. -/
def addNode (t : FileTree) (l : Location) : IO FileTree := do
  match ← readNode l with
  | some n => return t.put l n
  | none => return t

/-- The files and directories around the given paths. -/
def readTree (paths : List String) : IO FileTree := do
  let bare : FileTree := { workingDirectory := locationOf (← IO.currentDir).toString }
  (paths.flatMap bare.visited).eraseDups.foldlM addNode bare

/-- Makes what stands at a location. -/
def writeNode (l : Location) : FileNode → IO Unit
  | .directory => IO.FS.createDirAll (locationPath l)
  | .file content => IO.FS.writeFile (locationPath l) content

/-- Runs the program. -/
def run (args : List String) : IO UInt32 := do
  let environment ← readEnvironment
  let paths := match Command.ofArguments environment args with
    | .ok c => c.paths
    | .error _ => []
  let before ← readTree paths
  let (after, outcome) := runProgram environment (fun _ _ => none) args before
  for (l, n) in after.changesSince before do
    writeNode l n
  let filter := LogFilter.ofText (LogFilter.textIn environment)
  for n in outcome.notices do
    if filter.shows programTarget n.level.detail then
      IO.eprintln s!"{n.level.name} {Text.showControls n.text}"
  IO.print outcome.output
  IO.eprint outcome.complaint
  return outcome.status.toUInt32

end SocAssembly.Program

/-- Runs the program with the arguments of the command line. -/
def main (args : List String) : IO UInt32 := SocAssembly.Program.run args
