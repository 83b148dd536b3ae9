import NodeDevices.Program
/-! The program as it is called: it takes over the files that a command looks at, carries the
command out on them, and prints what comes of it. It reaches no kubelet and no inventory.
-/

namespace NodeDevices.Main

/-- The variables of the environment that a command may look at. -/
def variableNames : List String :=
  Program.hostVariable :: DaemonOptions.specs.filterMap CommandLine.Spec.variableName

/-- The files that a command looks at. -/
def paths : Command → List String
  | .showAssignments state => [state.podResourcesSocket, state.checkpointPath]
  | .daemon options =>
      [Program.hostFile, options.resourceConfig, Path.directory options.socketOfKubelet]

/-- Takes the file at a path over. What cannot be read is taken for a socket. -/
def takeOver (files : Files) (path : String) : IO Files := do
  let found ← (IO.FS.readBinFile path).toBaseIO
  let parents := ((files.createDirectories (Path.directory path)).toOption).getD files
  return match found with
    | .ok content => (((parents.write path content.toList).toOption).map (·.2)).getD files
    | .error (.noFileOrDirectory ..) => files
    | .error (.inappropriateType ..) => ((files.createDirectories path).toOption).getD files
    | .error _ => (((parents.create path .socket).toOption).map (·.2)).getD files

/-- Prints what a run comes to, and gives the code that it ends with. -/
def report (outcome : Outcome) : IO UInt32 := do
  IO.print outcome.output
  match outcome with
  | .printed _ => return 0
  | .misused error => IO.eprintln ("error: " ++ error.message)
  | .failed reason => IO.eprintln ("Error: " ++ reason)
  | .running _ =>
      IO.eprintln "Error: there is no connection to serve plugins over"
      return 1
  return outcome.exitCode.toUInt32

end NodeDevices.Main

open NodeDevices in
/-- Runs the program. -/
def main (arguments : List String) : IO UInt32 := do
  let environment ← Main.variableNames.filterMapM fun name =>
    return (← IO.getEnv name).map (name, ·)
  let paths :=
    match Command.parse environment arguments with
    | .ok command => Main.paths command
    | .error _ => []
  let files ← paths.foldlM Main.takeOver {}
  Main.report (Program.run arguments environment "/" { files } (.refused "no connection") .silent)
