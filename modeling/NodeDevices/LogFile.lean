import NodeDevices.Files
/-! The file that the log goes to. Its name is that of a path, with the day behind it, in the
directory of that path, which is made if it is missing.
-/

namespace NodeDevices.LogFile

/-- The variable of the environment that holds the path. -/
def pathVariable : String := "LOG_PATH"

/-- The name when the path has none. -/
def defaultName : String := "device-plugin.log"

/-- The name of the file of a day. -/
def dayName (path day : String) : String :=
  (Path.fileName? path).getD defaultName ++ "." ++ day

/-- The file of a day. -/
def place (path day : String) : String :=
  Path.join (Path.directory path) (dayName path day)

/-- Opens the file of a day for what is appended to it. -/
def openDay (files : Files) (path day : String) : Except FileError Files :=
  let target := place path day
  match files.find target with
  | .ok file => if files.isDirectory file then .error .isDirectory else .ok files
  | .error _ =>
      match files.create target (.regular []) with
      | .ok (_, files) => .ok files
      | .error _ => do
          let files ← files.createDirectories (Path.directory target)
          return (← files.create target (.regular [])).2

end NodeDevices.LogFile
