import NodeDevices.Files
/-! The watch on the kubelet's socket: the directory of its path is watched, and a new name
there is the socket if its path is the socket's. Other changes, such as a file that is moved
there, do not count.
-/

namespace NodeDevices.Kubelet

/-- Why the sources of events cannot be had. -/
inductive WatchError where
  | filesystem (path : String)
  | signal (reason : String)
  deriving DecidableEq, Repr

/-- The text of an error. -/
def WatchError.message : WatchError → String
  | .filesystem path => "Failed to watch directory " ++ path
  | .signal reason => "Failed to install signal handler: " ++ reason

/-- A watch: the file that is watched, its path from the root, and the socket's path. -/
structure SocketWatch where
  file : Nat
  path : String
  socket : String
  deriving DecidableEq, Repr

/-- A change in a directory, by the directory's number and a name in it. -/
inductive Change where
  | created (directory : Nat) (name : String)
  | modified (directory : Nat) (name : String)
  | removed (directory : Nat) (name : String)
  deriving DecidableEq, Repr

namespace SocketWatch

/-- Begins to watch for a socket. -/
def start (files : Files) (workingDirectory socket : String) : Except WatchError SocketWatch :=
  let directory := Path.directory socket
  match files.find (Path.absolute workingDirectory directory) with
  | .ok file => .ok { file, path := Path.absolute workingDirectory directory, socket }
  | .error _ => .error (.filesystem directory)

/-- Says whether a change tells that the kubelet has come up anew. -/
def notices (watch : SocketWatch) : Change → Bool
  | .created directory name =>
      directory = watch.file && Path.same (Path.join watch.path name) watch.socket
  | _ => false

end SocketWatch

end NodeDevices.Kubelet
