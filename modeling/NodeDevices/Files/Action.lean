import NodeDevices.Files
/-! Changes of files, each of which may give new names. A file that is moved or written over
gets no new name in this sense.
-/

namespace NodeDevices.Files

/-- A change of files. -/
inductive Action where
  | write (path : String)
  | makeDirectory (path : String)
  | bind (path : String)
  | linkSymbolically (path : String)
  | link (source target : String)
  | remove (path : String)
  | removeDirectory (path : String)
  | rename (source target : String)
  deriving DecidableEq, Repr

/-- Makes a change, with the new name that it gives. -/
def change (files : Files) : Action → Except FileError (Option (Nat × String) × Files)
  | .write path => files.write path []
  | .makeDirectory path => (files.create path .directory).map fun made => (some made.1, made.2)
  | .bind path => (files.create path .socket).map fun made => (some made.1, made.2)
  | .linkSymbolically path =>
      (files.create path .symbolicLink).map fun made => (some made.1, made.2)
  | .link source target => (files.link source target).map fun made => (some made.1, made.2)
  | .remove path => (files.remove path).map (none, ·)
  | .removeDirectory path => (files.removeDirectory path).map (none, ·)
  | .rename source target => (files.rename source target).map (none, ·)

/-- Makes changes one after another, as far as they can be made, with all new names. -/
def changeAll (files : Files) : List Action → List (Nat × String) × Files
  | [] => ([], files)
  | action :: rest =>
      match files.change action with
      | .ok (created, next) =>
          let (later, last) := next.changeAll rest
          (created.toList ++ later, last)
      | .error _ => files.changeAll rest

end NodeDevices.Files
