import NodeDevices.Path
/-! A system of files. A file has a number; directories give names to files, and what was
once a file's name may later be another's. The root directory has the number 0, and
relative paths start there.
-/

namespace NodeDevices

/-- What a file is. -/
inductive Files.Kind where
  | regular (content : List UInt8)
  | directory
  | socket
  | symbolicLink
  deriving DecidableEq, Repr

/-- A name that a directory gives to a file. -/
structure Files.Entry where
  directory : Nat
  name : String
  file : Nat
  deriving DecidableEq, Repr

/-- Files by number, and their names. -/
structure Files where
  kinds : List Files.Kind := [.directory]
  entries : List Files.Entry := []
  deriving DecidableEq, Repr

/-- Why something cannot be done with a path. -/
inductive FileError where
  | missing
  | exists
  | notDirectory
  | isDirectory
  | notEmpty
  | badPath
  deriving DecidableEq, Repr

namespace Files

/-- What a file with a number is. -/
def kind? (files : Files) (file : Nat) : Option Kind :=
  files.kinds[file]?

/-- Says whether a file is a directory. -/
def isDirectory (files : Files) (file : Nat) : Bool :=
  files.kind? file = some .directory

/-- The greatest number of bytes of a name. -/
def nameCapacity : Nat := 255

/-- The file that a step from a directory leads to. -/
def step (files : Files) (directory : Nat) (component : Path.Component)
    : Except FileError Nat :=
  if !files.isDirectory directory then .error .notDirectory
  else match component with
    | .root => .ok 0
    | .current => .ok directory
    | .parent =>
        .ok (((files.entries.find? (·.file = directory)).map Entry.directory).getD directory)
    | .name text =>
        if nameCapacity < text.utf8ByteSize then .error .badPath
        else match files.entries.find? fun e => e.directory = directory ∧ e.name = text with
          | some entry => .ok entry.file
          | none => .error .missing

/-- Says whether a path can only name a directory. -/
def needsDirectory (path : String) : Bool :=
  match (Path.segments path).getLast? with
  | some segment => segment = [] || segment = ['.']
  | none => true

/-- The file at a path. -/
def find (files : Files) (path : String) : Except FileError Nat := do
  if '\x00' ∈ path.toList ∨ path = "" then throw .badPath
  let file ← (Path.components path).foldlM files.step 0
  if needsDirectory path ∧ !files.isDirectory file then throw .notDirectory
  return file

/-- Says whether there is something at a path. -/
def has (files : Files) (path : String) : Bool :=
  (files.find path).toOption.isSome

/-- What is at a path. -/
def at? (files : Files) (path : String) : Option Kind :=
  (files.find path).toOption.bind files.kind?

/-- The text of a regular file, which is valid UTF-8. -/
def text? (files : Files) (path : String) : Option String :=
  match files.at? path with
  | some (.regular content) => String.fromUTF8? ⟨content.toArray⟩
  | _ => none

/-- The names in a directory. -/
def names (files : Files) (directory : Nat) : List String :=
  (files.entries.filter (·.directory = directory)).map Entry.name

/-- The directory and the name that a path gives to a new file. -/
def place (files : Files) (path : String) : Except FileError (Nat × String) := do
  if '\x00' ∈ path.toList then throw .badPath
  match Path.parent? path, Path.fileName? path with
  | some _, some name =>
      let directory ← (Path.components path).dropLast.foldlM files.step 0
      match files.step directory (.name name) with
      | .ok _ => throw .exists
      | .error .missing => return (directory, name)
      | .error e => throw e
  | _, _ => throw .exists

/-- Gives a name to a file. -/
def name (files : Files) (place : Nat × String) (file : Nat) : Files :=
  { files with entries := files.entries ++ [⟨place.1, place.2, file⟩] }

/-- Makes a new file, and says where. -/
def create (files : Files) (path : String) (kind : Kind)
    : Except FileError ((Nat × String) × Files) := do
  if kind ≠ .directory ∧ needsDirectory path then throw .isDirectory
  let place ← files.place path
  return (place, { files with kinds := files.kinds ++ [kind] }.name place files.kinds.length)

/-- Takes the name at a path away. -/
def drop (files : Files) (path : String) : Files :=
  match (Path.components path).dropLast.foldlM files.step 0, Path.fileName? path with
  | .ok directory, some text =>
      { files with entries :=
          files.entries.filter fun e => !(e.directory = directory ∧ e.name = text) }
  | _, _ => files

/-- Removes a file that is not a directory. -/
def remove (files : Files) (path : String) : Except FileError Files := do
  let file ← files.find path
  if files.isDirectory file then throw .isDirectory
  return files.drop path

/-- Removes an empty directory. -/
def removeDirectory (files : Files) (path : String) : Except FileError Files := do
  let file ← files.find path
  if !files.isDirectory file then throw .notDirectory
  if files.names file ≠ [] then throw .notEmpty
  return files.drop path

/-- Removes the file at a path, where there need not be one. -/
def clear (files : Files) (path : String) : Except FileError Files :=
  match files.remove path with
  | .error .missing => .ok files
  | result => result

/-- Writes a regular file, and says where if it is new. -/
def write (files : Files) (path : String) (content : List UInt8)
    : Except FileError (Option (Nat × String) × Files) := do
  match files.find path with
  | .ok file =>
      match files.kind? file with
      | some (.regular _) =>
          return (none, { files with kinds := files.kinds.set file (.regular content) })
      | _ => throw .isDirectory
  | .error .missing =>
      let (place, files) ← files.create path (.regular content)
      return (some place, files)
  | .error e => throw e

/-- Gives a file that is not a directory a second name, and says where. -/
def link (files : Files) (source target : String)
    : Except FileError ((Nat × String) × Files) := do
  let file ← files.find source
  if files.isDirectory file then throw .isDirectory
  let place ← files.place target
  return (place, files.name place file)

/-- Gives a file another name, which a file may lose for it. -/
def rename (files : Files) (source target : String) : Except FileError Files := do
  let file ← files.find source
  match files.find target with
  | .ok other =>
      if other = file then return files
      let files ←
        if files.isDirectory file then files.removeDirectory target else files.remove target
      let files := files.drop source
      return files.name (← files.place target) file
  | .error .missing =>
      let place ← files.place target
      return (files.drop source).name place file
  | .error e => throw e

/-- Makes a directory and those that it stands in, as far as they are missing. -/
def createDirectories (files : Files) (path : String) : Except FileError Files :=
  go files (if Path.isAbsolute path then "/" else "") (Path.segments path)
where
  /-- Makes the directories of the given segments within one that is there. -/
  go (files : Files) (above : String) : List (List Char) → Except FileError Files
    | [] => .ok files
    | segment :: rest => do
        let path := if segment = [] then above else Path.join above (String.ofList segment)
        if path = "" then go files above rest
        else match files.find path with
          | .ok file =>
              if files.isDirectory file then go files path rest else throw .notDirectory
          | .error .missing =>
              let (_, files) ← files.create path .directory
              go files path rest
          | .error e => throw e

end Files

end NodeDevices
