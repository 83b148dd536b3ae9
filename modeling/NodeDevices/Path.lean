import NodeDevices.Text.Split
/-! Paths of files. Two spellings name the same path when they have the same components:
repeated slashes, slashes at the end and dots that stand for no step do not count.
-/

namespace NodeDevices.Path

/-- A step of a path. -/
inductive Component where
  | root
  | current
  | parent
  | name (text : String)
  deriving DecidableEq, Repr

/-- The texts between the slashes of a path. -/
def segments (path : String) : List (List Char) :=
  Text.splitOn '/' path.toList

/-- The path with the given texts between its slashes. -/
def ofSegments (parts : List (List Char)) : String :=
  String.ofList (Text.joinWith '/' parts)

/-- Says whether a path starts at the root. -/
def isAbsolute (path : String) : Bool :=
  path.toList.head? = some '/'

/-- The step that a segment stands for, except at the beginning of a path. -/
def Component.ofSegment? (segment : List Char) : Option Component :=
  if segment = [] ∨ segment = ['.'] then none
  else if segment = ['.', '.'] then some .parent
  else some (.name (String.ofList segment))

/-- The components of a path. -/
def components (path : String) : List Component :=
  let start :=
    if isAbsolute path then [.root]
    else if (segments path).head? = some ['.'] then [.current]
    else []
  start ++ (segments path).filterMap Component.ofSegment?

/-- Says whether two spellings name the same path. -/
def same (first second : String) : Bool :=
  components first = components second

/-- The path of a name within a directory; an absolute name stands for itself. -/
def join (directory name : String) : String :=
  if isAbsolute name then name
  else if directory = "" ∨ directory.toList.getLast? = some '/' then directory ++ name
  else directory ++ "/" ++ name

/-- The segments, the last one first, from the last one on that stands for a component. -/
def dropIdle : List (List Char) → List (List Char)
  | [] => []
  | segment :: earlier =>
      if segment = [] ∨ (segment = ['.'] ∧ earlier ≠ []) then dropIdle earlier
      else segment :: earlier

/-- The path without its last component, spelled as it is in the path. -/
def parent? (path : String) : Option String :=
  match dropIdle (segments path).reverse with
  | [] => none
  | _ :: earlier =>
      match dropIdle earlier with
      | [] => some (if isAbsolute path then "/" else "")
      | kept => some (ofSegments kept.reverse)

/-- The name that a path ends in. -/
def fileName? (path : String) : Option String :=
  match dropIdle (segments path).reverse with
  | [] => none
  | segment :: _ =>
      if segment = ['.'] ∨ segment = ['.', '.'] then none else some (String.ofList segment)

/-- The directory that the file of a path stands in. -/
def directory (path : String) : String :=
  match parent? path with
  | none | some "" => "."
  | some parent => parent

/-- The path as it is found from a working directory. -/
def absolute (workingDirectory path : String) : String :=
  if isAbsolute path then path else join workingDirectory path

end NodeDevices.Path
