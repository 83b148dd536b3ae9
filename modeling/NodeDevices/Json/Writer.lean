import NodeDevices.Json.Printer
/-! Writing of documents that may have no written form: the members of an object are written with
their names, and half of a surrogate pair is no name.
-/

namespace NodeDevices.Json

mutual
/-- Says whether all members in a document have names. -/
def isNamed : Json → Bool
  | .arr items => itemsAreNamed items
  | .obj members => membersAreNamed members
  | _ => true

/-- Says whether all members in the items of an array have names. -/
def itemsAreNamed : List Json → Bool
  | [] => true
  | item :: rest => item.isNamed && itemsAreNamed rest

/-- Says whether the members of an object, and those in their values, have names. -/
def membersAreNamed : List (Text × Json) → Bool
  | [] => true
  | (name, value) :: rest => name.isSome && value.isNamed && membersAreNamed rest
end

/-- Why a document is not written. -/
inductive WriteError where
  /-- A member has no name. -/
  | unnamed
  deriving DecidableEq, Repr

/-- The text of an error. -/
def WriteError.message : WriteError → String
  | .unnamed => "key must be a string"

/-- Writes a document. -/
def write (document : Json) : Except WriteError String :=
  if document.isNamed then .ok document.render else .error .unnamed

end NodeDevices.Json
