import NodeDevices.Dictionary
/-! The devices that are assigned to containers, by resource. Both sources of this knowledge
list the devices of a resource in pieces, which are joined in their order.
-/

namespace NodeDevices

/-- The ids of the assigned devices of each resource. -/
abbrev Assignments := Dictionary (List String)

namespace Assignments

/-- Adds devices to those of a resource. -/
def append (map : Assignments) (resource : String) (ids : List String) : Assignments :=
  map.alter resource (fun known => known.getD [] ++ ids)

/-- Joins the devices of the entries with one resource name, in the order of the entries. -/
def aggregate (entries : List (String × List String)) : Assignments :=
  entries.foldl (fun map entry => map.append entry.1 entry.2) .empty

/-- A device entry of a container: a resource name and device ids. -/
abbrev Entry := String × List String

/-- The entries of the containers of some pods, joined. -/
def ofPods (pods : List (List (List Entry))) : Assignments :=
  aggregate pods.flatten.flatten

end Assignments

end NodeDevices
