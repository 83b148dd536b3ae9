import NodeDevices.Assignment
import NodeDevices.Json.Shape
/-! The kubelet's record of its device assignments. The ids of an entry are a flat list or
lists by NUMA node, whichever way the kubelet writes them.
-/

namespace NodeDevices

/-- The device ids of an entry. -/
inductive Checkpoint.DeviceIds where
  | flat (ids : List String)
  | byNumaNode (nodes : Dictionary (List String))
  deriving DecidableEq

/-- The devices of one resource that one container holds. -/
structure Checkpoint.Entry where
  podUid : String
  containerName : String
  resourceName : String
  deviceIds : Option Checkpoint.DeviceIds := none
  allocResp : Option String := none
  deriving DecidableEq

/-- A checkpoint of the kubelet's device manager. -/
structure Checkpoint where
  entries : Option (List Checkpoint.Entry) := none
  registeredDevices : Option (Dictionary (List String)) := none
  checksum : UInt64 := 0
  deriving DecidableEq

namespace Checkpoint

/-- The ids of all nodes, the nodes in the order of their names. -/
def DeviceIds.toList : DeviceIds → List String
  | .flat ids => ids
  | .byNumaNode nodes => nodes.entries.flatMap Prod.snd

/-- Reads device ids: a list as a flat one, an object by its nodes. -/
def DeviceIds.ofJson? (document : Json) : Option DeviceIds :=
  match Json.list? Json.text? document with
  | some ids => some (.flat ids)
  | none => (Json.dictionary? (Json.list? Json.text?) document).map .byNumaNode

/-- The document of device ids. -/
def DeviceIds.toJson : DeviceIds → Json
  | .flat ids => Json.list Json.text ids
  | .byNumaNode nodes => Json.dictionary (Json.list Json.text) nodes

/-- Reads an entry. -/
def Entry.ofJson? (document : Json) : Option Entry := do
  let record ← document.record?
    ["PodUID", "ContainerName", "ResourceName", "DeviceIDs", "AllocResp"]
  return {
    podUid := ← record.required? "PodUID" Json.text?
    containerName := ← record.required? "ContainerName" Json.text?
    resourceName := ← record.required? "ResourceName" Json.text?
    deviceIds := ← record.default? "DeviceIDs" none (Json.optional? DeviceIds.ofJson?)
    allocResp := ← record.default? "AllocResp" none (Json.optional? Json.text?)
  }

/-- The document of an entry. -/
def Entry.toJson (entry : Entry) : Json :=
  .record [
    ("PodUID", .text entry.podUid),
    ("ContainerName", .text entry.containerName),
    ("ResourceName", .text entry.resourceName),
    ("DeviceIDs", Json.optional DeviceIds.toJson entry.deviceIds),
    ("AllocResp", Json.optional Json.text entry.allocResp)
  ]

/-- Reads the data of a checkpoint, which its checksum is about. -/
def data? (document : Json)
    : Option (Option (List Entry) × Option (Dictionary (List String))) := do
  let record ← document.record? ["PodDeviceEntries", "RegisteredDevices"]
  return (
    ← record.default? "PodDeviceEntries" none (Json.optional? (Json.list? Entry.ofJson?)),
    ← record.default? "RegisteredDevices" none
      (Json.optional? (Json.dictionary? (Json.list? Json.text?))))

/-- Reads a checkpoint from a document. -/
def ofJson? (document : Json) : Option Checkpoint := do
  let record ← document.record? ["Data", "Checksum"]
  let (entries, registeredDevices) ← record.required? "Data" data?
  return {
    entries
    registeredDevices
    checksum := ← record.default? "Checksum" 0 Json.uint64?
  }

/-- The document of a checkpoint. -/
def toJson (checkpoint : Checkpoint) : Json :=
  .record [
    ("Data", .record [
      ("PodDeviceEntries", Json.optional (Json.list Entry.toJson) checkpoint.entries),
      ("RegisteredDevices",
        Json.optional (Json.dictionary (Json.list Json.text)) checkpoint.registeredDevices)]),
    ("Checksum", .int checkpoint.checksum.toNat)
  ]

/-- The assigned device ids of each resource. -/
def assignments (checkpoint : Checkpoint) : Assignments :=
  .aggregate ((checkpoint.entries.getD []).map fun entry =>
    (entry.resourceName, (entry.deviceIds.map DeviceIds.toList).getD []))

end Checkpoint

end NodeDevices
