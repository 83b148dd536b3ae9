import NodeDevices.Device
import NodeDevices.DeviceClass
import NodeDevices.Inventory.Request
import NodeDevices.Json.Writer
/-! Allocation of devices to containers. A request is checked as a whole before anything
else happens; then each container in turn has its devices looked up, when its class asks
for that, and reported, before its environment is made.
-/

namespace NodeDevices

/-- Why an allocation fails. -/
inductive AllocationError where
  | unknownDevice (resource id : String)
  | addressingInfo (resource : String)
  /-- What a container is told about its devices cannot be written. -/
  | encoding (reason : Json.WriteError)
  deriving DecidableEq, Repr

/-- The text of an error. -/
def AllocationError.message : AllocationError → String
  | .unknownDevice resource id =>
      "Invalid allocation request for " ++ resource ++ ": unknown device " ++ id
  | .addressingInfo resource => "Failed to fetch addressing info for " ++ resource
  | .encoding reason => "Failed to encode addressing info: " ++ reason.message

/-- What kind of failure a client is told over its connection. -/
inductive StatusCode where
  | invalidArgument
  | internal
  deriving DecidableEq, Repr

/-- The name of a kind of failure. -/
def StatusCode.name : StatusCode → String
  | .invalidArgument => "InvalidArgument"
  | .internal => "Internal"

/-- What a client is told over its connection when its call fails. -/
structure Status where
  code : StatusCode
  message : String
  deriving DecidableEq, Repr

/-- What the client of an allocation is told when it fails. -/
def AllocationError.status (error : AllocationError) : Status where
  code :=
    match error with
    | .unknownDevice .. => .invalidArgument
    | .addressingInfo .. | .encoding _ => .internal
  message := error.message

namespace Allocation

open Inventory

/-- A call that an allocation makes to the inventory. -/
inductive Call where
  | lookup (ids : List String)
  | report (ids : List String)
  deriving DecidableEq, Repr

/-- The environment of a container. -/
abbrev Environment := Dictionary String

/-- How an allocation ended, and the calls it made in their order. -/
structure Outcome where
  result : Except AllocationError (List Environment)
  calls : List Call

/-- What the client of an allocation gets over its connection. -/
def Outcome.reply (outcome : Outcome) : Except Status (List Environment) :=
  outcome.result.mapError AllocationError.status

/-- The variable with the addresses of a container's devices. -/
def pcieInfoEnv : String := "PCIE_INFO"

/-- The variable that says whether a container's devices have such addresses. -/
def pcieFlagEnv : String := "PCIE_FLAG"

/-- The first requested device that is not in the roster. -/
def firstUnknown? (roster : Roster) (requests : List (List String)) : Option String :=
  requests.flatten.find? (!roster.contains ·)

/-- Checks that every requested device is in the roster. -/
def validate (cls : DeviceClass) (roster : Roster) (requests : List (List String))
    : Except AllocationError Unit :=
  match firstUnknown? roster requests with
  | some id => .error (.unknownDevice cls.resourceName id)
  | none => .ok ()

/-- The ids joined by commas. -/
def joinIds (ids : List String) : String :=
  ",".intercalate ids

/-- What a container is told about its devices, written for it. -/
def encode (ids : List String) (addresses : List PcieAddress) : Except AllocationError String :=
  (ContainerAddressing.mk (joinIds ids) addresses).toJson.write.mapError .encoding

/-- Sets the variables of a container with the given devices, where a variable that is set again
has its last value.
-/
def makeEnvironment (cls : DeviceClass) (ids : List String) (addresses : List PcieAddress)
    : Except AllocationError Environment := do
  let informed ←
    if cls.addressing = .fetch then
      (encode ids addresses).map (Dictionary.empty.insert pcieInfoEnv)
    else .ok .empty
  let flagged := informed.insert pcieFlagEnv (if cls.hasPcieAddress then "true" else "false")
  return flagged.insert cls.deviceListEnv (joinIds ids)

/-- Serves containers one after another up to the first that fails. The lookup of each container
is given by its position. A container whose environment cannot be made was reported all the same.
-/
def serve (cls : DeviceClass) (lookup? : Nat → List String → Option (List PcieAddress))
    : Nat → List (List String) → Outcome
  | _, [] => ⟨.ok [], []⟩
  | position, ids :: rest =>
      let addresses? := if cls.addressing = .fetch then lookup? position ids else some []
      let asked := if cls.addressing = .fetch then [Call.lookup ids] else []
      match addresses? with
      | none => ⟨.error (.addressingInfo cls.resourceName), asked⟩
      | some addresses =>
          let calls := asked ++ [.report ids]
          match makeEnvironment cls ids addresses with
          | .error e => ⟨.error e, calls⟩
          | .ok environment =>
              let served := serve cls lookup? (position + 1) rest
              ⟨served.result.map (environment :: ·), calls ++ served.calls⟩

/-- Serves a request. -/
def allocate (cls : DeviceClass) (roster : Roster)
    (lookup? : Nat → List String → Option (List PcieAddress)) (requests : List (List String))
    : Outcome :=
  match validate cls roster requests with
  | .error e => ⟨.error e, []⟩
  | .ok _ => serve cls lookup? 0 requests

/-- The device lists that were reported among some calls. -/
def reported (calls : List Call) : List (List String) :=
  calls.filterMap fun
    | .report ids => some ids
    | .lookup _ => none

end Allocation

end NodeDevices
