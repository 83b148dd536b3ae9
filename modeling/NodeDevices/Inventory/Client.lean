import NodeDevices.Device
import NodeDevices.Http.Exchange
import NodeDevices.Inventory.Address
import NodeDevices.Inventory.DeviceRecord
import NodeDevices.Inventory.Endpoints
import NodeDevices.Inventory.Envelope
import NodeDevices.Inventory.Request
import NodeDevices.Json.Kept
import NodeDevices.Json.Printer
/-! The inventory as it is asked over a network. Each call has a strict form, which says why
it fails. Of these only the lookup of addresses is used as it is: a list that cannot be had
is empty, a probe without an answer finds the device healthy, and a report may get lost.
-/

namespace NodeDevices.Inventory

open Http

/-- Why a call fails. -/
inductive CallError where
  | request (reason : String)
  | httpStatus (status : Nat)
  | decode (reason : String)
  | service (code : Int32) (reason : String)
  deriving DecidableEq, Repr

/-- The text of an error. -/
def CallError.message : CallError → String
  | .request reason => "Inventory request failed: " ++ reason
  | .httpStatus status => "Inventory answered with HTTP " ++ Text.Decimal.ofInt status
  | .decode reason => "Failed to decode inventory response: " ++ reason
  | .service code reason =>
      "Inventory returned code " ++ Text.Decimal.ofInt code.toInt ++ ": " ++ reason

/-- A client: the address of the server, and the paths of the calls. -/
structure Client where
  server : String
  endpoints : Endpoints := {}
  deriving DecidableEq, Repr

namespace Client

/-- How long an answer may take when nothing else is said, in milliseconds. -/
def defaultTimeout : Nat := 10000

/-- The client of a server whose address is given in any form. -/
def ofServer (raw : String) (endpoints : Endpoints) : Client :=
  { server := normalizeAddress raw, endpoints }

/-- The headers of every request. -/
def headers : List (String × String) := [
  ("content-type", "application/json"),
  ("accept", "application/json"),
  ("x-forwarded-user", ""),
  ("x-forwarded-uid", "")
]

/-- The request of a call. -/
def request (client : Client) (method : Method) (path body : String)
    : Except CallError Request :=
  match Url.parse? (client.server ++ path) with
  | none => .error (.request "builder error")
  | some url =>
      if url.isRequestable then .ok { method, url, headers, body }
      else .error (.request ("builder error for url (" ++ url.render ++ ")"))

/-- The payload of a reply, which is missing when the server has none. -/
def payload {α : Type} (payload? : Json → Option α) (url : Url) : Reply → Except CallError (Option α)
  | .lost => .error (.request ("error sending request for url (" ++ url.render ++ ")"))
  | .answered status body =>
      if isSuccess status then
        match Json.ofBytes? body >>= Envelope.ofJson? payload? with
        | none => .error (.decode "error decoding response body")
        | some envelope =>
            if envelope.isSuccess then .ok envelope.data
            else .error (.service envelope.code envelope.errMsg)
      else .error (.httpStatus status)

/-- Makes a call. -/
def call {α : Type} (client : Client) (transport : Transport) (method : Method)
    (path body : String) (payload? : Json → Option α) : Except CallError (Option α) := do
  let request ← client.request method path body
  payload payload? request.url (transport request)

/-- The online devices under a device type. -/
def onlineDevices (deviceType : String) (lists : DeviceLists) : List Device :=
  ((lists.find? deviceType).getD []).filterMap fun device =>
    if device.isOnline then some { id := device.ip, uuid := device.id } else none

/-- The online devices of a type that are bound to a node, or why they are not known. -/
def tryListDevices (client : Client) (transport : Transport) (node deviceType : String)
    : Except CallError (List Device) := do
  let query : DeviceQuery := { node, deviceType }
  let lists ← client.call transport .post client.endpoints.listDevices query.toJson.render
    DeviceLists.ofJson?
  return onlineDevices deviceType (lists.getD ∅)

/-- The online devices of a type that are bound to a node, as far as they are known. -/
def listDevices (client : Client) (transport : Transport) (node deviceType : String)
    : List Device :=
  (client.tryListDevices transport node deviceType).toOption.getD []

/-- The place of a device's number in the path of a probe. -/
def placeholder : String := "\x7buuid\x7d"

/-- The path at which a device is probed. -/
def probePath (template : String) (uuid : Int64) : String :=
  String.ofList
    (Text.replace placeholder.toList (Text.Decimal.signed uuid.toInt) template.toList)

/-- Whether a device is healthy, or why that is not known. -/
def tryProbe (client : Client) (transport : Transport) (uuid : Int64)
    : Except CallError Bool := do
  let path := probePath client.endpoints.health uuid
  match ← client.call transport .get path "" Json.bool? with
  | some healthy => return healthy
  | none => throw (.decode "health response without data")

/-- Whether a device is healthy; one that is not known to be ill counts as healthy. -/
def probe (client : Client) (transport : Transport) (uuid : Int64) : Bool :=
  (client.tryProbe transport uuid).toOption.getD true

/-- The levels of nesting that the payload of a report's answer may have. -/
def payloadLevels : Nat := 126

/-- Reports devices as allocated. -/
def tryReport (client : Client) (transport : Transport) (ids : List String)
    : Except CallError Unit := do
  let notices := ids.map fun ip => ({ ip, allocated := true } : AllocationNotice)
  let _ ← client.call transport .put client.endpoints.reportAllocation
    (Json.list AllocationNotice.toJson notices).render (Json.kept? payloadLevels)

/-- The addressing information of devices. -/
def addressing (client : Client) (transport : Transport) (ids : List String)
    : Except CallError (List PcieAddress) := do
  let query : AddressQuery := ⟨ids⟩
  let found ← client.call transport .post client.endpoints.addressing query.toJson.render
    (Json.list? PcieAddress.ofJson?)
  return found.getD []

end Client

end NodeDevices.Inventory
