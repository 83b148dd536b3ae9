import NodeDevices.Inventory.Client

/-! What a call takes from the reply that it gets, and the devices that a client lists: they
are those of the online records under their type. Whatever else comes of the request lists
nothing.
-/

namespace NodeDevices.Inventory

open Http

/-- The envelope in a reply that serves a call: the reply has a status of success, and the
envelope the return code of success.
-/
def served? {α : Type} (payload? : Json → Option α) : Reply → Option (Envelope α)
  | .lost => none
  | .answered status body =>
      if 200 ≤ status ∧ status < 300 then
        (Json.ofBytes? body >>= Envelope.ofJson? payload?).filter (·.code = 0)
      else none

/-- The records under a device type that a reply brings. -/
def listedRecords? (deviceType : String) (reply : Reply) : Option (List DeviceRecord) := do
  let envelope ← served? DeviceLists.ofJson? reply
  let lists ← envelope.data
  lists.find? deviceType

/-- The records under a device type that are online, as far as a reply brings them. -/
def onlineRecords (deviceType : String) (reply : Reply) : List DeviceRecord :=
  ((listedRecords? deviceType reply).getD []).filter (·.status ≠ 1)

/-- The device that a record is about. -/
def DeviceRecord.device (record : DeviceRecord) : Device where
  id := record.ip
  uuid := record.id

namespace Client

variable {α : Type} (client : Client) (transport : Transport)

/-- What comes of a call; one whose request cannot be made is lost. -/
def reply (method : Method) (path body : String) : Reply :=
  match client.request method path body with
  | .ok request => transport request
  | .error _ => .lost

/-- What comes of asking for the devices of a type on a node. -/
def listing (node deviceType : String) : Reply :=
  let query : DeviceQuery := { node, deviceType }
  client.reply transport .post client.endpoints.listDevices query.toJson.render

/-- The payload is had from a reply that serves the call, and from no other. -/
theorem toOption_payload (payload? : Json → Option α) (url : Url) (reply : Reply)
    : (payload payload? url reply).toOption = (served? payload? reply).map Envelope.data := by
  cases reply with
  | lost => rfl
  | answered status body =>
      by_cases success : 200 ≤ status ∧ status < 300
      · have accepted : isSuccess status = true := by simpa [isSuccess] using success
        simp only [payload, served?, if_pos accepted, if_pos success]
        cases Json.ofBytes? body >>= Envelope.ofJson? payload? with
        | none => rfl
        | some envelope =>
            by_cases zero : envelope.code = 0
            · have done : envelope.isSuccess = true := decide_eq_true zero
              simp [Option.filter, zero, done, Except.toOption]
            · have refused : envelope.isSuccess = false := decide_eq_false zero
              simp [Option.filter, zero, refused, Except.toOption]
      · have refused : isSuccess status = false := by simpa [isSuccess] using success
        simp [payload, served?, success, refused, Except.toOption]

/-- A call succeeds if its reply serves it, and has the payload of that. -/
theorem toOption_call (method : Method) (path body : String) (payload? : Json → Option α)
    : (client.call transport method path body payload?).toOption
      = (served? payload? (client.reply transport method path body)).map Envelope.data := by
  rw [call, reply]
  cases client.request method path body with
  | error reason => rfl
  | ok request => exact toOption_payload payload? request.url (transport request)

theorem onlineDevices_eq (deviceType : String) (lists : DeviceLists)
    : onlineDevices deviceType lists
      = (((lists.find? deviceType).getD []).filter (·.status ≠ 1)).map DeviceRecord.device := by
  rw [onlineDevices, ← List.filterMap_eq_map, List.filterMap_filter]
  rfl

/-- The devices that a client lists are those of the online records that its reply brings. -/
theorem listDevices_eq (node deviceType : String)
    : client.listDevices transport node deviceType
      = (onlineRecords deviceType (client.listing transport node deviceType)).map
          DeviceRecord.device := by
  let query : DeviceQuery := { node, deviceType }
  have called := client.toOption_call transport .post client.endpoints.listDevices
    query.toJson.render DeviceLists.ofJson?
  have taken
      : client.listDevices transport node deviceType
        = ((client.call transport .post client.endpoints.listDevices query.toJson.render
              DeviceLists.ofJson?).toOption.map
            fun lists => onlineDevices deviceType (lists.getD ∅)).getD [] := by
    rw [listDevices, tryListDevices]
    cases client.call transport .post client.endpoints.listDevices query.toJson.render
      DeviceLists.ofJson? <;> rfl
  rw [taken, called, onlineRecords, listedRecords?, listing]
  cases served? DeviceLists.ofJson?
      (client.reply transport .post client.endpoints.listDevices query.toJson.render) with
  | none => rfl
  | some envelope =>
      cases lists : envelope.data with
      | none => simp [lists]; rfl
      | some lists => simp [lists, onlineDevices_eq]

/-- A client lists its devices as healthy ones. -/
theorem health_of_mem_listDevices {node deviceType : String} {device : Device}
    (member : device ∈ client.listDevices transport node deviceType)
    : device.health = .healthy := by
  rw [client.listDevices_eq] at member
  obtain ⟨record, _, rfl⟩ := List.mem_map.mp member
  rfl

end Client

end NodeDevices.Inventory
