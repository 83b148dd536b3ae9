/-! Devices and the roster of a session: the devices that a session advertises, each id
once, whose health is all that changes.
-/

namespace NodeDevices

/-- Whether a device can be used. -/
inductive Health where
  | healthy
  | unhealthy
  deriving DecidableEq, Repr

namespace Health

/-- The name of a health. -/
def name : Health → String
  | .healthy => "Healthy"
  | .unhealthy => "Unhealthy"

/-- The health that a probe's answer stands for. -/
def ofProbe (answer : Bool) : Health :=
  if answer then .healthy else .unhealthy

end Health

/-- A device: its id within the class, and the number that the inventory knows it by. -/
structure Device where
  id : String
  uuid : Int64
  health : Health := .healthy
  deriving DecidableEq

/-- The devices of a session in their order. -/
structure Roster where
  devices : List Device
  deriving DecidableEq

namespace Roster

/-- Appends a device unless its id is taken. -/
def keepFirst (kept : List Device) (device : Device) : List Device :=
  if kept.any (·.id = device.id) then kept else kept ++ [device]

/-- The roster of a list of devices: of devices with one id the first stays. -/
def ofList (devices : List Device) : Roster :=
  ⟨devices.foldl keepFirst []⟩

/-- The ids in order. -/
def ids (roster : Roster) : List String :=
  roster.devices.map Device.id

/-- The number of devices. -/
def size (roster : Roster) : Nat :=
  roster.devices.length

/-- Says whether an id is in the roster. -/
def contains (roster : Roster) (id : String) : Bool :=
  roster.devices.any (·.id = id)

/-- The device with an id. -/
def get? (roster : Roster) (id : String) : Option Device :=
  roster.devices.find? (·.id = id)

/-- Sets the health of the device with an id. -/
def setHealth (roster : Roster) (id : String) (health : Health) : Roster :=
  ⟨roster.devices.map fun device => if device.id = id then { device with health } else device⟩

/-- The health of each device, in order. -/
def healthView (roster : Roster) : List (String × Health) :=
  roster.devices.map fun device => (device.id, device.health)

end Roster

end NodeDevices
