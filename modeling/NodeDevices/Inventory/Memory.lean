import NodeDevices.Allocation
/-! An inventory held in memory, for runs without a server. -/

namespace NodeDevices.Inventory

/-- Devices by type, the answers of probes, a table of addresses, and the reports made. -/
structure Memory where
  devices : List (String × List Device) := []
  probes : List (Int64 × Bool) := []
  addresses : List PcieAddress := []
  addressingFails : Bool := false
  reports : List (List String) := []

namespace Memory

/-- The devices last given for a type, all of them healthy. -/
def list (memory : Memory) (deviceType : String) : List Device :=
  ((memory.devices.reverse.lookup deviceType).getD []).map ({ · with health := .healthy })

/-- The answer last given for a number; an unknown device is healthy. -/
def probe (memory : Memory) (uuid : Int64) : Bool :=
  (memory.probes.lookup uuid).getD true

/-- Sets the answer for a number. -/
def setProbe (memory : Memory) (uuid : Int64) (answer : Bool) : Memory :=
  { memory with probes := (uuid, answer) :: memory.probes }

/-- The addresses of some devices in the order asked for, as far as they are known, unless
lookups fail.
-/
def lookup? (memory : Memory) (ids : List String) : Option (List PcieAddress) :=
  if memory.addressingFails then none
  else some (ids.filterMap fun id => memory.addresses.reverse.find? (·.ip = id))

/-- Serves a request for devices, with the inventory after it. -/
def allocate (memory : Memory) (cls : DeviceClass) (roster : Roster)
    (requests : List (List String)) : Allocation.Outcome × Memory :=
  let outcome := Allocation.allocate cls roster (fun _ => memory.lookup?) requests
  (outcome,
    { memory with reports := memory.reports ++ Allocation.reported outcome.calls })

end Memory

end NodeDevices.Inventory
