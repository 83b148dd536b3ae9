import NodeDevices.Json.Shape
/-! What is sent to the inventory, and the addressing information that it and the
containers exchange, as they are written in JSON.
-/

namespace NodeDevices.Inventory

/-- The query for the devices of one type that are bound to a node. -/
structure DeviceQuery where
  node : String
  deviceType : String
  deriving DecidableEq, Repr

/-- The query for the addressing information of some devices. -/
structure AddressQuery where
  ips : List String
  deriving DecidableEq, Repr

/-- One entry of a report on allocation. -/
structure AllocationNotice where
  ip : String
  allocated : Bool
  deriving DecidableEq, Repr

/-- Where a device is found behind its own address. -/
structure PcieAddress where
  ip : String
  vnetIp : String
  deriving DecidableEq, Repr

/-- What a container is told about its devices: their ids, joined by commas, and where
they are found.
-/
structure ContainerAddressing where
  device : String
  pcieInfo : List PcieAddress
  deriving DecidableEq, Repr

namespace DeviceQuery

/-- Reads a query. -/
def ofJson? (document : Json) : Option DeviceQuery := do
  let record ← document.record? ["node", "device_type"]
  return {
    node := ← record.required? "node" Json.text?
    deviceType := ← record.required? "device_type" Json.text?
  }

/-- The document of a query. -/
def toJson (query : DeviceQuery) : Json :=
  .record [("node", .text query.node), ("device_type", .text query.deviceType)]

end DeviceQuery

namespace AddressQuery

/-- Reads a query. -/
def ofJson? (document : Json) : Option AddressQuery := do
  let record ← document.record? ["ips"]
  return ⟨← record.required? "ips" (Json.list? Json.text?)⟩

/-- The document of a query. -/
def toJson (query : AddressQuery) : Json :=
  .record [("ips", Json.list Json.text query.ips)]

end AddressQuery

namespace AllocationNotice

/-- Reads an entry. -/
def ofJson? (document : Json) : Option AllocationNotice := do
  let record ← document.record? ["ip", "allocated"]
  return {
    ip := ← record.required? "ip" Json.text?
    allocated := ← record.required? "allocated" Json.bool?
  }

/-- The document of an entry. -/
def toJson (notice : AllocationNotice) : Json :=
  .record [("ip", .text notice.ip), ("allocated", .bool notice.allocated)]

end AllocationNotice

namespace PcieAddress

/-- Reads an address. -/
def ofJson? (document : Json) : Option PcieAddress := do
  let record ← document.record? ["ip", "vnet_ip"]
  return {
    ip := ← record.required? "ip" Json.text?
    vnetIp := ← record.required? "vnet_ip" Json.text?
  }

/-- The document of an address. -/
def toJson (address : PcieAddress) : Json :=
  .record [("ip", .text address.ip), ("vnet_ip", .text address.vnetIp)]

end PcieAddress

namespace ContainerAddressing

/-- Reads what a container is told. -/
def ofJson? (document : Json) : Option ContainerAddressing := do
  let record ← document.record? ["device", "pcie_info"]
  return {
    device := ← record.required? "device" Json.text?
    pcieInfo := ← record.required? "pcie_info" (Json.list? PcieAddress.ofJson?)
  }

/-- The document of what a container is told. -/
def toJson (addressing : ContainerAddressing) : Json :=
  .record [
    ("device", .text addressing.device),
    ("pcie_info", Json.list PcieAddress.toJson addressing.pcieInfo)
  ]

end ContainerAddressing

end NodeDevices.Inventory
