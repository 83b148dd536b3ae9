import NodeDevices.Json.Shape
import NodeDevices.Time.Timestamp
/-! The inventory's record of a device, as it is written in JSON. Only the number and the
address of a device must be given.
-/

namespace NodeDevices.Inventory

/-- A device as the inventory stores it. -/
structure DeviceRecord where
  id : Int64
  ip : String
  chipType : String := ""
  chipNum : Int8 := 0
  status : Int8 := 0
  queueName : String := ""
  bindNode : String := ""
  deviceType : String := ""
  systemVersion : String := ""
  registerTime : Option Time.Timestamp := none
  lastAliveTime : Option Time.Timestamp := none
  isReserved : Int8 := 0
  location : String := ""
  tags : String := ""
  deriving DecidableEq

/-- The devices that the inventory lists, by device type. -/
abbrev DeviceLists := Dictionary (List DeviceRecord)

namespace DeviceRecord

/-- The status of a device that is offline. -/
def offline : Int8 := 1

/-- Says whether a device is online: any status but one counts as such. -/
def isOnline (device : DeviceRecord) : Bool :=
  device.status ≠ offline

/-- Reads an instant. -/
def timestamp? (document : Json) : Option Time.Timestamp :=
  document.text? >>= Time.Timestamp.parse?

/-- The instant as a document. -/
def timestamp (t : Time.Timestamp) : Json :=
  .text t.render

/-- The names of the fields in their written order. -/
def fieldNames : List String :=
  ["id", "ip", "chip_type", "chip_num", "status", "queue_name", "bind_node", "device_type",
    "system_version", "register_time", "last_alive_time", "is_reserved", "location", "tags"]

/-- Reads a device record. -/
def ofJson? (document : Json) : Option DeviceRecord := do
  let record ← document.record? fieldNames
  return {
    id := ← record.required? "id" Json.int64?
    ip := ← record.required? "ip" Json.text?
    chipType := ← record.default? "chip_type" "" Json.text?
    chipNum := ← record.default? "chip_num" 0 Json.int8?
    status := ← record.default? "status" 0 Json.int8?
    queueName := ← record.default? "queue_name" "" Json.text?
    bindNode := ← record.default? "bind_node" "" Json.text?
    deviceType := ← record.default? "device_type" "" Json.text?
    systemVersion := ← record.default? "system_version" "" Json.text?
    registerTime := ← record.default? "register_time" none (Json.optional? timestamp?)
    lastAliveTime := ← record.default? "last_alive_time" none (Json.optional? timestamp?)
    isReserved := ← record.default? "is_reserved" 0 Json.int8?
    location := ← record.default? "location" "" Json.text?
    tags := ← record.default? "tags" "" Json.text?
  }

/-- The document of a device record. -/
def toJson (device : DeviceRecord) : Json :=
  .record [
    ("id", .int device.id.toInt),
    ("ip", .text device.ip),
    ("chip_type", .text device.chipType),
    ("chip_num", .int device.chipNum.toInt),
    ("status", .int device.status.toInt),
    ("queue_name", .text device.queueName),
    ("bind_node", .text device.bindNode),
    ("device_type", .text device.deviceType),
    ("system_version", .text device.systemVersion),
    ("register_time", Json.optional timestamp device.registerTime),
    ("last_alive_time", Json.optional timestamp device.lastAliveTime),
    ("is_reserved", .int device.isReserved.toInt),
    ("location", .text device.location),
    ("tags", .text device.tags)
  ]

end DeviceRecord

/-- Reads the devices listed by device type. -/
def DeviceLists.ofJson? : Json → Option DeviceLists :=
  Json.dictionary? (Json.list? DeviceRecord.ofJson?)

/-- The document of the devices listed by device type. -/
def DeviceLists.toJson : DeviceLists → Json :=
  Json.dictionary (Json.list DeviceRecord.toJson)

end NodeDevices.Inventory
