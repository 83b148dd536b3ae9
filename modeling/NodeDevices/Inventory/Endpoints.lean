import NodeDevices.Json.Shape
/-! The paths at which the inventory is asked. -/

namespace NodeDevices.Inventory

/-- The paths of the inventory's calls. -/
structure Endpoints where
  listDevices : String := "/api/v3/list/node/devices"
  health : String := "/api/v3/device/\x7buuid\x7d/healthy"
  reportAllocation : String := "/api/v3/updatemany/devices/allocated"
  addressing : String := "/api/v3/list/devices"
  deriving DecidableEq, Repr

namespace Endpoints

/-- The names of the paths in a document. -/
def fieldNames : List String :=
  ["list_devices_path", "health_path", "report_allocation_path", "addressing_path"]

/-- Reads paths, each of which may be missing. -/
def ofRecord? {α : Type} (text? : α → Option String) (record : Record α) : Option Endpoints := do
  let standard : Endpoints := {}
  return {
    listDevices := ← record.default? "list_devices_path" standard.listDevices text?
    health := ← record.default? "health_path" standard.health text?
    reportAllocation :=
      ← record.default? "report_allocation_path" standard.reportAllocation text?
    addressing := ← record.default? "addressing_path" standard.addressing text?
  }

/-- Reads paths from a JSON document. -/
def ofJson? (document : Json) : Option Endpoints :=
  document.record? fieldNames >>= ofRecord? Json.text?

end Endpoints

end NodeDevices.Inventory
