import NodeDevices.Json.Shape
import NodeDevices.Text.LetterCase
/-! Classes of devices: a vendor's device type, the names derived from it, and how its
containers learn where their devices are found.
-/

namespace NodeDevices

/-- How the containers of a class learn where their devices are found. -/
inductive AddressingMode where
  | fetch
  | flagOnly
  | none
  deriving DecidableEq, Repr

namespace AddressingMode

/-- The name of a mode. -/
def name : AddressingMode → String
  | .fetch => "fetch"
  | .flagOnly => "flag_only"
  | .none => "none"

/-- The mode with a name. -/
def ofName? (name : String) : Option AddressingMode :=
  [AddressingMode.fetch, .flagOnly, .none].find? (·.name = name)

/-- Reads a mode: its name, or an object whose only member has that name and says nothing. -/
def ofJson? : Json → Option AddressingMode
  | .str (some name) => ofName? name
  | .obj [(some name, .null)] => ofName? name
  | _ => Option.none

end AddressingMode

/-- A class of devices. -/
structure DeviceClass where
  vendor : String
  deviceType : String
  addressing : AddressingMode := .none
  deriving DecidableEq, Repr

namespace DeviceClass

/-- The name under which containers ask for devices of the class. -/
def resourceName (cls : DeviceClass) : String :=
  cls.vendor ++ "/" ++ cls.deviceType

/-- The environment variable that lists the devices of a container. -/
def deviceListEnv (cls : DeviceClass) : String :=
  Text.LetterCase.upper cls.vendor ++ "_DEVICE_" ++ cls.deviceType ++ "_IP_LIST"

/-- The file name of the socket that the class is served on. -/
def socketName (cls : DeviceClass) : String :=
  cls.vendor ++ "_" ++ cls.deviceType ++ ".sock"

/-- Says whether the devices of the class are found behind PCIe addresses. -/
def hasPcieAddress (cls : DeviceClass) : Bool :=
  cls.addressing ≠ .none

end DeviceClass

end NodeDevices
