import NodeDevices.Device
/-! Ways to the devices of a roster. Whoever has one stores a health there, and is given the one
that was stored before.
-/

namespace NodeDevices

/-- What a device is, whatever its health: its id and its number. -/
def Device.identity (device : Device) : String × Int64 :=
  (device.id, device.uuid)

/-- A way to a device of a roster. -/
inductive Handle where
  /-- To the device at a position. -/
  | position (number : Nat)
  /-- To the device with an id. -/
  | id (id : String)
  deriving DecidableEq, Repr

namespace Roster

/-- The position of the device that a handle leads to. -/
def position? (roster : Roster) : Handle → Option Nat
  | .position number => if number < roster.size then some number else none
  | .id id => roster.devices.findIdx? (·.id = id)

/-- Stores a health in the device that a handle leads to, with the one that was stored there.
Nothing is stored when it leads nowhere.
-/
def exchange (roster : Roster) (handle : Handle) (health : Health) : Option Health × Roster :=
  match roster.position? handle with
  | some position =>
      (roster.devices[position]?.map Device.health,
        ⟨roster.devices.modify position fun device => { device with health }⟩)
  | none => (none, roster)

/-- Stores healths one after another, with what was stored before each of them. -/
def exchangeAll (roster : Roster) : List (Handle × Health) → List (Option Health) × Roster
  | [] => ([], roster)
  | (handle, health) :: rest =>
      let (given, stored) := roster.exchange handle health
      let (others, last) := stored.exchangeAll rest
      (given :: others, last)

end Roster

end NodeDevices
