import NodeDevices.Dictionary
import NodeDevices.Health.Channel
/-! A monitor of device health: it remembers what each device's last probe said, and emits
an event when a probe says something else.
-/

namespace NodeDevices.Health

/-- What the last probe of each device said. -/
structure Monitor where
  lastObserved : Dictionary Health
  deriving DecidableEq

namespace Monitor

/-- A monitor that takes the health of a roster's devices for what was last observed. -/
def ofRoster (roster : Roster) : Monitor :=
  ⟨.ofList roster.healthView⟩

/-- Takes in what a probe of a device says, with the event if that is a change. -/
def observe (monitor : Monitor) (id : String) (health : Health) : Option Event × Monitor :=
  let previous := (monitor.lastObserved.find? id).getD .healthy
  (if previous = health then none else some ⟨id, health⟩,
    ⟨monitor.lastObserved.insert id health⟩)

/-- Takes in the answers of the probes of one poll, in their order. A poll that is cut short
has answers for the first devices only.
-/
def poll (monitor : Monitor) : List (String × Bool) → List Event × Monitor
  | [] => ([], monitor)
  | (id, answer) :: rest =>
      let (event, observed) := monitor.observe id (ofProbe answer)
      let (events, last) := observed.poll rest
      (event.toList ++ events, last)

end Monitor

/-- The answers of a poll of all devices of a roster, each asked for by its number. -/
def probeAll (roster : Roster) (probe : Int64 → Bool) : List (String × Bool) :=
  roster.devices.map fun device => (device.id, probe device.uuid)

end NodeDevices.Health
