import NodeDevices.Health.Monitor
/-! A monitor that is polled, call by call. A call goes through the devices, and looks before
each of them whether to stop. A probe takes a while, in which anything can happen around the
monitor: it is told to stop, somebody stores a health, or nobody reads the events any more.
-/

namespace NodeDevices.Health

/-- A call under way: the devices left, the one that is being probed, and the changes found. -/
structure Polling.Call where
  left : List Device
  asked : Option Device := none
  found : List Event := []
  deriving DecidableEq

/-- A monitor with the devices that it probes, and the channel that it sends to as long as
anybody can read from it.
-/
structure Polling where
  roster : Roster
  monitor : Monitor
  stopped : Bool := false
  outlet : Option Channel := some {}
  call : Option Polling.Call := none
  /-- The numbers of the devices probed. -/
  probes : List Int64 := []
  deriving DecidableEq

namespace Polling

/-- Something that happens to a monitor or around it. -/
inductive Action where
  /-- A call begins. -/
  | call
  /-- The next device is asked for. -/
  | ask
  /-- The probe under way is answered. -/
  | answer (result : Bool)
  /-- The call returns the changes that it found. -/
  | finish
  /-- The monitor is told to stop. -/
  | stop
  /-- Somebody stores the health of a device. -/
  | store (id : String) (health : Health)
  /-- Somebody takes what comes next from the channel. -/
  | receive
  /-- The last reader of the channel goes away. -/
  | abandon
  deriving DecidableEq, Repr

/-- A monitor that is made for a roster. -/
def start (roster : Roster) : Polling where
  roster
  monitor := .ofRoster roster

/-- What a call returns that is under way. -/
def found (polling : Polling) : List Event :=
  (polling.call.map Call.found).getD []

/-- The state after an action, if it can happen. -/
def step? (polling : Polling) : Action → Option Polling
  | .call =>
      match polling.call with
      | none => some { polling with call := some { left := polling.roster.devices } }
      | some _ => none
  | .ask =>
      match polling.call with
      | some { left := device :: left, asked := none, found } =>
          if polling.stopped then none
          else
            some { polling with
              call := some { left, asked := some device, found }
              probes := polling.probes ++ [device.uuid] }
      | _ => none
  | .answer result =>
      match polling.call with
      | some { left, asked := some device, found } =>
          let (event, monitor) := polling.monitor.observe device.id (ofProbe result)
          some { polling with
            monitor
            outlet := polling.outlet.map (event.toList.foldl Channel.send)
            call := some { left, found := found ++ event.toList } }
      | _ => none
  | .finish =>
      match polling.call with
      | some { left, asked := none, .. } =>
          if left = [] ∨ polling.stopped then some { polling with call := none } else none
      | _ => none
  | .stop => some { polling with stopped := true }
  | .store id health => some { polling with roster := polling.roster.setHealth id health }
  | .receive => some { polling with outlet := polling.outlet.map (·.receive.2) }
  | .abandon => some { polling with outlet := none }

/-- Performs an action, if it can happen. -/
def perform (polling : Polling) (action : Action) : Polling :=
  (polling.step? action).getD polling

/-- The probes of some devices, each with the answer for its number. -/
def probesOf (devices : List Device) (probe : Int64 → Bool) : List Action :=
  devices.flatMap fun device => [.ask, .answer (probe device.uuid)]

/-- Makes a call in which nothing else happens, with what it returns. -/
def poll (polling : Polling) (probe : Int64 → Bool) : List Event × Polling :=
  let probed := (.call :: probesOf polling.roster.devices probe).foldl perform polling
  (probed.found, probed.perform .finish)

end Polling

end NodeDevices.Health
