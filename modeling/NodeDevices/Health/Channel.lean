import NodeDevices.Device
/-! The channel of health events from a monitor to the streams of its session. It holds a
bounded number of unread events; a further one takes the place of the oldest, and the
reader learns how many it has missed before it reads on.
-/

namespace NodeDevices.Health

/-- A change of a device's health. -/
structure Event where
  id : String
  health : Health
  deriving DecidableEq, Repr

/-- A channel: what its reader has not read yet, and how many events it has missed. -/
structure Channel where
  unread : List Event := []
  missed : Nat := 0
  closed : Bool := false
  deriving DecidableEq, Repr

namespace Channel

/-- The number of unread events that a channel holds. -/
def capacity : Nat := 64

/-- Sends an event. -/
def send (channel : Channel) (event : Event) : Channel :=
  let unread := channel.unread ++ [event]
  if capacity < unread.length then
    { channel with unread := unread.drop 1, missed := channel.missed + 1 }
  else { channel with unread }

/-- What a reader gets. -/
inductive Received where
  | event (event : Event)
  | lagged (missed : Nat)
  | closed
  | nothing
  deriving DecidableEq, Repr

/-- Takes what comes next from a channel. -/
def receive (channel : Channel) : Received × Channel :=
  if channel.missed ≠ 0 then (.lagged channel.missed, { channel with missed := 0 })
  else match channel.unread with
    | event :: rest => (.event event, { channel with unread := rest })
    | [] => (if channel.closed then .closed else .nothing, channel)

/-- Takes everything that a channel holds. -/
def drain (channel : Channel) : List Received × Channel :=
  ((if channel.missed ≠ 0 then [.lagged channel.missed] else [])
      ++ channel.unread.map Received.event,
    { channel with unread := [], missed := 0 })

end Channel

end NodeDevices.Health
