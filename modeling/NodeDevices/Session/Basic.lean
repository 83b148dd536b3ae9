import NodeDevices.Session.Stream
/-! A session: a roster, the channel of its health events, and the streams that were opened.
Everything that happens in it is an action; the feeders act in any order.
-/

namespace NodeDevices

open Health Session

/-- A session of a plugin. -/
structure Session where
  roster : Roster
  channel : Channel := {}
  stopped : Bool := false
  streams : List Stream := []
  deriving DecidableEq

namespace Session

/-- Something that happens in a session. -/
inductive Action where
  /-- A client opens a stream. -/
  | watch
  /-- A client hangs up. -/
  | hangUp (stream : Nat)
  /-- A client takes what comes next. -/
  | read (stream : Nat)
  /-- An event is sent. -/
  | send (event : Event)
  /-- No further event can be sent. -/
  | closeEvents
  | stop
  /-- The feeder of a stream looks at the next device for its first list. -/
  | look (stream : Nat)
  /-- The feeder of a stream pushes its first list. -/
  | begin (stream : Nat)
  /-- The feeder of a stream takes the event reader. -/
  | take (stream : Nat)
  /-- The feeder of a stream receives an event. -/
  | receive (stream : Nat)
  /-- The feeder of a stream stores the health that its event brings. -/
  | store (stream : Nat)
  /-- The feeder of a stream pushes a list. -/
  | push (stream : Nat)
  /-- The feeder of a stream ends. -/
  | quit (stream : Nat)
  deriving DecidableEq, Repr

/-- Says whether no stream holds the event reader. -/
def readerFree (session : Session) : Bool :=
  session.streams.all (!·.holdsReader)

/-- The events that feeders have received and not stored yet. -/
def inHand (session : Session) : List Event :=
  session.streams.filterMap Stream.inHand?

/-- Puts a stream in the place of the one with a number. -/
def replace (session : Session) (number : Nat) (stream : Stream) : Session :=
  { session with streams := session.streams.set number stream }

/-- Changes the stream with a number, if there is one and it can be changed. -/
def change? (session : Session) (number : Nat) (change : Stream → Option Stream)
    : Option Session := do
  let stream ← session.streams[number]?
  let changed ← change stream
  return session.replace number changed

/-- The session after the feeder of a stream received something. Missed events are passed
over.
-/
def receive? (session : Session) (number : Nat) : Option Session := do
  let stream ← session.streams[number]?
  if stream.phase ≠ .reading then none
  else
    let (received, channel) := session.channel.receive
    match received with
    | .nothing => none
    | .lagged _ => return { session with channel }
    | .closed => return { session.replace number { stream with phase := .ended } with channel }
    | .event event =>
        return { session.replace number { stream with phase := .storing event } with channel }

/-- The session after the feeder of a stream stored the health of the event in its hand. Only
the holder of the reader stores anything, so that the list it makes next is the roster's.
-/
def store? (session : Session) (number : Nat) : Option Session := do
  let stream ← session.streams[number]?
  let event ← stream.inHand?
  let roster := session.roster.setHealth event.id event.health
  return { session.replace number (stream.announce roster.healthView) with roster }

/-- The session after an action, if it can happen. -/
def step? (session : Session) : Action → Option Session
  | .watch => some { session with streams := session.streams ++ [{}] }
  | .hangUp number => session.change? number fun stream => some { stream with connected := false }
  | .read number => session.change? number fun stream => some stream.next.2
  | .send event =>
      if session.channel.closed then none
      else some { session with channel := session.channel.send event }
  | .closeEvents => some { session with channel := { session.channel with closed := true } }
  | .stop => some { session with stopped := true }
  | .look number => session.change? number (·.look? session.roster.healthView)
  | .begin number => session.change? number (·.begin? session.roster.size)
  | .take number =>
      if session.readerFree then session.change? number (·.take? session.roster.healthView)
      else none
  | .receive number => session.receive? number
  | .store number => session.store? number
  | .push number => session.change? number Stream.push?
  | .quit number =>
      session.change? number fun stream =>
        if session.stopped ∨ !stream.connected then stream.quit? else none

/-- Sets the health of a device from outside. -/
def setHealth (session : Session) (id : String) (health : Health) : Session :=
  { session with roster := session.roster.setHealth id health }

end Session

end NodeDevices
