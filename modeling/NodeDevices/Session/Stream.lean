import NodeDevices.Health.Channel
/-! The streams of a session, on which the device list is pushed: at once when a stream
opens, and after each health event while the stream holds the event reader. One stream
holds the reader at a time; the others wait until it goes away.
-/

namespace NodeDevices.Session

open Health (Event)

/-- A device list as it is pushed: the health of each device. -/
abbrev View := List (String × Health)

/-- What the feeder of a stream is doing. -/
inductive Phase where
  /-- Makes its first list, of which it has seen some devices. -/
  | opening (seen : View)
  /-- Waits for the event reader. -/
  | waiting
  /-- Holds the reader and waits for an event. -/
  | reading
  /-- Holds the reader and an event whose health is not stored yet. -/
  | storing (event : Event)
  /-- Holds the reader and waits for room to push a list. -/
  | pushing (list : View)
  | ended
  deriving DecidableEq, Repr

/-- A stream: its feeder, the list made last, and the lists not yet taken by its client. -/
structure Stream where
  phase : Phase := .opening []
  sent : View := []
  buffer : List View := []
  connected : Bool := true
  deriving DecidableEq, Repr

namespace Stream

/-- The number of lists that a stream holds for its client. -/
def capacity : Nat := 16

/-- Says whether the feeder holds the event reader. -/
def holdsReader (stream : Stream) : Bool :=
  match stream.phase with
  | .reading | .storing _ | .pushing _ => true
  | _ => false

/-- The event that the feeder has received and not stored yet. -/
def inHand? (stream : Stream) : Option Event :=
  match stream.phase with
  | .storing event => some event
  | _ => none

/-- The feeder looks at the next device for its first list. Health may change in between. -/
def look? (stream : Stream) (view : View) : Option Stream :=
  match stream.phase with
  | .opening seen =>
      view[seen.length]?.map fun entry => { stream with phase := .opening (seen ++ [entry]) }
  | _ => none

/-- The feeder pushes its first list once it has seen the given number of devices; it ends
if the client is gone already.
-/
def begin? (stream : Stream) (size : Nat) : Option Stream :=
  match stream.phase with
  | .opening seen =>
      if seen.length < size then none
      else if stream.connected then
        some { stream with phase := .waiting, sent := seen, buffer := stream.buffer ++ [seen] }
      else some { stream with phase := .ended, sent := seen }
  | _ => none

/-- The feeder takes the event reader, and pushes a list if it is another than the last. -/
def take? (stream : Stream) (list : View) : Option Stream :=
  match stream.phase with
  | .waiting =>
      some (if list = stream.sent then { stream with phase := .reading }
      else { stream with phase := .pushing list, sent := list })
  | _ => none

/-- The feeder has stored the event in its hand, and makes the list to push for it. -/
def announce (stream : Stream) (list : View) : Stream :=
  { stream with phase := .pushing list, sent := list }

/-- The feeder has room for the list that it wants to push, or finds its client gone. -/
def push? (stream : Stream) : Option Stream :=
  match stream.phase with
  | .pushing list =>
      if !stream.connected then some { stream with phase := .ended }
      else if stream.buffer.length < capacity then
        some { stream with phase := .reading, buffer := stream.buffer ++ [list] }
      else none
  | _ => none

/-- The feeder ends while it waits. -/
def quit? (stream : Stream) : Option Stream :=
  match stream.phase with
  | .waiting | .reading => some { stream with phase := .ended }
  | _ => none

/-- What a client gets from a stream. -/
inductive Item where
  | list (view : View)
  | pending
  | finished
  deriving DecidableEq, Repr

/-- The client takes what comes next. -/
def next (stream : Stream) : Item × Stream :=
  match stream.buffer with
  | view :: rest => (.list view, { stream with buffer := rest })
  | [] => (if stream.phase = .ended then .finished else .pending, stream)

end Stream

end NodeDevices.Session
