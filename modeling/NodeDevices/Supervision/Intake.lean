import NodeDevices.Supervision.Work
/-! The events of a supervisor's queue come from two sources. The watch on the kubelet's socket
drops an event for which there is no room; the listener to signals waits until there is, and
listens no more once a signal has asked for the end.
-/

namespace NodeDevices

/-- A signal to the daemon. -/
inductive Signal where
  | hangup
  | interrupt
  | terminate
  | quit
  deriving DecidableEq, Repr

/-- The event that a signal stands for. -/
def Signal.event : Signal → Supervision.Event
  | .hangup => .reconfigure
  | .interrupt | .terminate | .quit => .terminate

namespace Supervision

/-- What the listener to signals is at. -/
inductive Listener where
  | listening
  /-- It has an event that there was no place for yet. -/
  | waiting (event : Event)
  /-- A place in the queue is kept for its event. -/
  | reserved (event : Event)
  | ended
  deriving DecidableEq, Repr

/-- The places of the queue that are kept for a listener. -/
def Listener.places : Listener → Nat
  | .reserved _ => 1
  | _ => 0

/-- A supervisor at work with the listener to signals. -/
structure Intake (σ : Type) where
  work : Work σ
  listener : Listener := .listening

namespace Intake

/-- Something that happens around a supervisor's queue. -/
inductive Action where
  /-- The watch sees that the kubelet's socket was made anew. -/
  | notice
  /-- The listener takes in a signal. -/
  | signal (signal : Signal)
  /-- The listener gets a place in the queue. -/
  | reserve
  /-- The listener puts its event into the queue. -/
  | forward
  /-- A number of milliseconds passes. -/
  | elapse (time : Nat)
  /-- The supervisor itself takes an action. -/
  | act (action : Work.Action)
  deriving DecidableEq, Repr

variable {σ : Type}

/-- The places of the queue that are not free. -/
def taken (intake : Intake σ) : Nat :=
  intake.work.run.queue.length + intake.listener.places

/-- Puts an event into the queue, if it is still read, and says whether it was. -/
def send (intake : Intake σ) (event : Event) : Bool × Intake σ :=
  let (accepted, run) := intake.work.run.send event
  (accepted, { intake with work := { intake.work with run } })

/-- The intake after an action, if it can happen. -/
def step? (fleet : Fleet σ) (backoff : Nat) (intake : Intake σ) : Action → Option (Intake σ)
  | .notice =>
      some (if intake.taken < queueCapacity then (intake.send .kubeletRestarted).2 else intake)
  | .signal signal =>
      match intake.listener with
      | .listening => some { intake with listener := .waiting signal.event }
      | _ => none
  | .reserve =>
      match intake.listener with
      | .waiting event =>
          if intake.work.run.done then some { intake with listener := .ended }
          else if intake.taken < queueCapacity then
            some { intake with listener := .reserved event }
          else none
      | _ => none
  | .forward =>
      match intake.listener with
      | .reserved event =>
          let (accepted, sent) := intake.send event
          some { sent with
            listener := if accepted ∧ event ≠ .terminate then .listening else .ended }
      | _ => none
  | .elapse time =>
      (intake.work.step? fleet backoff (.elapse time)).map fun work => { intake with work }
  | .act action =>
      if action.isOwn then
        (intake.work.step? fleet backoff action).map fun work => { intake with work }
      else none

/-- Performs an action, if it can happen. -/
def perform (fleet : Fleet σ) (backoff : Nat) (intake : Intake σ) (action : Action) : Intake σ :=
  (intake.step? fleet backoff action).getD intake

/-- Lets the supervisor act until it waits. -/
def settle (fleet : Fleet σ) (backoff : Nat) (intake : Intake σ) : Intake σ :=
  { intake with work :=
    { intake.work with run := intake.work.run.settle fleet backoff Run.instantBound } }

end Intake

end Supervision

end NodeDevices
