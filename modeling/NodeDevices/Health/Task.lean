import NodeDevices.Health.Polling
/-! The task that polls a monitor until it is told to stop, with the time that its probes take. A
poll that is over is followed by a wait; what comes first, the end of the wait or of the task, is
what it goes on with, and when both have come, it may be either. Times are in milliseconds.
-/

namespace NodeDevices.Health

/-- The interval between polls, when none is given. -/
def defaultInterval : Nat := 10000

/-- What a task that polls is at. -/
inductive Task.Phase where
  /-- Is about to poll. -/
  | ready
  | polling
  /-- Waits for the given time. -/
  | sleeping (due : Nat)
  | ended
  deriving DecidableEq, Repr

/-- A task that polls a monitor. -/
structure Task where
  polling : Polling
  now : Nat := 0
  phase : Task.Phase := .ready
  deriving DecidableEq

namespace Task

/-- A step of a task or of its surroundings. -/
inductive Action where
  | elapse (time : Nat)
  /-- Something happens to the monitor that neither begins nor ends a poll. -/
  | act (action : Polling.Action)
  /-- Looks whether to stop, and begins a poll if not. -/
  | check
  /-- Ends a poll, and begins to wait. -/
  | rest
  | wake
  | quit
  deriving DecidableEq, Repr

/-- Says whether the task itself takes a step. -/
def Action.isOwn : Action → Bool
  | .act .ask | .act (.answer _) | .check | .rest | .wake | .quit => true
  | _ => false

/-- A task that begins. -/
def start (roster : Roster) : Task where
  polling := .start roster

/-- The device that is being probed. -/
def asked (task : Task) : Option Device :=
  task.polling.call.bind Polling.Call.asked

/-- Says whether a number of milliseconds can pass: in a probe, or in a wait up to its end. -/
def lets (task : Task) (time : Nat) : Bool :=
  match task.phase with
  | .ready => false
  | .polling => task.asked.isSome
  | .sleeping due => !task.polling.stopped && task.now + time ≤ due
  | .ended => true

/-- The task after an action, if it can happen. -/
def step? (interval : Nat) (task : Task) : Action → Option Task
  | .elapse time => if task.lets time then some { task with now := task.now + time } else none
  | .act action =>
      if action = .call ∨ action = .finish then none
      else (task.polling.step? action).map fun polling => { task with polling }
  | .check =>
      if task.phase ≠ .ready then none
      else if task.polling.stopped then some { task with phase := .ended }
      else
        (task.polling.step? .call).map fun polling => { task with polling, phase := .polling }
  | .rest =>
      (task.polling.step? .finish).map fun polling =>
        { task with polling, phase := .sleeping (task.now + interval) }
  | .wake =>
      match task.phase with
      | .sleeping due => if due ≤ task.now then some { task with phase := .ready } else none
      | _ => none
  | .quit =>
      match task.phase with
      | .sleeping _ =>
          if task.polling.stopped then some { task with phase := .ended } else none
      | _ => none

end Task

end NodeDevices.Health
