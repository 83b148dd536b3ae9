import NodeDevices.Reconciliation.Schedule
/-! The task that keeps a schedule, with the time that its source takes to answer. While it waits,
it goes on at once with what it waits for or with its end, when it is cancelled; when both have
come, it may take either. In a round it waits for neither.
-/

namespace NodeDevices.Reconciliation

/-- A scheduler at work. -/
structure Task where
  state : State
  /-- When the next round is due, while the source of a round is asked. -/
  asking : Option Nat := none
  deriving DecidableEq, Repr

namespace Task

/-- A step of a task or of its surroundings. -/
inductive Action where
  | elapse (time : Nat)
  | cancel
  /-- The start-up delay is over. -/
  | wake
  /-- A round begins, and its source is asked. -/
  | begin
  /-- The source gives the assignments, or fails. -/
  | answer (source : Option Assignments)
  /-- The report under way is done. -/
  | reported
  | quit
  deriving DecidableEq, Repr

/-- Says whether the task itself takes an action, or one that it waits for in a round. -/
def Action.isOwn : Action → Bool
  | .wake | .begin | .answer _ | .reported | .quit => true
  | _ => false

/-- A task that begins with its start-up delay. -/
def start (delay : Nat) : Task where
  state := { phase := .delaying delay }

/-- Says whether the task is in a round. -/
def isInRound (task : Task) : Bool :=
  task.asking.isSome || task.state.phase matches .reporting _ _

/-- A step of the schedule, which is not taken while a source is asked. -/
def keep? (period : Nat) (marker : String) (task : Task) (action : Reconciliation.Action)
    : Option Task :=
  match task.asking with
  | none => (task.state.step? period marker action).map fun state => { state }
  | some _ => none

/-- The task after an action, if it can happen. No time passes a task that can end. -/
def step? (period : Nat) (marker : String) (task : Task) : Action → Option Task
  | .elapse time =>
      match task.asking with
      | none =>
          if task.state.cancelled ∧ !task.isInRound ∧ task.state.phase ≠ .ended then none
          else task.keep? period marker (.elapse time)
      | some _ => some { task with state := { task.state with now := task.state.now + time } }
  | .cancel => some { task with state := { task.state with cancelled := true } }
  | .wake => task.keep? period marker .wake
  | .begin =>
      match task.asking, task.state.phase with
      | none, .waiting due =>
          if due ≤ task.state.now then
            some {
              state := { task.state with rounds := task.state.rounds + 1 }
              asking := some (nextDue period due task.state.now)
            }
          else none
      | _, _ => none
  | .answer source =>
      task.asking.map fun due =>
        { state := task.state.proceed due (((round source marker).map Plan.reports).getD []) }
  | .reported => task.keep? period marker .reported
  | .quit => task.keep? period marker .quit

end Task

end NodeDevices.Reconciliation
