import NodeDevices.Clockwork
import NodeDevices.Reconciliation.Task
/-! A task that runs by a clock, while its source answers at once. All that it does are steps of the
task. A task that can end when a round is due may take either first, and here it is settled from
the beginning which: the runs by a clock are therefore some of those of the task.
-/

namespace NodeDevices.Reconciliation

/-- A task that runs by a clock, whose reports all take the same time. -/
structure Clocked where
  period : Nat := defaultPeriod
  marker : String := defaultMarker
  reportTime : Nat := 0
  /-- Says which comes first when both have come: the end of the task, or what it waits for. -/
  endsFirst : Bool := false
  task : Task
  /-- When the report under way is done. -/
  busyUntil : Nat := 0

namespace Clocked

/-- A task that starts now. -/
def start (period : Nat) (marker : String) (reportTime delay : Nat) : Clocked where
  period
  marker
  reportTime
  task := .start delay

/-- What time it is. -/
def now (run : Clocked) : Nat :=
  run.task.state.now

/-- Performs an action, if it can happen, and has a report that begins with it end in time. -/
def perform? (run : Clocked) (action : Task.Action) : Option Clocked :=
  (run.task.step? run.period run.marker action).map fun task =>
    let begun := run.task.state.reports.length < task.state.reports.length
    { run with
      task, busyUntil := if begun then task.state.now + run.reportTime else run.busyUntil }

/-- What a task does by itself as soon as it can, given what its source answers: of two actions
the first.
-/
def attempts (run : Clocked) (source : Option Assignments) : List Task.Action :=
  .answer source :: (if run.busyUntil ≤ run.now then [.reported] else [])
    ++ if run.endsFirst then [.quit, .wake, .begin] else [.wake, .begin, .quit]

/-- What a task comes to by itself in one step. -/
def next? (run : Clocked) (source : Option Assignments) : Option Clocked :=
  (run.attempts source).findSome? run.perform?

/-- When a task may do something by itself again. -/
def due? (run : Clocked) : Option Nat :=
  match run.task.state.phase with
  | .delaying limit => some limit
  | .waiting due => some due
  | .reporting _ _ => some run.busyUntil
  | .ended => none

/-- A bound on the rounds that begin at one instant: as many as can be due within the tolerance,
and one.
-/
def roundsAtOnce : Nat := tolerance + 2

/-- A bound on the steps of one instant: those of its rounds, each of which takes as many steps as
it has reports and two more, what is left of a round, and the end.
-/
def bound (run : Clocked) (source : Option Assignments) : Nat :=
  let left := match run.task.state.phase with
    | .reporting _ rest => rest.length
    | _ => 0
  let reports := ((round source run.marker).map Plan.reports).getD []
  left + roundsAtOnce * (reports.length + 2) + 2

/-- The clock of a task, given what its source answers. -/
def clock (source : Option Assignments) : Clockwork Clocked where
  now
  next? run := run.next? source
  bound run := run.bound source
  due?
  elapse time run := (run.perform? (.elapse time)).getD run

/-- A task that is cancelled now. -/
def cancel (run : Clocked) : Clocked :=
  (run.perform? .cancel).getD run

end Clocked

end NodeDevices.Reconciliation
