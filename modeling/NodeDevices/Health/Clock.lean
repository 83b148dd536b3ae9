import NodeDevices.Clockwork
import NodeDevices.Health.Task
/-! A task that runs by a clock, while its probes are answered at once. All that it does are steps
of the task. When it is told to stop at the end of a wait, it comes to its end either way.
-/

namespace NodeDevices.Health.Task

/-- What a task does by itself as soon as it can, given how probes are answered: of two actions the
first.
-/
def attempts (task : Task) (probe : Int64 → Bool) : List Action :=
  [.check, .act .ask] ++ task.asked.toList.map (fun device => .act (.answer (probe device.uuid)))
    ++ [.rest, .quit, .wake]

/-- What a task comes to by itself in one step. -/
def next? (interval : Nat) (task : Task) (probe : Int64 → Bool) : Option Task :=
  (task.attempts probe).findSome? (task.step? interval)

/-- When a task may do something by itself again. -/
def due? (task : Task) : Option Nat :=
  match task.phase with
  | .sleeping due => some due
  | _ => none

/-- A bound on the steps of one instant: a probe takes two. -/
def bound (task : Task) : Nat :=
  2 * task.polling.roster.size + 4

/-- The clock of a task, given how probes are answered. -/
def clock (interval : Nat) (probe : Int64 → Bool) : Clockwork Task where
  now
  next? task := task.next? interval probe
  bound
  due?
  elapse time task := (task.step? interval (.elapse time)).getD task

end NodeDevices.Health.Task
