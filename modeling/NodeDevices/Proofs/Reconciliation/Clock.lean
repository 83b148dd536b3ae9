import NodeDevices.Proofs.Clockwork
import NodeDevices.Proofs.Reconciliation.Task
import NodeDevices.Reconciliation.Clock

/-! A task that runs by a clock goes through a run of the task, whichever comes first of a round
that is due and the end of a task that was cancelled: what holds in all runs holds of it. Its
clock does not stand still.
-/

namespace NodeDevices.Reconciliation

namespace Task.Chronicle

/-- What is recorded of an action is what it leads to. -/
@[simp]
theorem record_task (marker : String) (chronicle : Chronicle) (task : Task) (action : Action)
    : (chronicle.record marker task action).task = task := by
  have proceeds (round : Round) (reports : List (List String))
      : (chronicle.proceed task round reports).task = task := by
    cases reports <;> rfl
  cases action with
  | answer | reported =>
      rw [record]
      split
      · exact proceeds _ _
      · rfl
  | elapse | cancel | wake | begin | quit => rfl

end Task.Chronicle

namespace Clocked

variable {delay : Nat} {run after : Clocked} {source : Option Assignments}

/-- A state by a clock that a run of the task gets to. -/
def IsReached (delay : Nat) (run : Clocked) : Prop :=
  ∃ actions, (Task.Chronicle.run run.period run.marker delay actions).task = run.task

/-- What is performed is a step of the task. -/
theorem step?_of_perform? {action : Task.Action} (can : run.perform? action = some after)
    : run.task.step? run.period run.marker action = some after.task
      ∧ after.period = run.period
      ∧ after.marker = run.marker := by
  obtain ⟨task, steps, rfl⟩ := Option.map_eq_some_iff.mp can
  exact ⟨steps, rfl, rfl⟩

theorem perform?_eq_none {action : Task.Action}
    : run.perform? action = none ↔ run.task.step? run.period run.marker action = none :=
  Option.map_eq_none_iff

namespace IsReached

theorem start (period : Nat) (marker : String) (reportTime delay : Nat)
    : (start period marker reportTime delay).IsReached delay :=
  ⟨[], rfl⟩

/-- The run goes on with each action that is performed. -/
theorem perform? (h : run.IsReached delay) {action : Task.Action}
    (can : run.perform? action = some after)
    : after.IsReached delay := by
  obtain ⟨steps, period, marker⟩ := step?_of_perform? can
  obtain ⟨actions, reached⟩ := h
  refine ⟨actions ++ [action], ?_⟩
  rw [period, marker, Task.Chronicle.run_append, List.foldl_cons, List.foldl_nil,
    Task.Chronicle.perform, reached, steps]
  exact Task.Chronicle.record_task ..

/-- It goes on when the task is cancelled. -/
theorem cancel (h : run.IsReached delay) : run.cancel.IsReached delay := by
  rw [Clocked.cancel]
  cases can : run.perform? .cancel with
  | none => exact h
  | some after => exact h.perform? can

end IsReached

/-- What is attempted, in whatever order. -/
theorem mem_attempts {action : Task.Action}
    : action ∈ run.attempts source
      ↔ action = .answer source
        ∨ action = .reported ∧ run.busyUntil ≤ run.now
        ∨ action = .wake
        ∨ action = .begin
        ∨ action = .quit := by
  rw [attempts]
  by_cases passed : run.busyUntil ≤ run.now <;> cases run.endsFirst <;> simp [passed] <;> tauto

-----------------------------------------------------------------------------------------
-- The steps of one instant
-----------------------------------------------------------------------------------------

/-- The rounds that may begin now, one after another, when a round is due at a time. -/
def roundsDue (now due : Nat) : Nat :=
  if now < due then 0 else if due + tolerance < now then 1 else now - due + 1

theorem roundsDue_le (now due : Nat) : roundsDue now due ≤ tolerance + 1 := by
  rw [roundsDue]
  split
  · omega
  · split <;> omega

/-- Once a round has begun there is one less. -/
theorem roundsDue_nextDue {period now due : Nat} (positive : 0 < period) (passed : due ≤ now)
    : roundsDue now (nextDue period due now) < roundsDue now due := by
  by_cases late : due + tolerance < now
  · have waits : now < now + period := by omega
    simp [roundsDue, nextDue, late, waits, Nat.not_lt.mpr passed]
  · by_cases waits : now < due + period
    · simp [roundsDue, nextDue, late, waits, Nat.not_lt.mpr passed]
    · have soon : ¬due + period + tolerance < now := by omega
      simp only [roundsDue, nextDue, if_neg late, if_neg waits, if_neg soon,
        if_neg (Nat.not_lt.mpr passed)]
      omega

/-- The steps that a task has left at this instant, once it waits for a round to be due. -/
def turnsAfter (source : Option Assignments) (marker : String) (now due : Nat) : Nat :=
  roundsDue now due * ((reportsOf marker source).length + 2) + 1

/-- The steps that a task can take at this instant, at most. -/
def turns (source : Option Assignments) (run : Clocked) : Nat :=
  let rest := turnsAfter source run.marker run.now
  match run.task.asking, run.task.state.phase with
  | some due, _ => (reportsOf run.marker source).length + 1 + rest due
  | none, .delaying _ => 2
  | none, .waiting due => rest due
  | none, .reporting due left => left.length + 1 + rest due
  | none, .ended => 0

theorem turns_le_bound (source : Option Assignments) (run : Clocked)
    : run.turns source ≤ run.bound source := by
  have few (due : Nat)
      : turnsAfter source run.marker run.now due
        ≤ (tolerance + 1) * ((reportsOf run.marker source).length + 2) + 1 :=
    Nat.add_le_add_right (Nat.mul_le_mul_right _ (roundsDue_le run.now due)) 1
  rw [turns, bound, roundsAtOnce, ← reportsOf, Nat.succ_mul]
  split
  · next due _ =>
      have rounds := few due
      omega
  · omega
  · next due _ _ =>
      have rounds := few due
      omega
  · next due rest _ phase =>
      have rounds := few due
      rw [phase]
      dsimp only
      omega
  · omega

/-- The reports that are left to be made take a step each. -/
theorem turns_proceed (source : Option Assignments) (run : Clocked) (due : Nat)
    (reports : List (List String)) (busyUntil : Nat)
    : turns source
        { run with task := { state := run.task.state.proceed due reports }, busyUntil }
      = reports.length + turnsAfter source run.marker run.now due := by
  cases reports with
  | nil => exact (Nat.zero_add _).symm
  | cons report rest => rfl

/-- No time passes in a step of the task itself, and one less is left to be taken. -/
theorem turns_step (positive : 0 < run.period) {action : Task.Action} {task : Task}
    (own : action ∈ run.attempts source)
    (step : run.task.Step run.period run.marker action task) (busyUntil : Nat)
    : task.state.now = run.now
      ∧ turns source { run with task, busyUntil } < turns source run := by
  have idle {due : Nat} (passed : due ≤ run.now)
      : turnsAfter source run.marker run.now (nextDue run.period due run.now)
          + (reportsOf run.marker source).length + 2
        ≤ turnsAfter source run.marker run.now due := by
    have fewer := Nat.mul_le_mul_right ((reportsOf run.marker source).length + 2)
      (roundsDue_nextDue positive passed)
    rw [Nat.succ_mul] at fewer
    rw [turnsAfter, turnsAfter]
    omega
  rcases mem_attempts.mp own with rfl | ⟨rfl, -⟩ | rfl | rfl | rfl
  · cases step with
    | @answer due _ asked =>
        refine ⟨by cases reportsOf run.marker source <;> rfl, ?_⟩
        rw [turns_proceed, turns, asked]
        dsimp only
        omega
  · cases step with
    | @reported due rest free phase =>
        refine ⟨by cases rest <;> rfl, ?_⟩
        rw [turns_proceed, turns, free, phase]
        dsimp only
        omega
  · cases step with
    | wake free phase =>
        refine ⟨rfl, ?_⟩
        rw [turns, turns, free, phase]
        simp [turnsAfter, roundsDue, now, positive]
  · cases step with
    | begin free phase passed =>
        refine ⟨rfl, ?_⟩
        have rounds := idle passed
        rw [turns, turns, free, phase]
        change _ + 1 + turnsAfter source run.marker run.now (nextDue run.period _ run.now) < _
        dsimp only
        omega
  · cases step with
    | quit free phase =>
        refine ⟨rfl, ?_⟩
        rcases phase with phase | phase <;> simp [turns, free, phase, turnsAfter]

/-- A task that can do nothing by itself waits for a time that is still to come, or has ended. -/
inductive Waits (run : Clocked) : Prop
  | delaying {limit} (phase : run.task.state.phase = .delaying limit)
    (lasts : run.task.state.cancelled = false) (early : run.now < limit)
  | waiting {due} (phase : run.task.state.phase = .waiting due)
    (lasts : run.task.state.cancelled = false) (early : run.now < due)
  | reporting {due rest} (phase : run.task.state.phase = .reporting due rest)
    (early : run.now < run.busyUntil)
  | ended (phase : run.task.state.phase = .ended)

theorem waits_of_next?_eq_none (rests : run.next? source = none)
    : run.task.asking = none ∧ run.Waits := by
  have cannot : ∀ action ∈ run.attempts source,
      run.task.step? run.period run.marker action = none := fun action own =>
    perform?_eq_none.mp (List.findSome?_eq_none_iff.mp rests action own)
  have free : run.task.asking = none := by
    simpa [Task.step?] using cannot (.answer source) (by simp [mem_attempts])
  have quits := cannot .quit (by simp [mem_attempts])
  have wakes := cannot .wake (by simp [mem_attempts])
  have begins := cannot .begin (by simp [mem_attempts])
  refine ⟨free, ?_⟩
  cases phase : run.task.state.phase with
  | delaying limit =>
      refine .delaying phase ?_ ?_
      · simpa [Task.step?, Task.keep?, free, State.step?, phase] using quits
      · simpa [now, Task.step?, Task.keep?, free, State.step?, phase] using wakes
  | waiting due =>
      refine .waiting phase ?_ ?_
      · simpa [Task.step?, Task.keep?, free, State.step?, phase] using quits
      · simpa [now, Task.step?, free, phase] using begins
  | reporting due rest =>
      refine .reporting phase (Nat.lt_of_not_le fun passed => ?_)
      have reports := cannot .reported (by simp [mem_attempts, passed])
      simp [Task.step?, Task.keep?, free, State.step?, phase] at reports
  | ended => exact .ended phase

/-- Time passes a task that waits, up to the time that it waits for. -/
theorem Waits.perform?_elapse (h : run.Waits) (free : run.task.asking = none) {time : Nat}
    (within : ∀ due, run.due? = some due → run.now + time ≤ due)
    : ∃ after, run.perform? (.elapse time) = some after ∧ after.now = run.now + time := by
  let later := { run.task.state with now := run.now + time }
  have passes
      : run.task.step? run.period run.marker (.elapse time) = some { state := later } := by
    rw [now] at within
    cases h with
    | delaying phase lasts =>
        have bound := within _ (by rw [due?, phase])
        simp [Task.step?, Task.keep?, State.step?, free, phase, lasts, bound, later, now]
    | waiting phase lasts =>
        have bound := Nat.le_trans (within _ (by rw [due?, phase])) (Nat.le_max_left _ run.now)
        rw [now] at bound
        simp [Task.step?, Task.keep?, State.step?, free, phase, lasts, bound, later, now]
    | reporting phase =>
        simp [Task.step?, Task.keep?, Task.isInRound, State.step?, free, phase, later, now]
    | ended phase =>
        simp [Task.step?, Task.keep?, State.step?, free, phase, later, now]
  exact ⟨_, congrArg (Option.map _) passes, rfl⟩

/-- The clock of a task drives it through its runs. -/
theorem clock_drives (source : Option Assignments) (delay : Nat)
    : (clock source).Drives (fun run => run.IsReached delay ∧ 0 < run.period) (turns source) where
  next run after := by
    rintro ⟨reached, positive⟩ led
    obtain ⟨action, own, can⟩ := List.exists_of_findSome?_eq_some led
    have goesOn := reached.perform? can
    obtain ⟨task, steps, rfl⟩ := Option.map_eq_some_iff.mp can
    obtain ⟨same, fewer⟩ := turns_step positive own (.of_step? steps) _
    exact ⟨⟨goesOn, positive⟩, same, fewer⟩
  few run _ := turns_le_bound source run
  ahead run due := by
    rintro - rests waits
    cases (waits_of_next?_eq_none rests).2 with
    | delaying phase _ early | waiting phase _ early | reporting phase early =>
        simp only [clock, due?, phase] at waits
        cases waits
        exact early
    | ended phase =>
        simp only [clock, due?, phase] at waits
        cases waits
  elapse run time := by
    rintro ⟨reached, positive⟩ rests within
    obtain ⟨free, waits⟩ := waits_of_next?_eq_none rests
    obtain ⟨after, can, passed⟩ := waits.perform?_elapse free within
    have same := (step?_of_perform? can).2.1
    change (_ ∧ _) ∧ ((run.perform? (.elapse time)).getD run).now = _
    simp only [clock, can, Option.getD_some]
    exact ⟨⟨reached.perform? can, same ▸ positive⟩, passed⟩

/-- A task that runs by a clock for some time, from its start or from any state that it gets to,
goes through a run of the task, and the time passes.
-/
theorem IsReached.advance (h : run.IsReached delay) (positive : 0 < run.period)
    (source : Option Assignments) (time : Nat)
    : ((clock source).advance time run).IsReached delay
      ∧ ((clock source).advance time run).now = run.now + time := by
  obtain ⟨⟨reached, _⟩, passed, _⟩ := (clock_drives source delay).advance ⟨h, positive⟩ time
  exact ⟨reached, passed⟩

theorem IsReached.settle (h : run.IsReached delay) (positive : 0 < run.period)
    (source : Option Assignments)
    : ((clock source).settle run).IsReached delay :=
  ((clock_drives source delay).settle ⟨h, positive⟩).1.1

end Clocked

end NodeDevices.Reconciliation
