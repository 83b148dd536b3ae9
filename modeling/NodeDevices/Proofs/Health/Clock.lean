import NodeDevices.Health.Clock
import NodeDevices.Proofs.Clockwork
import NodeDevices.Proofs.Health.Timetable

/-! A task that runs by a clock goes through a run of the task: what holds in all runs holds of it.
Its clock does not stand still.
-/

namespace NodeDevices.Health.Task

variable {interval : Nat} {roster : Roster} {task after : Task} {probe : Int64 → Bool}

/-- A state that a run of the task gets to. -/
def IsReached (interval : Nat) (roster : Roster) (task : Task) : Prop :=
  ∃ actions, (Chronicle.run interval roster actions).task = task

namespace IsReached

theorem start (interval : Nat) (roster : Roster) : (start roster).IsReached interval roster :=
  ⟨[], rfl⟩

/-- The run goes on with each action that can happen. -/
theorem step (h : task.IsReached interval roster) {action : Action}
    (can : task.step? interval action = some after)
    : after.IsReached interval roster := by
  obtain ⟨actions, reached⟩ := h
  refine ⟨actions ++ [action], ?_⟩
  rw [Chronicle.run_append]
  exact Chronicle.task_foldl_perform (by rw [reached, List.foldlM_cons, can]; rfl)

/-- A monitor that was called is in a poll, in which no more devices are left than there are. -/
theorem of_busy (h : task.IsReached interval roster) {call : Polling.Call}
    (busy : task.polling.call = some call)
    : task.phase = .polling ∧ call.left.length ≤ task.polling.roster.size := by
  obtain ⟨actions, rfl⟩ := h
  have told := Chronicle.run_told interval roster actions
  obtain ⟨phase, _, probed, _, _, _, course⟩ := told.stage.of_busy busy
  have parts := congrArg List.length (course.trans told.devices.symm)
  rw [List.length_append, List.length_map, List.length_map] at parts
  exact ⟨phase, by rw [Roster.size]; omega⟩

/-- A poll is under way exactly while the monitor is called. -/
theorem call_eq_none_iff (h : task.IsReached interval roster)
    : task.polling.call = none ↔ task.phase ≠ .polling := by
  obtain ⟨actions, rfl⟩ := h
  cases (Chronicle.run_told interval roster actions).stage with
  | ready phase idle | sleeping phase idle | ended phase idle => simp [phase, idle]
  | polling phase busy => simp [phase, busy]

end IsReached

-----------------------------------------------------------------------------------------
-- The steps of one instant
-----------------------------------------------------------------------------------------

/-- The steps that a call has left, but for its end: two for each device. -/
def callTurns (call : Polling.Call) : Nat :=
  2 * call.left.length + call.asked.toList.length

/-- The steps that a task can take at this instant, at most. -/
def turns (task : Task) : Nat :=
  let stopped := task.polling.stopped
  match task.phase with
  | .ready => if stopped then 1 else 2 * task.polling.roster.size + 2
  | .polling => (task.polling.call.elim 0 callTurns) + if stopped then 3 else 1
  | .sleeping due =>
      if stopped then 2 else if due ≤ task.now then 2 * task.polling.roster.size + 3 else 0
  | .ended => 0

theorem IsReached.turns_le_bound (h : task.IsReached interval roster)
    : task.turns ≤ task.bound := by
  rw [turns, bound]
  split
  · split <;> omega
  · have few : task.polling.call.elim 0 callTurns ≤ 2 * task.polling.roster.size + 1 := by
      cases busy : task.polling.call with
      | none => exact Nat.zero_le _
      | some call =>
          have left := (h.of_busy busy).2
          have one : call.asked.toList.length ≤ 1 := by cases call.asked <;> simp
          rw [Option.elim_some, callTurns]
          omega
    split <;> omega
  · split
    · omega
    · split <;> omega
  · omega

/-- No time passes in a step of the task itself, and one less is left to be taken. -/
theorem IsReached.turns_step (h : task.IsReached interval roster) (positive : 0 < interval)
    {action : Action} (own : action ∈ task.attempts probe) (step : task.Step interval action after)
    : after.now = task.now ∧ after.turns < task.turns := by
  cases step with
  | elapse => simp [attempts] at own
  | act begins ends step =>
      refine ⟨rfl, ?_⟩
      cases step with
      | ask waits lasts =>
          have phase := (h.of_busy waits).1
          simp [turns, phase, waits, lasts, callTurns]
          omega
      | answer result asked =>
          have phase := (h.of_busy asked).1
          simp [turns, phase, asked, callTurns]
      | call | finish | stop | store | receive | abandon => simp [attempts] at own
  | begin phase lasts idle =>
      exact ⟨rfl, by simp [turns, phase, lasts, callTurns, Roster.size]⟩
  | leave phase stopped => exact ⟨rfl, by simp [turns, phase, stopped]⟩
  | rest waits =>
      refine ⟨rfl, ?_⟩
      have phase := (h.of_busy waits).1
      have later : ¬task.now + interval ≤ task.now := by omega
      cases stopped : task.polling.stopped <;>
        simp [turns, phase, waits, stopped, later]
  | wake phase past =>
      refine ⟨rfl, ?_⟩
      cases stopped : task.polling.stopped <;> simp [turns, phase, stopped, past]
  | quit phase stopped => exact ⟨rfl, by simp [turns, phase, stopped]⟩

/-- A task that can do nothing by itself has ended, or waits for a time that is still to come. -/
theorem IsReached.waits (h : task.IsReached interval roster)
    (rests : task.next? interval probe = none)
    : task.phase = .ended
      ∨ ∃ due, task.phase = .sleeping due ∧ task.polling.stopped = false ∧ task.now < due := by
  have cannot : ∀ action ∈ task.attempts probe, task.step? interval action = none :=
    List.findSome?_eq_none_iff.mp rests
  have checks := cannot .check (by simp [attempts])
  have asks := cannot (.act .ask) (by simp [attempts])
  have ends := cannot .rest (by simp [attempts])
  have quits := cannot .quit (by simp [attempts])
  have wakes := cannot .wake (by simp [attempts])
  cases phase : task.phase with
  | ready =>
      have idle := h.call_eq_none_iff.mpr (phase ▸ nofun)
      cases stopped : task.polling.stopped <;>
        simp [step?, phase, stopped, Polling.step?, idle] at checks
  | polling =>
      obtain ⟨⟨left, asked, found⟩, busy⟩ := Option.ne_none_iff_exists'.mp
        (h.call_eq_none_iff.not.mpr (not_not.mpr phase))
      cases asked with
      | some device =>
          have answers := cannot (.act (.answer (probe device.uuid)))
            (by simp [attempts, Task.asked, busy])
          simp [step?, Polling.step?, busy] at answers
      | none =>
          cases left with
          | nil => simp [step?, Polling.step?, busy] at ends
          | cons device left =>
              cases stopped : task.polling.stopped with
              | true => simp [step?, Polling.step?, busy, stopped] at ends
              | false => simp [step?, Polling.step?, busy, stopped] at asks
  | sleeping due =>
      refine Or.inr ⟨due, rfl, ?_, ?_⟩
      · simpa [step?, phase] using quits
      · simpa [step?, phase] using wakes
  | ended => exact Or.inl rfl

/-- The clock of a task drives it through its runs. -/
theorem clock_drives (positive : 0 < interval) (roster : Roster) (probe : Int64 → Bool)
    : (clock interval probe).Drives (IsReached interval roster) turns where
  next task after h led := by
    obtain ⟨action, own, can⟩ := List.exists_of_findSome?_eq_some led
    exact ⟨h.step can, h.turns_step positive own (.of_step? can)⟩
  few task h := h.turns_le_bound
  ahead task due h rests waits := by
    simp only [clock, due?] at waits
    rcases h.waits rests with phase | ⟨_, phase, _, early⟩
    · rw [phase] at waits
      cases waits
    · rw [phase] at waits
      cases waits
      exact early
  elapse task time h rests within := by
    have lets : task.lets time = true := by
      rcases h.waits rests with phase | ⟨due, phase, lasts, _⟩
      · rw [lets, phase]
      · have soon : task.now + time ≤ due := within due (by simp only [clock, due?, phase])
        simp [Task.lets, phase, lasts, soon]
    have can : task.step? interval (.elapse time)
        = some { task with now := task.now + time } := if_pos lets
    simp only [clock, can, Option.getD_some, and_true]
    exact h.step can

/-- A task that runs by a clock for some time goes through a run of the task, and that time passes.
-/
theorem IsReached.advance (h : task.IsReached interval roster) (positive : 0 < interval)
    (probe : Int64 → Bool) (time : Nat)
    : ((clock interval probe).advance time task).IsReached interval roster
      ∧ ((clock interval probe).advance time task).now = task.now + time := by
  obtain ⟨reached, passed, _⟩ := (clock_drives positive roster probe).advance h time
  exact ⟨reached, passed⟩

theorem IsReached.settle (h : task.IsReached interval roster) (positive : 0 < interval)
    (probe : Int64 → Bool)
    : ((clock interval probe).settle task).IsReached interval roster :=
  ((clock_drives positive roster probe).settle h).1

end NodeDevices.Health.Task
