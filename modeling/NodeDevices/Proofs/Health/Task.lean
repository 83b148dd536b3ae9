import NodeDevices.Device.Handle
import NodeDevices.Health.Task
import NodeDevices.Proofs.Health.Polling

/-! A task that polls a monitor, with its polls: when each began, which devices it probed, and when
it was over. A law of all runs is proved once for the start and once for a step.
-/

namespace NodeDevices.Health.Task

variable {interval : Nat} {roster : Roster} {task next : Task}

/-- A proof view of the actions that can happen, with what each of them finds and leaves. -/
inductive Step (interval : Nat) (task : Task) : Action → Task → Prop
  | elapse {time} (free : task.lets time = true)
    : Step interval task (.elapse time) { task with now := task.now + time }
  | act {action polling} (begins : action ≠ .call) (ends : action ≠ .finish)
    (step : task.polling.Step action polling)
    : Step interval task (.act action) { task with polling }
  | begin (phase : task.phase = .ready) (lasts : task.polling.stopped = false)
    (idle : task.polling.call = none)
    : Step interval task .check { task with
        polling := { task.polling with call := some { left := task.polling.roster.devices } }
        phase := .polling }
  | leave (phase : task.phase = .ready) (stopped : task.polling.stopped = true)
    : Step interval task .check { task with phase := .ended }
  | rest {left found} (waits : task.polling.call = some { left, asked := none, found })
    (finished : left = [] ∨ task.polling.stopped = true)
    : Step interval task .rest { task with
        polling := { task.polling with call := none }
        phase := .sleeping (task.now + interval) }
  | wake {due} (phase : task.phase = .sleeping due) (past : due ≤ task.now)
    : Step interval task .wake { task with phase := .ready }
  | quit {due} (phase : task.phase = .sleeping due) (stopped : task.polling.stopped = true)
    : Step interval task .quit { task with phase := .ended }

/-- The view covers every action that can happen. -/
theorem Step.of_step? {action : Action} (h : task.step? interval action = some next)
    : Step interval task action next := by
  cases action with
  | elapse time =>
      obtain ⟨free, same⟩ := Option.ite_none_right_eq_some.mp h
      cases same
      exact .elapse free
  | act action =>
      obtain ⟨within, steps⟩ := Option.ite_none_left_eq_some.mp h
      obtain ⟨polling, can, rfl⟩ := Option.map_eq_some_iff.mp steps
      obtain ⟨begins, ends⟩ := not_or.mp within
      exact .act begins ends (.of_step? can)
  | check =>
      obtain ⟨ready, steps⟩ := Option.ite_none_left_eq_some.mp h
      have phase : task.phase = .ready := not_not.mp ready
      split at steps
      · next stopped =>
          cases steps
          exact .leave phase stopped
      · next lasts =>
          obtain ⟨polling, can, rfl⟩ := Option.map_eq_some_iff.mp steps
          cases Polling.Step.of_step? can with
          | call idle => exact .begin phase (Bool.eq_false_iff.mpr lasts) idle
  | rest =>
      obtain ⟨polling, can, rfl⟩ := Option.map_eq_some_iff.mp h
      cases Polling.Step.of_step? can with
      | finish waits finished => exact .rest waits finished
  | wake =>
      simp only [step?] at h
      split at h
      · next due phase =>
          split at h <;> cases h
          next past => exact .wake phase past
      · cases h
  | quit =>
      simp only [step?] at h
      split at h
      · next due phase =>
          split at h <;> cases h
          next stopped => exact .quit phase stopped
      · cases h

/-- A probe is noted when it is begun. -/
theorem Step.probes_eq {action : Action} (step : Step interval task action next)
    : next.polling.probes
      = task.polling.probes
        ++ if action = .act .ask then next.asked.toList.map Device.uuid else [] := by
  cases step with
  | elapse | begin | leave | rest | wake | quit => simp
  | act begins ends step =>
      cases step with
      | ask waits => rfl
      | _ => simp

/-- What the devices are stays as it is, whatever their healths. -/
theorem Step.identities_eq {action : Action} (step : Step interval task action next)
    : next.polling.roster.devices.map Device.identity
      = task.polling.roster.devices.map Device.identity := by
  cases step with
  | elapse | begin | leave | rest | wake | quit => rfl
  | act begins ends step =>
      cases step with
      | store id health => exact Roster.map_devices_setHealth (fun _ _ => rfl) _ id health
      | _ => rfl

-----------------------------------------------------------------------------------------
-- Runs with their polls
-----------------------------------------------------------------------------------------

/-- A poll of a task. -/
structure Poll where
  start : Nat
  /-- The devices whose probes were begun, in order. -/
  probed : List (String × Int64) := []
  /-- When it was over, once it was. -/
  finish : Option Nat := none
  /-- Says whether the monitor was told to stop before that. -/
  stopped : Bool := false
  deriving DecidableEq, Repr

/-- A task with its polls, and with the history of its monitor. -/
structure Chronicle where
  task : Task
  history : Polling.History := {}
  /-- The polls that are over. -/
  past : List Poll := []
  /-- The poll under way. -/
  current : Option Poll := none
  deriving DecidableEq

namespace Chronicle

/-- All polls in their order. -/
def polls (chronicle : Chronicle) : List Poll :=
  chronicle.past ++ chronicle.current.toList

/-- The chronicle with what an action adds to it that leads to a task. -/
def record (chronicle : Chronicle) (task : Task) : Action → Chronicle
  | .act action =>
      { chronicle with
        task
        history := chronicle.history.record chronicle.task.polling action
        current :=
          if action = .ask then
            chronicle.current.map fun poll =>
              { poll with probed := poll.probed ++ task.asked.toList.map Device.identity }
          else chronicle.current }
  | .check =>
      { chronicle with
        task
        current :=
          if task.phase = .polling then some { start := task.now } else chronicle.current }
  | .rest =>
      { task
        history := chronicle.history.record chronicle.task.polling .finish
        past := chronicle.past ++ chronicle.current.toList.map fun poll =>
          { poll with finish := some task.now, stopped := task.polling.stopped } }
  | .elapse _ | .wake | .quit => { chronicle with task }

/-- What is recorded of an action is what it leads to. -/
@[simp]
theorem record_task (chronicle : Chronicle) (task : Task) (action : Action)
    : (chronicle.record task action).task = task := by
  cases action <;> rfl

/-- Performs an action, if it can happen. -/
def perform (interval : Nat) (chronicle : Chronicle) (action : Action) : Chronicle :=
  match chronicle.task.step? interval action with
  | some task => chronicle.record task action
  | none => chronicle

/-- A task from its start, after the actions that could happen of a list. -/
def run (interval : Nat) (roster : Roster) (actions : List Action) : Chronicle :=
  actions.foldl (perform interval) { task := .start roster }

/-- A run goes on from where it is. -/
theorem run_append (interval : Nat) (roster : Roster) (actions later : List Action)
    : run interval roster (actions ++ later)
      = later.foldl (perform interval) (run interval roster actions) :=
  List.foldl_append

/-- Actions that can all happen lead to a task as they lead to its chronicle. -/
theorem task_foldl_perform {chronicle : Chronicle} {actions : List Action} {last : Task}
    (happens : actions.foldlM (step? interval) chronicle.task = some last)
    : (actions.foldl (perform interval) chronicle).task = last := by
  induction actions generalizing chronicle with
  | nil => exact Option.some_inj.mp happens
  | cons action rest ih =>
      rw [List.foldlM_cons] at happens
      obtain ⟨next, can, later⟩ := Option.bind_eq_some_iff.mp happens
      refine ih ?_
      rw [perform, can]
      simpa using later

/-- What holds at one time, and after each step from then on, holds from then on. -/
theorem foldl_perform_induction {motive : Chronicle → Prop} {chronicle : Chronicle}
    (start : motive chronicle)
    (step
      : ∀ chronicle action next,
          motive chronicle
          → chronicle.task.Step interval action next
          → motive (chronicle.record next action))
    (actions : List Action)
    : motive (actions.foldl (perform interval) chronicle) := by
  induction actions using List.reverseRecOn with
  | nil => exact start
  | append_singleton actions action ih =>
      rw [List.foldl_append, List.foldl_cons, List.foldl_nil, perform]
      split
      · next next can => exact step _ action next ih (.of_step? can)
      · exact ih

end Chronicle

end NodeDevices.Health.Task
