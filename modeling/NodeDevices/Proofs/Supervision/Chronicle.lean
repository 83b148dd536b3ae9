import Mathlib.Data.List.Induction
import NodeDevices.Proofs.Supervision.Passes
import NodeDevices.Supervision.Work

/-! A supervisor at work with its history: what it did itself, one moment after another. A law of
all runs is proved once for the beginning and once for a step.
-/

namespace NodeDevices.Supervision.Work

variable {σ : Type}

/-- A proof view of the actions that can happen, with what each of them finds and leaves. -/
inductive Step (fleet : Fleet σ) (backoff : Nat) (work : Work σ) : Action → Work σ → Prop
  | send (event)
    : Step fleet backoff work (.send event) { work with run := (work.run.send event).2 }
  | close : Step fleet backoff work .close { work with run := { work.run with closed := true } }
  | elapse (time)
    : Step fleet backoff work (.elapse time)
        { work with run := { work.run with now := work.run.now + time } }
  | take {event rest} (idle : work.duty = none) (lasts : work.run.done = false)
    (upcoming : work.run.queue = event :: rest)
    : Step fleet backoff work (.take event)
        { run := { work.run with queue := rest }, duty := some event.duty }
  | retry {time} (idle : work.duty = none) (lasts : work.run.done = false)
    (waiting : work.run.retryAt = some time) (due : time ≤ work.run.now)
    : Step fleet backoff work .retry { work with duty := some .pass }
  | drain (idle : work.duty = none) (lasts : work.run.done = false)
    (closed : work.run.closed = true) (empty : work.run.queue = [])
    : Step fleet backoff work .drain { work with duty := some .ending }
  | pass (begun : work.duty = some .pass)
    : Step fleet backoff work .finish { run := work.run.pass fleet backoff }
  | ending (begun : work.duty = some .ending)
    : Step fleet backoff work .finish { run := work.run.finish fleet }

/-- Sending an event adds it to the queue at most. -/
theorem run_send (run : Run σ) (event : Event)
    : ∃ more,
        more.length ≤ 1 ∧ (run.send event).2 = { run with queue := run.queue ++ more } := by
  unfold Run.send
  split
  · exact ⟨[], Nat.zero_le _, by simp⟩
  · exact ⟨[event], Nat.le_refl _, rfl⟩

/-- A supervisor waits when it has begun nothing and has not ended. -/
theorem waits_iff {work : Work σ}
    : work.waits = true ↔ work.duty = none ∧ work.run.done = false := by
  simp [waits]

/-- The view covers every action that can happen. -/
theorem Step.of_step? {fleet : Fleet σ} {backoff : Nat} {work next : Work σ} {action : Action}
    (h : work.step? fleet backoff action = some next)
    : Step fleet backoff work action next := by
  cases action with
  | send event => cases h; exact .send event
  | close => cases h; exact .close
  | elapse time => cases h; exact .elapse time
  | take event =>
      obtain ⟨⟨waits, upcoming⟩, same⟩ := Option.ite_none_right_eq_some.mp h
      obtain ⟨idle, lasts⟩ := waits_iff.mp waits
      obtain ⟨rest, queue⟩ := List.head?_eq_some_iff.mp upcoming
      cases same
      rw [queue]
      exact .take idle lasts queue
  | retry =>
      obtain ⟨⟨waits, due⟩, same⟩ := Option.ite_none_right_eq_some.mp h
      obtain ⟨idle, lasts⟩ := waits_iff.mp waits
      obtain ⟨time, waiting, past⟩ := (Option.any_eq_true ..).mp due
      cases same
      exact .retry idle lasts waiting (of_decide_eq_true past)
  | drain =>
      obtain ⟨⟨waits, closed, empty⟩, same⟩ := Option.ite_none_right_eq_some.mp h
      obtain ⟨idle, lasts⟩ := waits_iff.mp waits
      cases same
      exact .drain idle lasts closed empty
  | finish =>
      simp only [step?] at h
      split at h
      · next begun => cases h; exact .pass begun
      · next begun => cases h; exact .ending begun
      · cases h

-----------------------------------------------------------------------------------------
-- Histories
-----------------------------------------------------------------------------------------

/-- Something that a supervisor did: the calls that it made and, when it made a pass, what it
reported of it and then knew of its plugins.
-/
structure Moment where
  action : Action
  report : Option (PassOutcome × Phase) := none
  calls : List (Call × Bool) := []
  deriving DecidableEq, Repr

/-- The moment in which something is begun. -/
def began (action : Action) : Moment where
  action

/-- The moment in which a pass is made. -/
def passed (pass : Pass) : Moment where
  action := .finish
  report := some (pass.outcome, pass.phase)
  calls := pass.calls

/-- The moment in which all plugins are stopped for the last time. -/
def stopped (stops : List Bool) : Moment where
  action := .finish
  calls := stopsFrom 0 stops

/-- What a supervisor does itself in an action that leads to a next state. -/
def doing (fleet : Fleet σ) (work : Work σ) (action : Action) (next : Work σ) : List Moment :=
  if action.isOwn then
    [{
      action
      report :=
        if action = .finish ∧ work.duty = some .pass then
          some ((work.run.supervisor.restartAll fleet).1, next.run.supervisor.phase)
        else none
      calls := next.run.supervisor.made.drop work.run.supervisor.made.length
    }]
  else []

/-- A supervisor at work, with what it has done. -/
structure Chronicle (σ : Type) where
  work : Work σ
  moments : List Moment := []

namespace Chronicle

variable {fleet : Fleet σ} {backoff : Nat} {plugins : σ}

/-- Performs an action, if it can happen. -/
def perform (fleet : Fleet σ) (backoff : Nat) (chronicle : Chronicle σ) (action : Action)
    : Chronicle σ :=
  match chronicle.work.step? fleet backoff action with
  | some next => {
      work := next
      moments := chronicle.moments ++ chronicle.work.doing fleet action next
    }
  | none => chronicle

/-- A supervisor from its beginning, after the actions that could happen of a list. -/
def run (fleet : Fleet σ) (backoff : Nat) (plugins : σ) (actions : List Action) : Chronicle σ :=
  actions.foldl (perform fleet backoff) { work := .start plugins }

/-- What holds of a supervisor that begins, and after each step, holds of every run. -/
theorem run_induction {motive : Chronicle σ → Prop}
    (start : motive { work := .start plugins })
    (step
      : ∀ chronicle action next,
          motive chronicle
          → Step fleet backoff chronicle.work action next
          → motive {
              work := next
              moments := chronicle.moments ++ chronicle.work.doing fleet action next
            })
    (actions : List Action)
    : motive (run fleet backoff plugins actions) := by
  induction actions using List.reverseRecOn with
  | nil => exact start
  | append_singleton actions action ih =>
      rw [run, List.foldl_append, List.foldl_cons, List.foldl_nil, ← run, perform]
      split
      · next next can => exact step _ action next ih (.of_step? can)
      · exact ih

end Chronicle

-----------------------------------------------------------------------------------------
-- What is done in each kind of step
-----------------------------------------------------------------------------------------

/-- A supervisor that only begins something moves none of its plugins. -/
theorem Step.supervisor_eq {fleet : Fleet σ} {backoff : Nat} {work next : Work σ}
    {action : Action} (step : Step fleet backoff work action next) (begins : action ≠ .finish)
    : next.run.supervisor = work.run.supervisor := by
  cases step with
  | send event =>
      obtain ⟨more, _, sent⟩ := run_send work.run event
      rw [sent]
  | close | elapse | take | retry | drain => rfl
  | pass | ending => exact absurd rfl begins

/-- A supervisor that only begins something makes no calls. -/
theorem Step.doing_eq {fleet : Fleet σ} {backoff : Nat} {work next : Work σ} {action : Action}
    (step : Step fleet backoff work action next) (own : action.isOwn = true)
    (begins : action ≠ .finish)
    : work.doing fleet action next = [began action] := by
  simp [doing, began, own, begins, step.supervisor_eq begins]

/-- A pass that was begun is made over all plugins. -/
theorem doing_pass (fleet : Fleet σ) (backoff : Nat) {work : Work σ}
    (begun : work.duty = some .pass)
    : ∃ pass : Pass,
        pass.IsOver fleet.size
        ∧ (work.run.pass fleet backoff).supervisor.made
          = work.run.supervisor.made ++ pass.calls
        ∧ (work.run.pass fleet backoff).supervisor.phase = pass.phase
        ∧ (work.run.pass fleet backoff).retryAt.isSome = pass.outcome.failed.isSome
        ∧ work.doing fleet .finish { run := work.run.pass fleet backoff } = [passed pass] := by
  obtain ⟨pass, whole, outcome, phase, made⟩ :=
    Supervisor.restartAll_pass fleet work.run.supervisor
  refine ⟨pass, whole, made, phase, ?_, ?_⟩
  · rw [← outcome]
    simp only [Run.pass]
    split <;> simp_all
  · have own : Action.isOwn .finish = true := rfl
    rw [doing, if_pos own, if_pos ⟨rfl, begun⟩]
    simp only [Run.pass, made, phase, outcome, List.drop_left, passed]

/-- An end that was begun stops all plugins. -/
theorem doing_ending (fleet : Fleet σ) {work : Work σ} (begun : work.duty = some .ending)
    : ∃ stops,
        stops.length = fleet.size
        ∧ (work.run.finish fleet).supervisor.made
          = work.run.supervisor.made ++ stopsFrom 0 stops
        ∧ work.doing fleet .finish { run := work.run.finish fleet } = [stopped stops] := by
  obtain ⟨stops, all, made⟩ := Supervisor.stopAll_calls fleet work.run.supervisor
  have left : (work.run.finish fleet).supervisor.made
      = work.run.supervisor.made ++ stopsFrom 0 stops := made
  have own : Action.isOwn .finish = true := rfl
  refine ⟨stops, all, left, ?_⟩
  rw [doing, if_pos own, if_neg (by simp [begun])]
  simp only [left, List.drop_left, stopped]

end NodeDevices.Supervision.Work
