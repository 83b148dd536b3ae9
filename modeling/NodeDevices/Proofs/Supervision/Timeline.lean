import NodeDevices.Proofs.Supervision.Chronicle
import NodeDevices.Supervision.Clock

/-! A supervisor whose calls take no time, with the times of what happens. A pass follows another
one for an event, as soon as that has come, or for a wait that is over, if none has.
-/

namespace NodeDevices.Supervision.Work

variable {σ : Type}

/-- What a pass is made for. -/
inductive Cause where
  | first
  | event (event : Event)
  | retry
  deriving DecidableEq, Repr

/-- The event that a pass is made for, if any. -/
def Cause.event? : Cause → Option Event
  | .event asked => some asked
  | .first | .retry => none

/-- A supervisor at work, with the times of what has happened. -/
structure Timeline (σ : Type) where
  work : Work σ
  /-- The events that came into its queue. -/
  arrived : List (Nat × Event) := []
  /-- The events that it took. -/
  taken : List (Nat × Event) := []
  /-- The passes that it began. -/
  begun : List (Nat × Cause) := [(0, .first)]
  /-- The passes that it finished, with what it then knew of its plugins. -/
  finished : List (Nat × Phase) := []
  /-- What it began its end with. -/
  ending : Option (Nat × Action) := none

namespace Timeline

variable {fleet : Fleet σ} {backoff : Nat} {plugins : σ}

/-- The timeline after an action that leads to a next state. -/
def note (timeline : Timeline σ) (action : Action) (next : Work σ) : Timeline σ :=
  let now := timeline.work.run.now
  match action with
  | .send event =>
      let accepted := (timeline.work.run.send event).1
      { timeline with
        work := next
        arrived := timeline.arrived ++ if accepted then [(now, event)] else [] }
  | .take .terminate =>
      { timeline with
        work := next
        taken := timeline.taken ++ [(now, .terminate)]
        ending := some (now, .take .terminate) }
  | .take event =>
      { timeline with
        work := next
        taken := timeline.taken ++ [(now, event)]
        begun := timeline.begun ++ [(now, .event event)] }
  | .retry => { timeline with work := next, begun := timeline.begun ++ [(now, .retry)] }
  | .drain => { timeline with work := next, ending := some (now, .drain) }
  | .finish =>
      if timeline.work.duty = some .pass then
        { timeline with
          work := next
          finished := timeline.finished ++ [(now, next.run.supervisor.phase)] }
      else { timeline with work := next }
  | .close | .elapse _ => { timeline with work := next }

/-- What is noted of an action is what it leads to. -/
@[simp]
theorem work_note (timeline : Timeline σ) (action : Action) (next : Work σ)
    : (timeline.note action next).work = next := by
  unfold note
  split
  case h_6 => split <;> rfl
  all_goals rfl

/-- Performs an action, if it can happen when calls take no time. -/
def perform (fleet : Fleet σ) (backoff : Nat) (timeline : Timeline σ) (action : Action)
    : Timeline σ :=
  match timeline.work.stepAtOnce? fleet backoff action with
  | some next => timeline.note action next
  | none => timeline

/-- A supervisor from its beginning, after the actions that could happen of a list. -/
def run (fleet : Fleet σ) (backoff : Nat) (plugins : σ) (actions : List Action) : Timeline σ :=
  actions.foldl (perform fleet backoff) { work := .start plugins }

/-- A proof view of what can happen to a timeline, with what it finds and leaves. -/
inductive Step (fleet : Fleet σ) (backoff : Nat) (timeline : Timeline σ) : Timeline σ → Prop
  | arrive (event) (lasts : timeline.work.run.done = false)
    (opened : timeline.work.run.closed = false)
    (room : timeline.work.run.queue.length < queueCapacity)
    : Step fleet backoff timeline {
        timeline with
        work := { timeline.work with
          run := { timeline.work.run with queue := timeline.work.run.queue ++ [event] } }
        arrived := timeline.arrived ++ [(timeline.work.run.now, event)] }
  | close
    : Step fleet backoff timeline {
        timeline with
        work := { timeline.work with run := { timeline.work.run with closed := true } } }
  | elapse (time)
    (still
      : timeline.work.run.done = true
        ∨ timeline.work.duty = none
          ∧ timeline.work.run.queue = []
          ∧ ∀ due, timeline.work.run.retryAt = some due → timeline.work.run.now + time ≤ due)
    : Step fleet backoff timeline {
        timeline with
        work := { timeline.work with
          run := { timeline.work.run with now := timeline.work.run.now + time } } }
  | take {event rest} (idle : timeline.work.duty = none) (lasts : timeline.work.run.done = false)
    (upcoming : timeline.work.run.queue = event :: rest) (other : event ≠ .terminate)
    : Step fleet backoff timeline {
        timeline with
        work := { run := { timeline.work.run with queue := rest }, duty := some .pass }
        taken := timeline.taken ++ [(timeline.work.run.now, event)]
        begun := timeline.begun ++ [(timeline.work.run.now, .event event)] }
  | terminate {rest} (idle : timeline.work.duty = none)
    (lasts : timeline.work.run.done = false)
    (upcoming : timeline.work.run.queue = .terminate :: rest)
    : Step fleet backoff timeline {
        timeline with
        work := { run := { timeline.work.run with queue := rest }, duty := some .ending }
        taken := timeline.taken ++ [(timeline.work.run.now, .terminate)]
        ending := some (timeline.work.run.now, .take .terminate) }
  | retry {due} (idle : timeline.work.duty = none) (lasts : timeline.work.run.done = false)
    (waiting : timeline.work.run.retryAt = some due) (past : due ≤ timeline.work.run.now)
    : Step fleet backoff timeline {
        timeline with
        work := { timeline.work with duty := some .pass }
        begun := timeline.begun ++ [(timeline.work.run.now, .retry)] }
  | drain (idle : timeline.work.duty = none) (lasts : timeline.work.run.done = false)
    (closed : timeline.work.run.closed = true) (empty : timeline.work.run.queue = [])
    : Step fleet backoff timeline {
        timeline with
        work := { timeline.work with duty := some .ending }
        ending := some (timeline.work.run.now, .drain) }
  | pass (busy : timeline.work.duty = some .pass)
    : Step fleet backoff timeline {
        timeline with
        work := { run := timeline.work.run.pass fleet backoff }
        finished := timeline.finished
          ++ [(timeline.work.run.now,
            (timeline.work.run.pass fleet backoff).supervisor.phase)] }
  | stop (busy : timeline.work.duty = some .ending)
    : Step fleet backoff timeline {
        timeline with work := { run := timeline.work.run.finish fleet } }

/-- When time can pass, a supervisor has ended, or it waits with nothing to do until then. -/
theorem lets_iff {work : Work σ} {time : Nat}
    : work.lets time = true
      ↔ work.run.done = true
        ∨ (work.duty = none ∧ work.run.done = false)
          ∧ work.run.queue = []
          ∧ work.run.closed = false
          ∧ ∀ due, work.run.retryAt = some due → work.run.now + time ≤ due := by
  rw [lets, Bool.or_eq_true, Bool.and_eq_true, Bool.and_eq_true, Bool.and_eq_true, waits_iff,
    List.isEmpty_iff, Bool.not_eq_true', Option.all_eq_true]
  simp only [decide_eq_true_eq, and_assoc]

/-- What happens without calls that take time can happen in any case. -/
theorem step?_of_stepAtOnce? {work next : Work σ} {action : Action}
    (can : work.stepAtOnce? fleet backoff action = some next)
    : work.step? fleet backoff action = some next
      ∧ ∀ time, action = .elapse time → work.lets time = true := by
  cases action with
  | elapse time =>
      obtain ⟨free, can⟩ := Option.ite_none_right_eq_some.mp can
      refine ⟨can, ?_⟩
      rintro _ ⟨⟩
      exact free
  | send | close | take | retry | drain | finish => exact ⟨can, nofun⟩

/-- The view covers all that can happen to a timeline. -/
theorem perform_cases (timeline : Timeline σ) (action : Action)
    : timeline.perform fleet backoff action = timeline
      ∨ Step fleet backoff timeline (timeline.perform fleet backoff action) := by
  rw [perform]
  split
  · next next can =>
      obtain ⟨can, free⟩ := step?_of_stepAtOnce? can
      cases Work.Step.of_step? can with
      | send event =>
          rw [note, Run.send]
          split
          · exact Or.inl (by simp)
          · next accepts =>
              obtain ⟨lasts, accepts⟩ := not_or.mp accepts
              obtain ⟨opened, room⟩ := not_or.mp accepts
              exact Or.inr (.arrive event (Bool.eq_false_iff.mpr lasts)
                (Bool.eq_false_iff.mpr opened) (Nat.lt_of_not_le room))
      | close => exact Or.inr .close
      | elapse time =>
          refine Or.inr (.elapse time ?_)
          rcases lets_iff.mp (free time rfl) with ended | ⟨⟨idle, _⟩, empty, _, soon⟩
          · exact Or.inl ended
          · exact Or.inr ⟨idle, empty, soon⟩
      | @take event rest idle lasts upcoming =>
          cases event with
          | terminate => exact Or.inr (.terminate idle lasts upcoming)
          | startFailed | kubeletRestarted | reconfigure =>
              exact Or.inr (.take idle lasts upcoming (by simp))
      | retry idle lasts waiting due => exact Or.inr (.retry idle lasts waiting due)
      | drain idle lasts closed empty => exact Or.inr (.drain idle lasts closed empty)
      | pass busy =>
          rw [note, if_pos busy]
          exact Or.inr (.pass busy)
      | ending busy =>
          rw [note, if_neg (by rw [busy]; simp)]
          exact Or.inr (.stop busy)
  · exact Or.inl rfl

/-- What holds of a supervisor that begins, and after each step, holds of every run. -/
theorem run_induction {motive : Timeline σ → Prop} (start : motive { work := .start plugins })
    (step : ∀ timeline next, motive timeline → Step fleet backoff timeline next → motive next)
    (actions : List Action)
    : motive (run fleet backoff plugins actions) := by
  induction actions using List.reverseRecOn with
  | nil => exact start
  | append_singleton actions action ih =>
      rw [run, List.foldl_append, List.foldl_cons, List.foldl_nil, ← run]
      rcases perform_cases (run fleet backoff plugins actions) action with same | happens
      · rw [same]
        exact ih
      · exact step _ _ ih happens

end Timeline

end NodeDevices.Supervision.Work
