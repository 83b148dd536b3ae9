import NodeDevices.Proofs.Health.Timetable

/-! The end of a task that is told to stop. No probe begins any more, and only the one under way is
answered; no other time passes, and the task is at its end after a few steps, whichever it takes.
-/

namespace NodeDevices.Health.Task

/-- What a poll has begun, which stays when it ends. -/
def Poll.beginning (poll : Poll) : Nat × List (String × Int64) :=
  (poll.start, poll.probed)

/-- The steps of its own that a task has left, once it is told to stop, at most. -/
def remaining (task : Task) : Nat :=
  match task.phase with
  | .ready => 1
  | .polling => if task.asked.isSome then 4 else 3
  | .sleeping _ => 2
  | .ended => 0

/-- A task that was told to stop, whose monitor has been called only in its polls. -/
structure Ends (task : Task) : Prop where
  stops : task.polling.stopped = true
  busy : task.polling.call ≠ none → task.phase = .polling

variable {interval : Nat} {roster : Roster}

/-- Each step of its own brings such a task nearer to its end, and no other one takes it back. -/
theorem Ends.step {task next : Task} (h : task.Ends) {action : Action}
    (step : task.Step interval action next)
    : next.Ends ∧ next.remaining + (if action.isOwn then 1 else 0) ≤ task.remaining := by
  cases step with
  | elapse => exact ⟨⟨h.stops, h.busy⟩, Nat.le_refl _⟩
  | begin _ lasts => cases lasts.symm.trans h.stops
  | leave phase | wake phase | quit phase =>
      refine ⟨⟨h.stops, ?_⟩, by simp [remaining, phase, Action.isOwn]⟩
      intro busy
      cases phase.symm.trans (h.busy busy)
  | rest waits =>
      have phase := h.busy (by simp [waits])
      refine ⟨⟨h.stops, absurd rfl⟩, ?_⟩
      simp [remaining, phase, asked, waits, Action.isOwn]
  | act begins ends step =>
      cases step with
      | call => exact absurd rfl begins
      | finish => exact absurd rfl ends
      | ask _ lasts => cases lasts.symm.trans h.stops
      | answer result waits =>
          have phase := h.busy (by simp [waits])
          refine ⟨⟨h.stops, fun _ => phase⟩, ?_⟩
          simp [remaining, phase, asked, waits, Action.isOwn]
      | stop => exact ⟨⟨rfl, h.busy⟩, Nat.le_refl _⟩
      | store | receive | abandon => exact ⟨⟨h.stops, h.busy⟩, Nat.le_refl _⟩

/-- Whatever happens, such a task takes no more steps of its own than it has left. -/
theorem Ends.countP_isOwn_le {task last : Task} (h : task.Ends) {actions : List Action}
    (happens : actions.foldlM (step? interval) task = some last)
    : actions.countP Action.isOwn + last.remaining ≤ task.remaining := by
  induction actions generalizing task with
  | nil =>
      cases happens
      simp
  | cons action rest ih =>
      rw [List.foldlM_cons] at happens
      obtain ⟨next, can, later⟩ := Option.bind_eq_some_iff.mp happens
      obtain ⟨ends, nearer⟩ := h.step (.of_step? can)
      have left := ih ends later
      rw [List.countP_cons]
      omega

theorem remaining_le (task : Task) : task.remaining ≤ 4 := by
  rw [remaining]
  split
  · decide
  · split <;> decide
  · decide
  · decide

namespace Chronicle

variable {devices : List (String × Int64)} {chronicle stopped : Chronicle}

/-- What is known of the probe that was under way when a task was told to stop: it still is, or it
was answered, and then a change that it shows was sent.
-/
inductive Answered (stopped chronicle : Chronicle) : Prop
  | waits (asked : chronicle.task.asked = stopped.task.asked)
    (monitor : chronicle.task.polling.monitor = stopped.task.polling.monitor)
    (answers : chronicle.history.answers = stopped.history.answers)
    (sent : chronicle.history.sent = stopped.history.sent)
  | replied {device} (result) (under : stopped.task.asked = some device)
    (asked : chronicle.task.asked = none)
    (answers : chronicle.history.answers = stopped.history.answers ++ [(device.id, result)])
    (sent
      : chronicle.history.sent
        = stopped.history.sent
          ++ (stopped.task.polling.monitor.observe device.id (ofProbe result)).1.toList)

/-- A task that was told to stop, with what it had done until then. -/
structure Stopping (stopped chronicle : Chronicle) : Prop where
  stops : chronicle.task.polling.stopped = true
  kept : chronicle.polls.map Poll.beginning = stopped.polls.map Poll.beginning
  answered : stopped.Answered chronicle

/-- What changes nothing of the probe under way leaves open what becomes of it. -/
theorem Answered.congr (h : stopped.Answered chronicle) {next : Chronicle}
    (asked : next.task.asked = chronicle.task.asked)
    (monitor : next.task.polling.monitor = chronicle.task.polling.monitor)
    (answers : next.history.answers = chronicle.history.answers)
    (sent : next.history.sent = chronicle.history.sent)
    : stopped.Answered next := by
  cases h with
  | waits asked' monitor' answers' sent' =>
      exact .waits (asked.trans asked') (monitor.trans monitor') (answers.trans answers')
        (sent.trans sent')
  | replied result under asked' answers' sent' =>
      exact .replied result under (asked.trans asked') (answers.trans answers') (sent.trans sent')

/-- With every step a task that was told to stop is on its way to its end. -/
theorem Stopping.record (h : stopped.Stopping chronicle)
    (stage : chronicle.Stage interval devices) {action : Action} {next : Task}
    (step : chronicle.task.Step interval action next)
    : stopped.Stopping (chronicle.record next action) := by
  cases step with
  | elapse | wake | quit => exact ⟨h.stops, h.kept, h.answered.congr rfl rfl rfl rfl⟩
  | leave => exact ⟨h.stops, h.kept, h.answered.congr rfl rfl rfl rfl⟩
  | begin _ lasts => cases lasts.symm.trans h.stops
  | rest waits =>
      obtain ⟨_, _, _, current, _⟩ := stage.of_busy waits
      refine ⟨h.stops, ?_, h.answered.congr ?_ rfl ?_ ?_⟩
      · rw [← h.kept]
        simp [Chronicle.record, polls, current, Poll.beginning]
      · simp [Chronicle.record, asked, waits]
      · simp [Chronicle.record, Polling.History.record, Polling.History.answers]
      · simp [Chronicle.record, Polling.History.record, Polling.History.sent]
  | act begins ends step =>
      cases step with
      | call => exact absurd rfl begins
      | finish => exact absurd rfl ends
      | ask _ lasts => cases lasts.symm.trans h.stops
      | @answer device left found result waits =>
          have under : chronicle.task.asked = some device := by rw [asked, waits]; rfl
          refine ⟨h.stops, h.kept, ?_⟩
          cases h.answered with
          | replied _ _ none => cases none.symm.trans under
          | waits same monitor answers sent =>
              refine .replied result (same.symm.trans under) rfl ?_ ?_
              · rw [← answers]
                simp [Chronicle.record, Polling.History.record, Polling.History.answers, waits]
              · rw [← sent, ← monitor]
                simp [Chronicle.record, Polling.History.record, Polling.History.sent, waits]
      | stop => exact ⟨rfl, h.kept, h.answered.congr rfl rfl rfl rfl⟩
      | store | receive | abandon => exact ⟨h.stops, h.kept, h.answered.congr rfl rfl rfl rfl⟩

/-- From when it is told to stop on every task is on its way to its end. -/
theorem run_stopping (interval : Nat) (roster : Roster) (before after : List Action)
    : (run interval roster (before ++ [.act .stop])).Stopping
        (run interval roster (before ++ .act .stop :: after)) := by
  let stopped := run interval roster (before ++ [.act .stop])
  have stops : stopped.task.polling.stopped = true := by
    rw [show stopped = _ from run_append interval roster before [.act .stop]]
    rfl
  have goesOn : run interval roster (before ++ .act .stop :: after)
      = after.foldl (perform interval) stopped := by
    rw [List.append_cons, run_append]
  rw [goesOn]
  exact (foldl_perform_induction
    (motive := fun chronicle => chronicle.Told interval roster ∧ stopped.Stopping chronicle)
    ⟨run_told .., stops, rfl, .waits rfl rfl rfl rfl⟩
    (fun _ _ _ ih step => ⟨ih.1.step step, ih.2.record ih.1.stage step⟩) after).2

/-- A task stops as soon as it is told to. -/
structure StopsAtOnce (interval : Nat) (stopped chronicle : Chronicle) : Prop where
  /-- No poll begins any more, and no probe. -/
  kept : chronicle.polls.map Poll.beginning = stopped.polls.map Poll.beginning
  probes : chronicle.task.polling.probes = stopped.task.polling.probes
  /-- Only the probe under way is answered. A change that it shows is sent all the same. -/
  answered : stopped.Answered chronicle
  sends
    : ∀ device,
        chronicle.task.asked = some device
        → ∀ result,
            let event := (chronicle.task.polling.monitor.observe device.id (ofProbe result)).1
            ∃ next,
              chronicle.task.step? interval (.act (.answer result)) = some next
              ∧ next.asked = none
              ∧ next.polling.outlet
                = chronicle.task.polling.outlet.map (event.toList.foldl Channel.send)
  /-- No time passes but in that probe. -/
  still
    : chronicle.task.asked = none
      → chronicle.task.phase ≠ .ended
      → ∀ time, chronicle.task.step? interval (.elapse time) = none
  /-- The task takes a few steps more at most, whichever they are, until it has ended. -/
  few
    : ∀ (actions : List Action) (last : Task),
        actions.foldlM (step? interval) chronicle.task = some last
        → actions.countP Action.isOwn ≤ 4
  goesOn
    : chronicle.task.phase ≠ .ended
      → ∃ action,
          action.isOwn = true ∧ (chronicle.task.step? interval action).isSome = true

theorem run_stopsAtOnce (interval : Nat) (roster : Roster) (before after : List Action)
    : (run interval roster (before ++ [.act .stop])).StopsAtOnce interval
        (run interval roster (before ++ .act .stop :: after)) := by
  have untilStop := run_told interval roster (before ++ [.act .stop])
  have told := run_told interval roster (before ++ .act .stop :: after)
  have stopping := run_stopping interval roster before after
  generalize run interval roster (before ++ .act .stop :: after) = chronicle at *
  constructor
  case kept => exact stopping.kept
  case probes =>
    have same := congrArg (List.flatMap Prod.snd) stopping.kept
    simp only [List.flatMap_map] at same
    rw [told.probes, untilStop.probes]
    exact congrArg (List.map Prod.snd) same
  case answered => exact stopping.answered
  case sends =>
    intro device under result event
    obtain ⟨⟨left, _, found⟩, call, rfl⟩ := Option.bind_eq_some_iff.mp under
    rw [step?, if_neg (by simp), Polling.step?, call]
    exact ⟨_, rfl, rfl, rfl⟩
  case still =>
    intro idle lasts time
    have halts : chronicle.task.lets time = false := by
      rw [lets]
      split
      · rfl
      · rw [idle, Option.isSome_none]
      · rw [stopping.stops, Bool.not_true, Bool.false_and]
      · next phase => exact absurd phase lasts
    rw [step?, halts, if_neg Bool.false_ne_true]
  case few =>
    intro actions last happens
    have ends : chronicle.task.Ends := ⟨stopping.stops, told.stage.phase_of_busy⟩
    have left := ends.countP_isOwn_le happens
    have most := chronicle.task.remaining_le
    omega
  case goesOn => exact fun lasts => told.stage.exists_isOwn lasts stopping.stops

/-- A task polls at once and then an interval after each poll. Once it is told to stop, no probe
begins: the one under way is answered, and the task ends. So nothing is probed when it is told to
stop before it begins.
-/
theorem run_pollsUntilStopped (interval : Nat) (roster : Roster)
    (actions before after : List Action)
    : (run interval roster actions).KeepsInterval interval roster
      ∧ (run interval roster (before ++ [.act .stop])).StopsAtOnce interval
          (run interval roster (before ++ .act .stop :: after))
      ∧ (run interval roster (.act .stop :: after)).task.polling.probes = [] := by
  refine
    ⟨(run_told interval roster actions).keepsInterval, run_stopsAtOnce interval roster _ _, ?_⟩
  have nothing := (run_stopping interval roster [] after).kept
  have none : (run interval roster (.act .stop :: after)).polls = [] :=
    List.map_eq_nil_iff.mp nothing
  rw [(run_told interval roster _).probes, probed, none]
  rfl

/-- The second poll is told to stop in its first probe. The change that this shows is sent, and the
second device is not probed any more.
-/
example
    : let devices : List Device := [⟨"a", 1, .healthy⟩, ⟨"b", 2, .healthy⟩]
      let chronicle := run 10 (.ofList devices) [
        .check, .act .ask, .elapse 2, .act (.answer true), .act .ask, .act (.answer true), .rest,
        .elapse 10, .wake, .check, .act .ask, .act .stop, .elapse 3, .act (.answer false),
        .act .ask, .rest, .elapse 5, .quit]
      chronicle.polls
        = [{ start := 0, probed := [("a", 1), ("b", 2)], finish := some 2 },
            { start := 12, probed := [("a", 1)], finish := some 15, stopped := true }]
      ∧ chronicle.history.sent = [⟨"a", .unhealthy⟩]
      ∧ chronicle.task.phase = .ended := by
  decide

end Chronicle

end NodeDevices.Health.Task
