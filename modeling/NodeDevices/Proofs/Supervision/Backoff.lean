import NodeDevices.Proofs.Supervision.Schedule
import NodeDevices.Proofs.Supervision.Turns

/-! The wait after a pass that failed. A retry begins exactly when it is over, unless an event has
come by then, which is taken at once; with the end of a supervisor no wait is left.
-/

namespace NodeDevices.Supervision

variable {σ : Type} {fleet : Fleet σ} {backoff : Nat} {plugins : σ}

namespace Work.Timeline

variable {timeline next : Timeline σ}

/-- What holds of a timeline at any time. -/
structure Timed (backoff : Nat) (timeline : Timeline σ) : Prop where
  stage : timeline.Stage backoff
  queued : timeline.Queued
  answered : timeline.Answered

theorem Timed.step (h : timeline.Timed backoff) (step : Step fleet backoff timeline next)
    : next.Timed backoff where
  stage := h.stage.step h.queued step
  queued := h.queued.step step
  answered := h.answered.step h.stage step

theorem run_timed (fleet : Fleet σ) (backoff : Nat) (plugins : σ) (actions : List Action)
    : (run fleet backoff plugins actions).Timed backoff := by
  refine run_induction ?_ (fun _ _ timed step => timed.step step) actions
  exact {
    stage := .passing rfl rfl .first (by simp) rfl
    queued := ⟨[], rfl, fun _ => rfl⟩
    answered := ⟨rfl, nofun, nofun⟩
  }

/-- All passes but one that is under way are finished. -/
theorem Stage.exists_turns (h : timeline.Stage backoff)
    : ∃ more finish phase,
        more.length ≤ 1
        ∧ Turns backoff timeline.arrived timeline.begun (timeline.finished ++ more) finish
            phase := by
  cases h with
  | passing _ _ turns => exact ⟨_, _, _, Nat.le_refl _, turns .serving⟩
  | waiting _ _ waiting => exact ⟨[], _, _, Nat.zero_le _, by simpa using waiting.turns⟩
  | ending _ turns => exact ⟨[], _, _, Nat.zero_le _, by simpa using turns⟩

/-- A supervisor whose end was begun begins no pass. -/
theorem Stage.begun_step (h : timeline.Stage backoff) (step : Step fleet backoff timeline next)
    (ends : timeline.ending.isSome = true)
    : next.begun = timeline.begun ∧ next.ending.isSome = true := by
  have ended (idle : timeline.work.duty = none) (lasts : timeline.work.run.done = false)
      : False := by
    obtain ⟨_, waiting⟩ := h.exists_waiting idle lasts
    rw [waiting.opened] at ends
    cases ends
  cases step with
  | arrive | close | elapse | pass | stop => exact ⟨rfl, ends⟩
  | take idle lasts | terminate idle lasts | retry idle lasts | drain idle lasts =>
      exact (ended idle lasts).elim

/-- Nor does it later. -/
theorem Timed.begun_foldl_perform (h : timeline.Timed backoff)
    (ends : timeline.ending.isSome = true) (more : List Action)
    : (more.foldl (perform fleet backoff) timeline).begun = timeline.begun := by
  induction more generalizing timeline with
  | nil => rfl
  | cons action more ih =>
      rw [List.foldl_cons]
      rcases perform_cases timeline action with same | step
      · rw [same]
        exact ih h ends
      · obtain ⟨begun, still⟩ := h.stage.begun_step step ends
        exact (ih (h.step step) still).trans begun

/-- A retry can happen when a supervisor has failed and its wait is over, and only then. -/
theorem Stage.retry_isSome_iff (h : timeline.Stage backoff) (waits : timeline.work.waits = true)
    : ∃ finish,
        timeline.finished.getLast? = some (finish, timeline.work.run.supervisor.phase)
        ∧ timeline.begun.length = timeline.finished.length
        ∧ ((timeline.work.stepAtOnce? fleet backoff .retry).isSome = true
          ↔ timeline.work.run.supervisor.phase = .failed
            ∧ timeline.work.run.now = finish + backoff)
        ∧ ∀ time,
            (timeline.work.stepAtOnce? fleet backoff (.elapse time)).isSome = true
            ↔ timeline.work.run.queue = []
              ∧ timeline.work.run.closed = false
              ∧ (timeline.work.run.supervisor.phase = .failed
                → timeline.work.run.now + time ≤ finish + backoff) := by
  obtain ⟨idle, lasts⟩ := waits_iff.mp waits
  obtain ⟨finish, waiting⟩ := h.exists_waiting idle lasts
  have timer := waiting.timer
  refine ⟨finish, waiting.turns.getLast?, waiting.turns.length_eq, ?_, ?_⟩
  · by_cases failed : timeline.work.run.supervisor.phase = .failed
    · have latest := waiting.soon failed
      simp only [stepAtOnce?, step?, waits, timer, failed, Option.isSome_ite, if_true, true_and,
        Option.any_some, decide_eq_true_eq]
      omega
    · simp [stepAtOnce?, step?, timer, failed]
  · intro time
    simp only [stepAtOnce?, step?, Option.isSome_ite, lets_iff, lasts, idle, timer]
    by_cases failed : timeline.work.run.supervisor.phase = .failed <;> simp [failed]

/-- A failure is followed by a retry when the wait is over, unless an event has come by then or the
end was begun.
-/
theorem Stage.due (h : timeline.Stage backoff) {n finish : Nat}
    (failed : timeline.finished[n]? = some (finish, .failed))
    (past : finish + backoff < timeline.work.run.now)
    : timeline.begun[n + 1]? = some (finish + backoff, .retry)
      ∨ (∃ time event,
          timeline.begun[n + 1]? = some (time, .event event)
          ∧ (time, event) ∈ timeline.arrived
          ∧ finish ≤ time
          ∧ time ≤ finish + backoff)
      ∨ timeline.begun.length = n + 1
        ∧ ∃ time action,
            timeline.ending = some (time, action) ∧ finish ≤ time ∧ time ≤ finish + backoff := by
  obtain ⟨more, _, _, few, turns⟩ := h.exists_turns
  have length := turns.length_eq
  rw [List.length_append] at length
  obtain ⟨within, _⟩ := List.getElem?_eq_some_iff.mp failed
  by_cases followed : n + 1 < timeline.begun.length
  · obtain ⟨⟨time, cause⟩, next⟩ : ∃ entry, timeline.begun[n + 1]? = some entry :=
      ⟨_, List.getElem?_eq_getElem followed⟩
    obtain ⟨_, _, before, follows⟩ := turns.exists_follows next
    rw [List.getElem?_append_left within] at before
    cases failed.symm.trans before
    cases follows with
    | event after soon _ came => exact Or.inr (.inl ⟨_, _, next, came, after, soon rfl⟩)
    | retry => exact Or.inl next
  · refine Or.inr (.inr ⟨by omega, ?_⟩)
    have last : timeline.finished.getLast? = some (finish, .failed) := by
      rw [List.getLast?_eq_getElem?, ← failed]
      congr 1
      omega
    cases h with
    | passing _ _ turns =>
        have more := (turns .serving).length_eq
        rw [List.length_append, List.length_singleton] at more
        omega
    | waiting _ _ waiting =>
        obtain ⟨rfl, phase⟩ :=
          Prod.mk.inj (Option.some_inj.mp (waiting.turns.getLast?.symm.trans last))
        have now := waiting.soon phase
        omega
    | ending _ turns made _ after soon =>
        cases turns.getLast?.symm.trans last
        exact ⟨_, _, made, after, soon rfl⟩

/-- A supervisor that has not ended can act, or time can pass. -/
theorem Stage.goesOn (h : timeline.Stage backoff) (lasts : timeline.work.run.done = false)
    : ∃ action,
        (timeline.work.stepAtOnce? fleet backoff action).isSome = true
        ∧ (action.isOwn = true ∨ ∃ time > 0, action = .elapse time) := by
  cases h with
  | passing busy => exact ⟨.finish, by simp [stepAtOnce?, step?, busy], .inl rfl⟩
  | ending halts =>
      rcases halts with ⟨busy, _⟩ | ⟨_, ended⟩
      · exact ⟨.finish, by simp [stepAtOnce?, step?, busy], .inl rfl⟩
      · cases lasts.symm.trans ended
  | waiting idle =>
      have waits : timeline.work.waits = true := waits_iff.mpr ⟨idle, lasts⟩
      cases upcoming : timeline.work.run.queue with
      | cons event rest =>
          exact ⟨.take event, by simp [stepAtOnce?, step?, waits, upcoming], .inl rfl⟩
      | nil =>
          cases closed : timeline.work.run.closed with
          | true => exact ⟨.drain, by simp [stepAtOnce?, step?, waits, closed, upcoming], .inl rfl⟩
          | false =>
              by_cases due : timeline.work.run.retryAt.any (· ≤ timeline.work.run.now) = true
              · exact ⟨.retry, by simp [stepAtOnce?, step?, waits, due], .inl rfl⟩
              · refine ⟨.elapse 1, ?_, .inr ⟨1, Nat.one_pos, rfl⟩⟩
                have free : timeline.work.lets 1 = true := by
                  refine lets_iff.mpr (.inr ⟨⟨idle, lasts⟩, upcoming, closed, ?_⟩)
                  intro time waiting
                  simpa [waiting, Nat.succ_le_iff] using due
                simp [stepAtOnce?, step?, free]

/-- A supervisor keeps to its wait after a failure. -/
structure KeepsBackoff (fleet : Fleet σ) (backoff : Nat) (timeline : Timeline σ) : Prop where
  /-- A first pass is begun at once. -/
  first : timeline.begun.head? = some (0, .first)
  /-- A pass leaves its plugins serving or in failure, and it takes no time. -/
  instant
    : ∀ (n finish : Nat) (phase : Phase),
        timeline.finished[n]? = some (finish, phase)
        → (phase = .serving ∨ phase = .failed)
          ∧ ∃ cause, timeline.begun[n]? = some (finish, cause)
  /-- Another pass is for an event, or it follows on a failure, a backoff after its end. -/
  follows
    : ∀ (n time : Nat) (cause : Cause),
        timeline.begun[n + 1]? = some (time, cause)
        → ∃ finish phase,
            timeline.finished[n]? = some (finish, phase)
            ∧ Follows backoff timeline.arrived finish phase time cause
  /-- Each event that is taken makes a pass, but for one that makes an end. -/
  events
    : timeline.begun.filterMap (fun entry => entry.2.event?.map (entry.1, ·))
      = timeline.taken.filter (·.2 ≠ .terminate)
  /-- Events are taken in order, each of them when it comes. -/
  atOnce
    : ∃ left,
        timeline.arrived = timeline.taken ++ left
        ∧ (timeline.work.run.done = false
          → left = timeline.work.run.queue.map (timeline.work.run.now, ·))
  /-- A supervisor that waits has finished all passes. It retries when it has failed and its wait
  is over, and before that lets time pass up to then, when no event has come.
  -/
  waiting
    : timeline.work.waits = true
      → ∃ finish,
          timeline.finished.getLast? = some (finish, timeline.work.run.supervisor.phase)
          ∧ timeline.begun.length = timeline.finished.length
          ∧ ((timeline.work.stepAtOnce? fleet backoff .retry).isSome = true
            ↔ timeline.work.run.supervisor.phase = .failed
              ∧ timeline.work.run.now = finish + backoff)
          ∧ ∀ time,
              (timeline.work.stepAtOnce? fleet backoff (.elapse time)).isSome = true
              ↔ timeline.work.run.queue = []
                ∧ timeline.work.run.closed = false
                ∧ (timeline.work.run.supervisor.phase = .failed
                  → timeline.work.run.now + time ≤ finish + backoff)
  /-- The end of a wait does not pass without a retry, unless an event came by then, or the end. -/
  due
    : ∀ n finish : Nat,
        timeline.finished[n]? = some (finish, .failed)
        → finish + backoff < timeline.work.run.now
        → timeline.begun[n + 1]? = some (finish + backoff, .retry)
          ∨ (∃ time event,
              timeline.begun[n + 1]? = some (time, .event event)
              ∧ (time, event) ∈ timeline.arrived
              ∧ finish ≤ time
              ∧ time ≤ finish + backoff)
          ∨ timeline.begun.length = n + 1
            ∧ ∃ time action,
                timeline.ending = some (time, action)
                ∧ finish ≤ time
                ∧ time ≤ finish + backoff
  /-- An event that asks for the end makes it, and so does a queue that was found closed. -/
  terminated
    : ∀ time,
        (time, .terminate) ∈ timeline.taken → timeline.ending = some (time, .take .terminate)
  ended
    : ∀ time action, timeline.ending = some (time, action) → timeline.Ends time action
  /-- After that no pass begins, whatever happens. -/
  silent
    : ∀ more : List Action,
        timeline.ending.isSome = true
        → (more.foldl (perform fleet backoff) timeline).begun = timeline.begun
  /-- Until the end there is always something that can happen next. -/
  goesOn
    : timeline.work.run.done = false
      → ∃ action,
          (timeline.work.stepAtOnce? fleet backoff action).isSome = true
          ∧ (action.isOwn = true ∨ ∃ time > 0, action = .elapse time)

/-- Every supervisor keeps to its wait, whenever events come. -/
theorem run_keepsBackoff (fleet : Fleet σ) (backoff : Nat) (plugins : σ) (actions : List Action)
    : (run fleet backoff plugins actions).KeepsBackoff fleet backoff := by
  have timed := run_timed fleet backoff plugins actions
  obtain ⟨more, _, _, few, turns⟩ := timed.stage.exists_turns
  constructor
  case first => exact turns.head?
  case instant =>
    intro n finish phase finished
    refine ⟨timed.answered.phases _ (List.mem_of_getElem? finished), ?_⟩
    obtain ⟨within, _⟩ := List.getElem?_eq_some_iff.mp finished
    have time := congrArg (·[n]?) turns.times_eq
    simp only [List.getElem?_map, List.getElem?_append_left within, finished] at time
    obtain ⟨⟨_, cause⟩, begun, rfl⟩ := Option.map_eq_some_iff.mp time
    exact ⟨cause, begun⟩
  case follows =>
    intro n time cause later
    obtain ⟨finish, phase, before, follows⟩ := turns.exists_follows later
    obtain ⟨within, _⟩ := List.getElem?_eq_some_iff.mp later
    have length := turns.length_eq
    rw [List.length_append] at length
    rw [List.getElem?_append_left (by omega)] at before
    exact ⟨finish, phase, before, follows⟩
  case events => exact timed.answered.events
  case atOnce => exact timed.queued
  case waiting => exact timed.stage.retry_isSome_iff
  case due => exact fun _ _ => timed.stage.due
  case terminated => exact timed.answered.terminated
  case ended =>
    intro time action made
    cases timed.stage with
    | passing _ _ _ _ opened => cases opened.symm.trans made
    | waiting _ _ waiting => cases waiting.opened.symm.trans made
    | ending _ _ made' ends =>
        cases made'.symm.trans made
        exact ends
  case silent => exact fun more ends => timed.begun_foldl_perform ends more
  case goesOn => exact timed.stage.goesOn

/-- A supervisor fails twice and is retried after each wait. An event then comes before the end of
the next one, which is not waited for any more.
-/
example
    : let fleet : Fleet Nat := {
        size := 1
        start := fun _ starts => (decide (3 ≤ starts), starts + 1)
        stop := fun _ starts => (true, starts) }
      let timeline := run fleet 5 0 [
        .finish, .elapse 5, .retry, .finish, .elapse 4, .elapse 2, .send .reconfigure,
        .take .reconfigure, .finish, .retry, .elapse 5, .retry, .finish, .retry]
      timeline.begun = [(0, .first), (5, .retry), (9, .event .reconfigure), (14, .retry)]
      ∧ timeline.finished = [(0, .failed), (5, .failed), (9, .failed), (14, .serving)] := by
  decide

-----------------------------------------------------------------------------------------
-- A supervisor that acts until it waits
-----------------------------------------------------------------------------------------

/-- What a timeline performs happens to its supervisor, if it takes no time. -/
theorem work_perform (timeline : Timeline σ) {action : Action}
    (instant : ∀ time, action ≠ .elapse time)
    : (timeline.perform fleet backoff action).work
      = timeline.work.perform fleet backoff action := by
  have same : timeline.work.stepAtOnce? fleet backoff action
      = timeline.work.step? fleet backoff action := by
    cases action with
    | elapse time => exact absurd rfl (instant time)
    | send | close | take | retry | drain | finish => rfl
  rw [perform, Work.perform, same]
  split
  · next next can => rw [can, work_note, Option.getD_some]
  · next cannot => rw [cannot, Option.getD_none]

theorem work_foldl_perform (timeline : Timeline σ) {actions : List Action}
    (instant : ∀ action ∈ actions, ∀ time, action ≠ .elapse time)
    : (actions.foldl (perform fleet backoff) timeline).work
      = actions.foldl (Work.perform fleet backoff) timeline.work := by
  induction actions generalizing timeline with
  | nil => rfl
  | cons action rest ih =>
      obtain ⟨first, others⟩ := List.forall_mem_cons.mp instant
      rw [List.foldl_cons, ih _ others, work_perform _ first, List.foldl_cons]

/-- No more events wait than there is room for. -/
theorem run_queue_le (fleet : Fleet σ) (backoff : Nat) (plugins : σ) (actions : List Action)
    : (run fleet backoff plugins actions).work.run.queue.length ≤ queueCapacity := by
  refine run_induction (motive := fun timeline =>
    timeline.work.run.queue.length ≤ queueCapacity) (Nat.zero_le _) ?_ actions
  intro timeline next within step
  cases step with
  | arrive event _ _ room =>
      rw [List.length_append]
      exact room
  | take _ _ upcoming | terminate _ _ upcoming =>
      rw [upcoming] at within
      exact Nat.le_of_succ_le within
  | stop => exact Nat.zero_le _
  | close | elapse | retry | drain | pass => exact within

end Work.Timeline

namespace Run

variable {run after : Run σ}

/-- A state in which a supervisor whose calls take no time has finished what it has begun. -/
def IsTimely (fleet : Fleet σ) (backoff : Nat) (plugins : σ) (run : Run σ) : Prop :=
  ∃ actions, (Work.Timeline.run fleet backoff plugins actions).work = { run }

/-- A supervisor that rests lets time pass up to the end of its wait. -/
theorem Rests.lets (h : run.Rests) {time : Nat}
    (soon : ∀ due, run.done = false → run.retryAt = some due → run.now + time ≤ due)
    : Work.lets { run } time = true := by
  refine Work.Timeline.lets_iff.mpr ?_
  cases ended : run.done with
  | true => exact Or.inl rfl
  | false =>
      rcases h with ends | ⟨empty, opened, _⟩
      · cases ended.symm.trans ends
      · exact Or.inr ⟨⟨rfl, rfl⟩, empty, opened, fun due => soon due ended⟩

namespace IsTimely

/-- What happens next without taking time goes on with the run. -/
theorem next {actions : List Work.Action} (h : run.IsTimely fleet backoff plugins)
    (instant : ∀ action ∈ actions, ∀ time, action ≠ .elapse time)
    (led : actions.foldl (Work.perform fleet backoff) { run } = { run := after })
    : after.IsTimely fleet backoff plugins := by
  obtain ⟨earlier, reached⟩ := h
  refine ⟨earlier ++ actions, ?_⟩
  rw [Work.Timeline.run, List.foldl_append, Work.Timeline.work_foldl_perform _ instant,
    ← Work.Timeline.run, reached, led]

theorem start (fleet : Fleet σ) (backoff : Nat) (plugins : σ)
    : (Run.start fleet backoff plugins).IsTimely fleet backoff plugins :=
  ⟨[.finish], rfl⟩

theorem send (h : run.IsTimely fleet backoff plugins) (event : Event)
    : (run.send event).2.IsTimely fleet backoff plugins :=
  h.next (by simp)
    (show [Work.Action.send event].foldl (Work.perform fleet backoff) { run } = _ from rfl)

theorem close (h : run.IsTimely fleet backoff plugins)
    : { run with closed := true }.IsTimely fleet backoff plugins :=
  h.next (by simp)
    (show [Work.Action.close].foldl (Work.perform fleet backoff) { run } = _ from rfl)

theorem settle (h : run.IsTimely fleet backoff plugins) (bound : Nat)
    : (run.settle fleet backoff bound).IsTimely fleet backoff plugins := by
  obtain ⟨actions, own, led⟩ := leads_settle fleet backoff bound run
  refine h.next ?_ led
  rintro _ member time rfl
  cases own _ member

/-- A supervisor that acts as long as it has something to do then rests. -/
theorem settle_rests (positive : 0 < backoff) (h : run.IsTimely fleet backoff plugins)
    : (run.settle fleet backoff instantBound).Rests := by
  obtain ⟨actions, reached⟩ := h
  have within := Work.Timeline.run_queue_le fleet backoff plugins actions
  rw [reached] at within
  exact Run.settle_rests positive
    (Nat.le_trans run.pending_le (Nat.le_trans (Nat.succ_le_succ within) (Nat.le_succ _)))

/-- Time passes until some later instant, if a supervisor lets it. -/
theorem elapse (h : run.IsTimely fleet backoff plugins) {time : Nat} (later : run.now ≤ time)
    (free : Work.lets { run } (time - run.now) = true)
    : { run with now := time }.IsTimely fleet backoff plugins := by
  obtain ⟨earlier, reached⟩ := h
  refine ⟨earlier ++ [.elapse (time - run.now)], ?_⟩
  rw [Work.Timeline.run, List.foldl_append, ← Work.Timeline.run, List.foldl_cons, List.foldl_nil,
    Work.Timeline.perform, reached]
  simp [Work.stepAtOnce?, Work.step?, free, Nat.add_sub_cancel' later]

theorem advanceTo (positive : 0 < backoff) (h : run.IsTimely fleet backoff plugins)
    (target bound : Nat)
    : (run.advanceTo fleet backoff target bound).IsTimely fleet backoff plugins := by
  induction bound generalizing run with
  | zero => exact h
  | succ bound ih =>
      have settled := h.settle instantBound
      have rests := h.settle_rests positive
      rw [Run.advanceTo]
      generalize run.settle fleet backoff instantBound = rested at settled rests ⊢
      have still (waits : rested.retryAt = none ∨ ∃ due, rested.retryAt = some due ∧ target ≤ due)
          : ({ rested with now := max target rested.now }).IsTimely fleet backoff plugins := by
        refine settled.elapse (Nat.le_max_right ..) (rests.lets ?_)
        intro due lasts waiting
        rcases rests with ended | ⟨_, _, later⟩
        · cases lasts.symm.trans ended
        · have early := later due waiting
          rcases waits with none | ⟨_, some, after⟩
          · cases none.symm.trans waiting
          · cases some.symm.trans waiting
            omega
      split
      · next time waiting =>
          split
          · next soon =>
              refine ih (settled.elapse (Nat.le_of_lt soon.1) (rests.lets ?_))
              intro due _ same
              cases waiting.symm.trans same
              exact Nat.le_of_eq (Nat.add_sub_cancel' (Nat.le_of_lt soon.1))
          · next late =>
              rcases rests with ended | ⟨_, _, later⟩
              · refine settled.elapse (Nat.le_max_right ..) ?_
                simp [Work.lets, ended]
              · have early := later time waiting
                exact still (.inr ⟨time, waiting, by omega⟩)
      · next none => exact still (.inl none)

/-- A supervisor for which time passes keeps to the times of one whose calls take none. -/
theorem advance (positive : 0 < backoff) (h : run.IsTimely fleet backoff plugins) (time : Nat)
    : (run.advance fleet backoff time).IsTimely fleet backoff plugins :=
  (h.advanceTo positive (run.now + time) (time + 2)).settle instantBound

end IsTimely

end Run

end NodeDevices.Supervision
