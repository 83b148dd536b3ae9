import NodeDevices.Daemon
import NodeDevices.Proofs.Supervision.Intake

/-! A supervisor that acts at once until it waits takes its steps one after another, and so does
a daemon that is told of signals and changes: what holds in all runs holds of them.
-/

namespace NodeDevices

namespace Supervision

variable {σ : Type} {fleet : Fleet σ} {backoff : Nat} {plugins : σ}

/-- Performs an action, if it can happen. -/
def Work.perform (fleet : Fleet σ) (backoff : Nat) (work : Work σ) (action : Work.Action)
    : Work σ :=
  (work.step? fleet backoff action).getD work

theorem Work.perform_of_step? {work next : Work σ} {action : Work.Action}
    (can : work.step? fleet backoff action = some next)
    : work.perform fleet backoff action = next := by
  rw [perform, can, Option.getD_some]

/-- What a chronicle performs happens to its supervisor. -/
theorem Work.Chronicle.work_perform (chronicle : Chronicle σ) (action : Action)
    : (chronicle.perform fleet backoff action).work
      = chronicle.work.perform fleet backoff action := by
  rw [perform, Work.perform]
  split
  · next next can => rw [can, Option.getD_some]
  · next cannot => rw [cannot, Option.getD_none]

theorem Work.Chronicle.work_foldl_perform (chronicle : Chronicle σ) (actions : List Action)
    : (actions.foldl (perform fleet backoff) chronicle).work
      = actions.foldl (Work.perform fleet backoff) chronicle.work :=
  (List.foldl_hom work fun chronicle action => (work_perform chronicle action).symm).symm

/-- What an intake's chronicle performs happens to it. -/
theorem Intake.Chronicle.intake_perform (chronicle : Chronicle σ) (action : Action)
    : (chronicle.perform fleet backoff action).intake
      = chronicle.intake.perform fleet backoff action := by
  rw [perform, Intake.perform]
  split
  · next next can => rw [can, Option.getD_some]
  · next cannot => rw [cannot, Option.getD_none]

theorem Intake.Chronicle.intake_foldl_perform (chronicle : Chronicle σ) (actions : List Action)
    : (actions.foldl (perform fleet backoff) chronicle).intake
      = actions.foldl (Intake.perform fleet backoff) chronicle.intake :=
  (List.foldl_hom intake fun chronicle action => (intake_perform chronicle action).symm).symm

/-- What a supervisor gets to by itself, it gets to among those that send it events. -/
theorem Intake.foldl_perform_act {actions : List Work.Action}
    (own : ∀ action ∈ actions, action.isOwn = true) (intake : Intake σ)
    : (actions.map .act).foldl (perform fleet backoff) intake
      = { intake with work := actions.foldl (Work.perform fleet backoff) intake.work } := by
  induction actions generalizing intake with
  | nil => rfl
  | cons action rest ih =>
      obtain ⟨first, others⟩ := List.forall_mem_cons.mp own
      rw [List.map_cons, List.foldl_cons, ih others, List.foldl_cons]
      have same : intake.perform fleet backoff (.act action)
          = { intake with work := intake.work.perform fleet backoff action } := by
        rw [perform, step?, if_pos first, Work.perform]
        cases intake.work.step? fleet backoff action <;> rfl
      rw [same]

/-- What happens to an intake is at most one step of its supervisor. -/
theorem Intake.exists_perform (fleet : Fleet σ) (backoff : Nat) (intake : Intake σ)
    (action : Action)
    : ∃ actions : List Work.Action,
        actions.foldl (Work.perform fleet backoff) intake.work
        = (intake.perform fleet backoff action).work := by
  cases can : intake.step? fleet backoff action with
  | none => exact ⟨[], by rw [perform, can]; rfl⟩
  | some next =>
      rw [perform, can, Option.getD_some]
      cases Step.of_step? can with
      | notice => exact ⟨[.send .kubeletRestarted], rfl⟩
      | miss | signal | reserve | leave => exact ⟨[], rfl⟩
      | @forward event => exact ⟨[.send event], rfl⟩
      | elapse time => exact ⟨[.elapse time], rfl⟩
      | @act action work own step =>
          obtain ⟨_, steps⟩ := Option.ite_none_right_eq_some.mp can
          obtain ⟨other, steps, same⟩ := Option.map_eq_some_iff.mp steps
          cases same
          exact ⟨[action], Work.perform_of_step? steps⟩

/-- The supervisor of an intake goes through a run of its own. -/
theorem Intake.Chronicle.run_work (fleet : Fleet σ) (backoff : Nat) (plugins : σ)
    (actions : List Action)
    : ∃ others,
        (Work.Chronicle.run fleet backoff plugins others).work
        = (run fleet backoff plugins actions).intake.work := by
  induction actions using List.reverseRecOn with
  | nil => exact ⟨[], rfl⟩
  | append_singleton actions action ih =>
      obtain ⟨others, same⟩ := ih
      obtain ⟨more, led⟩ :=
        exists_perform fleet backoff (run fleet backoff plugins actions).intake action
      have next : (run fleet backoff plugins (actions ++ [action])).intake
          = (run fleet backoff plugins actions).intake.perform fleet backoff action := by
        rw [run, List.foldl_append, List.foldl_cons, List.foldl_nil, ← run, intake_perform]
      refine ⟨others ++ more, ?_⟩
      rw [Work.Chronicle.run, List.foldl_append, Work.Chronicle.work_foldl_perform,
        ← Work.Chronicle.run, same, led, next]

-----------------------------------------------------------------------------------------
-- Acting until there is nothing to do
-----------------------------------------------------------------------------------------

namespace Run

/-- A supervisor gets from one state in which it has begun nothing to another, by itself. -/
def Leads (fleet : Fleet σ) (backoff : Nat) (run next : Run σ) : Prop :=
  ∃ actions : List Work.Action,
    (∀ action ∈ actions, action.isOwn = true)
    ∧ actions.foldl (Work.perform fleet backoff) { run } = { run := next }

variable {run after last : Run σ}

theorem Leads.refl (run : Run σ) : run.Leads fleet backoff run :=
  ⟨[], nofun, rfl⟩

theorem Leads.trans (h : run.Leads fleet backoff after) (later : after.Leads fleet backoff last)
    : run.Leads fleet backoff last := by
  obtain ⟨actions, own, reached⟩ := h
  obtain ⟨others, also, ends⟩ := later
  refine ⟨actions ++ others, ?_, ?_⟩
  · intro action member
    exact (List.mem_append.mp member).elim (own action) (also action)
  · rw [List.foldl_append, reached, ends]

/-- What is begun is finished. -/
theorem leads_of_begin {action : Work.Action} {duty : Duty} {begun : Run σ}
    (own : action.isOwn = true)
    (can : Work.step? fleet backoff { run } action = some { run := begun, duty := some duty })
    : run.Leads fleet backoff
        (match duty with
          | .pass => begun.pass fleet backoff
          | .ending => begun.finish fleet) := by
  refine ⟨[action, .finish], ?_, ?_⟩
  · intro other member
    rcases List.mem_pair.mp member with rfl | rfl
    · exact own
    · rfl
  · rw [List.foldl_cons, Work.perform_of_step? can]
    cases duty <;> rfl

/-- An event is taken and acted on. -/
theorem leads_handle {event : Event} {queue : List Event} (lasts : run.done = false)
    (upcoming : run.queue = event :: queue)
    : run.Leads fleet backoff ({ run with queue }.handle fleet backoff event) := by
  have can : Work.step? fleet backoff { run } (.take event)
      = some { run := { run with queue }, duty := some event.duty } := by
    simp [Work.step?, Work.waits, lasts, upcoming]
  have led := leads_of_begin rfl can
  cases event <;> exact led

/-- A closed queue with nothing in it makes an end. -/
theorem leads_finish (lasts : run.done = false) (closed : run.closed = true)
    (empty : run.queue = [])
    : run.Leads fleet backoff (run.finish fleet) := by
  have can : Work.step? fleet backoff { run } .drain
      = some { run, duty := some .ending } := by
    simp [Work.step?, Work.waits, lasts, closed, empty]
  exact leads_of_begin rfl can

/-- A pass follows on a wait that is over. -/
theorem leads_pass {time : Nat} (lasts : run.done = false) (waiting : run.retryAt = some time)
    (due : time ≤ run.now)
    : run.Leads fleet backoff (run.pass fleet backoff) := by
  have can : Work.step? fleet backoff { run } .retry = some { run, duty := some .pass } := by
    simp [Work.step?, Work.waits, lasts, waiting, due]
  exact leads_of_begin rfl can

/-- A supervisor that acts until it waits gets there by itself. -/
theorem leads_settle (fleet : Fleet σ) (backoff bound : Nat) (run : Run σ)
    : run.Leads fleet backoff (run.settle fleet backoff bound) := by
  induction bound generalizing run with
  | zero => exact .refl run
  | succ bound ih =>
      rw [settle]
      split
      · exact .refl run
      · next runs =>
          have lasts : run.done = false := Bool.eq_false_iff.mpr runs
          split
          · next event queue upcoming => exact (leads_handle lasts upcoming).trans (ih _)
          · next empty =>
              split
              · next closed => exact leads_finish lasts closed empty
              · split
                · next time waiting =>
                    split
                    · next past => exact (leads_pass lasts waiting past).trans (ih _)
                    · exact .refl run
                · exact .refl run

/-- A supervisor that has ended, or waits with nothing to do. -/
def Rests (run : Run σ) : Prop :=
  run.done = true
  ∨ run.queue = [] ∧ run.closed = false ∧ ∀ time, run.retryAt = some time → run.now < time

/-- The number of turns that a supervisor can take at once, when its waits take time. -/
def pending (run : Run σ) : Nat :=
  if run.done then 0
  else run.queue.length + if run.closed ∨ run.retryAt.any (· ≤ run.now) then 1 else 0

theorem pending_le (run : Run σ) : run.pending ≤ run.queue.length + 1 := by
  rw [pending]
  split
  · exact Nat.zero_le _
  · split <;> omega

theorem rests_of_pending (nothing : run.pending = 0) : run.Rests := by
  rw [pending] at nothing
  split at nothing
  · next ended => exact Or.inl ended
  · obtain ⟨empty, rest⟩ := Nat.add_eq_zero_iff.mp nothing
    split at rest
    · cases rest
    · next free =>
        obtain ⟨closed, due⟩ := not_or.mp free
        refine Or.inr ⟨List.eq_nil_of_length_eq_zero empty, Bool.eq_false_iff.mpr closed, ?_⟩
        intro time waiting
        simpa [waiting] using due

/-- After a pass no wait is over yet. -/
theorem pending_pass (positive : 0 < backoff)
    : (run.pass fleet backoff).pending ≤ run.queue.length + if run.closed then 1 else 0 := by
  have due : (run.pass fleet backoff).retryAt.any (· ≤ run.now) = false := by
    simp only [pass]
    split
    · exact decide_eq_false (Nat.not_le.mpr (Nat.lt_add_of_pos_right positive))
    · rfl
  have later : (run.pass fleet backoff).now = run.now := rfl
  rw [pending, later, due]
  split
  · exact Nat.zero_le _
  · simp [pass]

/-- Each event that is acted on is a turn less. -/
theorem pending_handle (positive : 0 < backoff) {event : Event} {queue : List Event}
    (lasts : run.done = false) (upcoming : run.queue = event :: queue)
    : ({ run with queue }.handle fleet backoff event).pending < run.pending := by
  have turns : queue.length + (if run.closed then 1 else 0) < run.pending := by
    rw [pending, lasts, upcoming, List.length_cons]
    cases run.closed
    · simp
      omega
    · simp
  cases event with
  | terminate => exact Nat.lt_of_le_of_lt (Nat.zero_le _) turns
  | startFailed | kubeletRestarted | reconfigure =>
      exact Nat.lt_of_le_of_lt (pending_pass positive) turns

/-- When its waits take time, a supervisor that acts often enough gets to where it waits. -/
theorem settle_rests (positive : 0 < backoff) {bound : Nat} (enough : run.pending ≤ bound)
    : (run.settle fleet backoff bound).Rests := by
  induction bound generalizing run with
  | zero => exact rests_of_pending (Nat.le_zero.mp enough)
  | succ bound ih =>
      rw [settle]
      split
      · next ended => exact Or.inl ended
      · next runs =>
          have lasts : run.done = false := Bool.eq_false_iff.mpr runs
          split
          · next event queue upcoming =>
              exact ih (Nat.le_of_lt_succ
                (Nat.lt_of_lt_of_le (pending_handle positive lasts upcoming) enough))
          · next empty =>
              split
              · exact Or.inl rfl
              · next opened =>
                  have closed : run.closed = false := Bool.eq_false_iff.mpr opened
                  split
                  · next time waiting =>
                      split
                      · refine ih (Nat.le_trans (pending_pass positive) ?_)
                        simp [empty, closed]
                      · next early =>
                          refine Or.inr ⟨empty, closed, ?_⟩
                          intro other same
                          cases waiting.symm.trans same
                          exact Nat.lt_of_not_le early
                  · next none =>
                      exact Or.inr ⟨empty, closed, fun _ some => nomatch none.symm.trans some⟩

-----------------------------------------------------------------------------------------
-- A supervisor in the course of time
-----------------------------------------------------------------------------------------

/-- A state in which a supervisor has begun nothing that is not finished, after some run. -/
def IsReached (fleet : Fleet σ) (backoff : Nat) (plugins : σ) (run : Run σ) : Prop :=
  ∃ actions, (Work.Chronicle.run fleet backoff plugins actions).work = { run }

namespace IsReached

/-- What happens next goes on with the run. -/
theorem next {actions : List Work.Action} (h : run.IsReached fleet backoff plugins)
    (led : actions.foldl (Work.perform fleet backoff) { run } = { run := after })
    : after.IsReached fleet backoff plugins := by
  obtain ⟨earlier, reached⟩ := h
  refine ⟨earlier ++ actions, ?_⟩
  rw [Work.Chronicle.run, List.foldl_append, Work.Chronicle.work_foldl_perform,
    ← Work.Chronicle.run, reached, led]

theorem start (fleet : Fleet σ) (backoff : Nat) (plugins : σ)
    : (Run.start fleet backoff plugins).IsReached fleet backoff plugins :=
  ⟨[.finish], rfl⟩

theorem send (h : run.IsReached fleet backoff plugins) (event : Event)
    : (run.send event).2.IsReached fleet backoff plugins :=
  h.next (show [Work.Action.send event].foldl (Work.perform fleet backoff) { run } = _ from rfl)

theorem close (h : run.IsReached fleet backoff plugins)
    : { run with closed := true }.IsReached fleet backoff plugins :=
  h.next (show [Work.Action.close].foldl (Work.perform fleet backoff) { run } = _ from rfl)

theorem settle (h : run.IsReached fleet backoff plugins) (bound : Nat)
    : (run.settle fleet backoff bound).IsReached fleet backoff plugins := by
  obtain ⟨actions, _, led⟩ := leads_settle fleet backoff bound run
  exact h.next led

/-- Time passes until some later instant. -/
theorem elapse (h : run.IsReached fleet backoff plugins) {time : Nat} (later : run.now ≤ time)
    : { run with now := time }.IsReached fleet backoff plugins := by
  obtain ⟨more, rfl⟩ := Nat.exists_eq_add_of_le later
  exact h.next
    (show [Work.Action.elapse more].foldl (Work.perform fleet backoff) { run } = _ from rfl)

theorem advanceTo (h : run.IsReached fleet backoff plugins) (target bound : Nat)
    : (run.advanceTo fleet backoff target bound).IsReached fleet backoff plugins := by
  induction bound generalizing run with
  | zero => exact h
  | succ bound ih =>
      have settled := h.settle instantBound
      rw [Run.advanceTo]
      split
      · next time waiting =>
          split
          · next soon => exact ih (settled.elapse (Nat.le_of_lt soon.1))
          · exact settled.elapse (Nat.le_max_right ..)
      · exact settled.elapse (Nat.le_max_right ..)

/-- A supervisor that time passes for goes on with its run. -/
theorem advance (h : run.IsReached fleet backoff plugins) (time : Nat)
    : (run.advance fleet backoff time).IsReached fleet backoff plugins :=
  (h.advanceTo (run.now + time) (time + 2)).settle instantBound

end IsReached

/-- No time passes while a supervisor acts. -/
theorem settle_now (fleet : Fleet σ) (backoff bound : Nat) (run : Run σ)
    : (run.settle fleet backoff bound).now = run.now := by
  induction bound generalizing run with
  | zero => rfl
  | succ bound ih =>
      rw [settle]
      split
      · rfl
      · split
        · next event queue _ =>
            rw [ih]
            cases event <;> rfl
        · split
          · rfl
          · split
            · split
              · rw [ih]
                rfl
              · rfl
            · rfl

/-- Time that is to pass does, however many waits are over in it. -/
theorem advanceTo_now {target bound : Nat} (later : run.now ≤ target)
    (enough : target - run.now < bound)
    : (run.advanceTo fleet backoff target bound).now = target := by
  induction bound generalizing run with
  | zero => omega
  | succ bound ih =>
      have settled : (run.settle fleet backoff instantBound).now = run.now := settle_now ..
      rw [advanceTo]
      split
      · split
        · next soon =>
            refine ih soon.2 ?_
            have past := soon.1
            simp only
            omega
        · exact (congrArg (max target) settled).trans (Nat.max_eq_left later)
      · exact (congrArg (max target) settled).trans (Nat.max_eq_left later)

theorem advance_now (fleet : Fleet σ) (backoff : Nat) (run : Run σ) (time : Nat)
    : (run.advance fleet backoff time).now = run.now + time := by
  rw [advance, settle_now]
  exact advanceTo_now (Nat.le_add_right ..) (by omega)

end Run

end Supervision

-----------------------------------------------------------------------------------------
-- The daemon
-----------------------------------------------------------------------------------------

namespace Daemon

open Supervision

/-- A daemon after some run, whose supervisor has nothing to do. -/
structure IsSettled (daemon : Daemon) : Prop where
  reached
    : ∃ plugins actions,
        daemon.intake = (Intake.Chronicle.run daemon.fleet defaultBackoff plugins actions).intake
  idle : daemon.intake.work.duty = none
  rests : daemon.run.Rests

variable {daemon : Daemon}

/-- A daemon that lets its supervisor act after some actions has gone on with its run. -/
theorem isSettled_act {actions : List Intake.Action}
    (reached
      : ∃ plugins earlier,
          daemon.intake
          = (Intake.Chronicle.run daemon.fleet defaultBackoff plugins earlier).intake)
    (idle
      : (actions.foldl (Intake.perform daemon.fleet defaultBackoff) daemon.intake).work.duty
        = none)
    : (daemon.act actions).IsSettled := by
  obtain ⟨plugins, earlier, same⟩ := reached
  let told := actions.foldl (Intake.perform daemon.fleet defaultBackoff) daemon.intake
  have begun : told.work = { run := told.work.run } := by
    have none : told.work.duty = none := idle
    rw [← none]
  have telling : (Intake.Chronicle.run daemon.fleet defaultBackoff plugins
      (earlier ++ actions)).intake = told := by
    rw [Intake.Chronicle.run, List.foldl_append, ← Intake.Chronicle.run,
      Intake.Chronicle.intake_foldl_perform, ← same]
  obtain ⟨own, isOwn, led⟩ :=
    Run.leads_settle daemon.fleet defaultBackoff Run.instantBound told.work.run
  have settling : (Intake.Chronicle.run daemon.fleet defaultBackoff plugins
      (earlier ++ actions ++ own.map .act)).intake
        = told.settle daemon.fleet defaultBackoff := by
    rw [Intake.Chronicle.run, List.foldl_append, ← Intake.Chronicle.run,
      Intake.Chronicle.intake_foldl_perform, telling, Intake.foldl_perform_act isOwn, begun, led,
      Intake.settle, begun]
  have enough : told.work.run.pending ≤ Run.instantBound := by
    have within := (Intake.run_open daemon.fleet defaultBackoff plugins (earlier ++ actions)).2
    rw [telling] at within
    have few : told.work.run.queue.length ≤ queueCapacity :=
      Nat.le_trans (Nat.le_add_right ..) within
    have turns := told.work.run.pending_le
    rw [Run.instantBound]
    omega
  exact {
    reached := ⟨plugins, _, settling.symm⟩
    idle
    rests := Run.settle_rests (by decide) enough
  }

/-- What comes from outside has the supervisor begin nothing. -/
theorem duty_foldl_perform {σ : Type} {fleet : Fleet σ} {backoff : Nat} (intake : Intake σ)
    {actions : List Intake.Action} (outside : ∀ action ∈ actions, ∀ own, action ≠ .act own)
    : (actions.foldl (Intake.perform fleet backoff) intake).work.duty = intake.work.duty := by
  induction actions generalizing intake with
  | nil => rfl
  | cons action rest ih =>
      obtain ⟨first, others⟩ := List.forall_mem_cons.mp outside
      rw [List.foldl_cons, ih _ others, Intake.perform]
      cases can : intake.step? fleet backoff action with
      | none => rfl
      | some next =>
          cases Intake.Step.of_step? can with
          | act => exact absurd rfl (first _)
          | _ => rfl

/-- A daemon that has started is settled. -/
theorem start_isSettled {application : Application} {transport : Http.Transport}
    {workingDirectory : String} {node : Node}
    (started : start application transport workingDirectory node = .ok daemon)
    : daemon.IsSettled := by
  simp only [start, bind, Except.bind] at started
  split at started
  · cases started
  · cases started
    exact isSettled_act ⟨_, [], rfl⟩ rfl

/-- A daemon is settled again after a signal. -/
theorem IsSettled.signal (h : daemon.IsSettled) (signal : Signal)
    : (daemon.signal signal).IsSettled := by
  refine isSettled_act h.reached ?_
  rw [duty_foldl_perform _ (by simp), h.idle]

/-- A daemon is settled again after a change of the node's files. -/
theorem IsSettled.notice (h : daemon.IsSettled) (change : Kubelet.Change)
    : (daemon.notice change).IsSettled := by
  rw [Daemon.notice]
  split
  · refine isSettled_act h.reached ?_
    rw [duty_foldl_perform _ (by simp), h.idle]
  · exact h

end Daemon

end NodeDevices
