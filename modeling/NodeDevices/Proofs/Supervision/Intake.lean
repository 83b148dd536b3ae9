import NodeDevices.Proofs.Supervision.Course
import NodeDevices.Supervision.Intake

/-! No time that the kubelet's socket is made anew goes unheeded, although its event is dropped
when the queue is full: what fills the queue then has the supervisor make a pass later.
-/

namespace NodeDevices.Supervision

/-- Says whether an action begins a pass. -/
def Work.Action.restarts : Work.Action → Bool
  | .take event => event ≠ .terminate
  | .retry => true
  | _ => false

namespace Intake

variable {σ : Type} {fleet : Fleet σ} {backoff size : Nat} {intake next : Intake σ}

/-- A proof view of the actions that can happen, with what each of them finds and leaves. -/
inductive Step (fleet : Fleet σ) (backoff : Nat) (intake : Intake σ)
    : Action → Intake σ → Prop
  | notice (room : intake.taken < queueCapacity)
    : Step fleet backoff intake .notice (intake.send .kubeletRestarted).2
  | miss (full : queueCapacity ≤ intake.taken) : Step fleet backoff intake .notice intake
  | signal {signal} (free : intake.listener = .listening)
    : Step fleet backoff intake (.signal signal)
        { intake with listener := .waiting signal.event }
  | reserve {event} (waits : intake.listener = .waiting event)
    (room : intake.taken < queueCapacity)
    : Step fleet backoff intake .reserve { intake with listener := .reserved event }
  | leave {event} (waits : intake.listener = .waiting event)
    (ended : intake.work.run.done = true)
    : Step fleet backoff intake .reserve { intake with listener := .ended }
  | forward {event listener} (reserved : intake.listener = .reserved event)
    (frees : listener.places = 0)
    : Step fleet backoff intake .forward { (intake.send event).2 with listener }
  | elapse (time)
    : Step fleet backoff intake (.elapse time)
        { intake with
          work := { intake.work with
            run := { intake.work.run with now := intake.work.run.now + time } } }
  | act {action work} (own : action.isOwn = true)
    (step : intake.work.Step fleet backoff action work)
    : Step fleet backoff intake (.act action) { intake with work }

/-- The view covers every action that can happen. -/
theorem Step.of_step? {action : Action} (h : intake.step? fleet backoff action = some next)
    : Step fleet backoff intake action next := by
  cases action with
  | notice =>
      cases h
      split
      · next room => exact .notice room
      · next full => exact .miss (Nat.le_of_not_lt full)
  | signal signal =>
      simp only [step?] at h
      split at h
      · next free => cases h; exact .signal free
      · cases h
  | reserve =>
      simp only [step?] at h
      split at h
      · next event waits =>
          split at h
          · next ended => cases h; exact .leave waits ended
          · split at h
            · next room => cases h; exact .reserve waits room
            · cases h
      · cases h
  | forward =>
      simp only [step?] at h
      split at h
      · next event reserved =>
          cases h
          refine .forward reserved ?_
          split <;> rfl
      · cases h
  | elapse time => cases h; exact .elapse time
  | act action =>
      obtain ⟨own, can⟩ := Option.ite_none_right_eq_some.mp h
      obtain ⟨work, steps, same⟩ := Option.map_eq_some_iff.mp can
      cases same
      exact .act own (.of_step? steps)

-----------------------------------------------------------------------------------------
-- Histories
-----------------------------------------------------------------------------------------

/-- Something that happened, with the calls that the supervisor made then. -/
structure Moment where
  action : Action
  calls : List (Call × Bool) := []
  deriving DecidableEq, Repr

/-- An intake with all that has happened. -/
structure Chronicle (σ : Type) where
  intake : Intake σ
  past : List Moment := []

/-- What happens in an action that leads to a next state. -/
def moment (intake : Intake σ) (action : Action) (next : Intake σ) : Moment where
  action
  calls := next.work.run.supervisor.made.drop intake.work.run.supervisor.made.length

namespace Chronicle

/-- Performs an action, if it can happen. -/
def perform (fleet : Fleet σ) (backoff : Nat) (chronicle : Chronicle σ) (action : Action)
    : Chronicle σ :=
  match chronicle.intake.step? fleet backoff action with
  | some next => {
      intake := next
      past := chronicle.past ++ [chronicle.intake.moment action next]
    }
  | none => chronicle

/-- An intake from its beginning, after the actions that could happen of a list. -/
def run (fleet : Fleet σ) (backoff : Nat) (plugins : σ) (actions : List Action) : Chronicle σ :=
  actions.foldl (perform fleet backoff) { intake := { work := .start plugins } }

/-- What holds of an intake that begins, and after each step, holds of every run. -/
theorem run_induction {plugins : σ} {motive : Chronicle σ → Prop}
    (start : motive { intake := { work := .start plugins } })
    (step
      : ∀ actions action next,
          motive (run fleet backoff plugins actions)
          → Step fleet backoff (run fleet backoff plugins actions).intake action next
          → motive {
              intake := next
              past
                := (run fleet backoff plugins actions).past
                  ++ [(run fleet backoff plugins actions).intake.moment action next]
            })
    (actions : List Action)
    : motive (run fleet backoff plugins actions) := by
  induction actions using List.reverseRecOn with
  | nil => exact start
  | append_singleton actions action ih =>
      rw [run, List.foldl_append, List.foldl_cons, List.foldl_nil, ← run, perform]
      split
      · next next can => exact step actions action next ih (.of_step? can)
      · exact ih

end Chronicle

-----------------------------------------------------------------------------------------
-- Places in the queue
-----------------------------------------------------------------------------------------

/-- Sending an event adds it to the queue at most. -/
theorem send_eq (intake : Intake σ) (event : Event)
    : ∃ more,
        more.length ≤ 1
        ∧ (intake.send event).2
          = { intake with
              work := { intake.work with
                run := { intake.work.run with queue := intake.work.run.queue ++ more } } } := by
  obtain ⟨more, few, sent⟩ := Work.run_send intake.work.run event
  have left : (intake.send event).2
      = { intake with
          work := { intake.work with run := (intake.work.run.send event).2 } } := rfl
  exact ⟨more, few, by rw [left, sent]⟩

/-- A queue that is read has what is sent to it when there is room. -/
theorem send_of_room {run : Run σ} (lasts : run.done = false) (closed : run.closed = false)
    (room : run.queue.length < queueCapacity) (event : Event)
    : (run.send event).2 = { run with queue := run.queue ++ [event] } := by
  rw [Run.send, if_neg (by simp [lasts, closed, room])]

/-- Nothing closes the queue. -/
theorem Step.closed {action : Action} (step : Step fleet backoff intake action next)
    : next.work.run.closed = intake.work.run.closed := by
  cases step with
  | notice =>
      obtain ⟨more, _, sent⟩ := send_eq intake .kubeletRestarted
      rw [sent]
  | @forward event =>
      obtain ⟨more, _, sent⟩ := send_eq intake event
      rw [sent]
  | miss | signal | reserve | leave | elapse => rfl
  | act own step =>
      cases step with
      | send | close | elapse => cases own
      | take | retry | drain | pass | ending => rfl

/-- No more places are taken than there are. -/
theorem Step.taken_le {action : Action} (step : Step fleet backoff intake action next)
    (h : intake.taken ≤ queueCapacity)
    : next.taken ≤ queueCapacity := by
  cases step with
  | notice room =>
      obtain ⟨more, few, sent⟩ := send_eq intake .kubeletRestarted
      rw [sent]
      simp only [taken, List.length_append] at room ⊢
      omega
  | miss | elapse => exact h
  | signal free => simpa [taken, free, Listener.places] using h
  | reserve waits room => simpa [taken, waits, Listener.places, Nat.succ_le_iff] using room
  | leave waits => simpa [taken, waits, Listener.places] using h
  | @forward event listener reserved frees =>
      obtain ⟨more, few, sent⟩ := send_eq intake event
      have kept : intake.listener.places = 1 := by
        rw [reserved]
        rfl
      rw [sent]
      simp only [taken, List.length_append, kept, frees] at h ⊢
      omega
  | act own step =>
      cases step with
      | send | close | elapse => cases own
      | take _ _ upcoming =>
          simp only [taken, upcoming, List.length_cons] at h ⊢
          omega
      | retry | drain | pass => exact h
      | ending => exact Nat.le_trans (Nat.add_le_add_right (Nat.zero_le _) _) h

/-- In every run the queue is open and has no more in it than there is room for. -/
theorem run_open (fleet : Fleet σ) (backoff : Nat) (plugins : σ) (actions : List Action)
    : let intake := (Chronicle.run fleet backoff plugins actions).intake
      intake.work.run.closed = false ∧ intake.taken ≤ queueCapacity := by
  refine Chronicle.run_induction
    (motive := fun reached =>
      reached.intake.work.run.closed = false ∧ reached.intake.taken ≤ queueCapacity)
    ⟨rfl, Nat.zero_le _⟩ ?_ actions
  rintro actions action next ⟨closed, within⟩ step
  exact ⟨step.closed.trans closed, step.taken_le within⟩

/-- A signal's event that a place was kept for is not lost while the supervisor lasts. -/
theorem run_sendsReserved {fleet : Fleet σ} {backoff : Nat} {plugins : σ} {actions : List Action}
    {event : Event}
    (reserved
      : (Chronicle.run fleet backoff plugins actions).intake.listener = .reserved event)
    (lasts : (Chronicle.run fleet backoff plugins actions).intake.work.run.done = false)
    : let intake := (Chronicle.run fleet backoff plugins actions).intake
      (intake.send event).2.work.run.queue = intake.work.run.queue ++ [event] := by
  intro intake
  obtain ⟨closed, within⟩ := run_open fleet backoff plugins actions
  have room : intake.work.run.queue.length < queueCapacity := by
    simpa [taken, reserved, Listener.places, Nat.succ_le_iff] using within
  have left : (intake.send event).2.work.run = (intake.work.run.send event).2 := rfl
  rw [left, send_of_room lasts closed room]

-----------------------------------------------------------------------------------------
-- What becomes of a notice
-----------------------------------------------------------------------------------------

/-- A pass was begun and is not finished. -/
def Begun (moments : List Moment) : Prop :=
  ∃ before action during,
    action.restarts = true
    ∧ (∀ moment ∈ during, moment.calls = [])
    ∧ moments = before ++ { action := .act action } :: during

/-- A pass was begun, and then all plugins were stopped, and started up to the first failure. -/
def Restarted (size : Nat) (moments : List Moment) : Prop :=
  ∃ before action during, ∃ pass : Pass, ∃ after,
    action.restarts = true
    ∧ (∀ moment ∈ during, moment.calls = [])
    ∧ pass.IsOver size
    ∧ moments
      = before ++ { action := .act action } :: during
        ++ { action := .act .finish, calls := pass.calls } :: after

theorem Begun.concat {moments : List Moment} {last : Moment} (h : Begun moments)
    (silent : last.calls = [])
    : Begun (moments ++ [last]) := by
  obtain ⟨before, action, during, restarts, quiet, rfl⟩ := h
  refine ⟨before, action, during ++ [last], restarts, ?_, by simp⟩
  intro moment member
  rcases List.mem_append.mp member with earlier | new
  · exact quiet moment earlier
  · rw [List.mem_singleton.mp new]
    exact silent

theorem Begun.restarted {moments : List Moment} {pass : Pass} (h : Begun moments)
    (whole : pass.IsOver size)
    : Restarted size (moments ++ [{ action := .act .finish, calls := pass.calls }]) := by
  obtain ⟨before, action, during, restarts, quiet, rfl⟩ := h
  exact ⟨before, action, during, pass, [], restarts, quiet, whole, rfl⟩

theorem Restarted.concat {moments : List Moment} (h : Restarted size moments) (last : Moment)
    : Restarted size (moments ++ [last]) := by
  obtain ⟨before, action, during, pass, after, restarts, quiet, whole, rfl⟩ := h
  exact ⟨before, action, during, pass, after ++ [last], restarts, quiet, whole, by simp⟩

/-- What has become of a notice, by all that happened later: there are still events to act on,
a pass was begun or made, or the supervisor is about to end.
-/
inductive Heeded (size : Nat) (intake : Intake σ) (later : List Moment) : Prop
  | queued (events : intake.work.run.queue ≠ [])
  | begun (duty : intake.work.duty = some .pass) (begun : Begun later)
  | restarted (made : Restarted size later)
  | ending (ends : intake.work.duty = some .ending ∨ intake.work.run.done = true)

/-- What comes from outside leaves a notice heeded. -/
theorem Heeded.outside {later : List Moment} {last : Moment} (h : Heeded size intake later)
    {more : List Event}
    (queue : next.work.run.queue = intake.work.run.queue ++ more)
    (duty : next.work.duty = intake.work.duty) (done : next.work.run.done = intake.work.run.done)
    (silent : last.calls = [])
    : Heeded size next (later ++ [last]) := by
  cases h with
  | queued events => exact .queued (by simp [queue, events])
  | begun begun moments => exact .begun (duty ▸ begun) (moments.concat silent)
  | restarted made => exact .restarted (made.concat last)
  | ending ends => exact .ending (duty ▸ done ▸ ends)

/-- The supervisor makes calls only when it finishes something. -/
theorem Step.moment_eq {action : Action} (step : Step fleet backoff intake action next)
    (begins : action ≠ .act .finish)
    : intake.moment action next = { action } := by
  have same : next.work.run.supervisor = intake.work.run.supervisor := by
    cases step with
    | notice =>
        obtain ⟨more, _, sent⟩ := send_eq intake .kubeletRestarted
        rw [sent]
    | @forward event =>
        obtain ⟨more, _, sent⟩ := send_eq intake event
        rw [sent]
    | miss | signal | reserve | leave | elapse => rfl
    | act _ step => exact step.supervisor_eq (by simpa using begins)
  simp [moment, same]

/-- Whatever happens, a notice stays heeded. -/
theorem Heeded.step {action : Action} {later : List Moment}
    (h : Heeded fleet.size intake later) (step : Step fleet backoff intake action next)
    : Heeded fleet.size next (later ++ [intake.moment action next]) := by
  have silent := step.moment_eq
  cases step with
  | notice =>
      obtain ⟨more, _, sent⟩ := send_eq intake .kubeletRestarted
      rw [silent nofun, sent]
      exact h.outside rfl rfl rfl rfl
  | @forward event =>
      obtain ⟨more, _, sent⟩ := send_eq intake event
      rw [silent nofun, sent]
      exact h.outside rfl rfl rfl rfl
  | miss | signal | reserve | leave | elapse =>
      rw [silent nofun]
      exact h.outside (List.append_nil _).symm rfl rfl rfl
  | act own step =>
      cases step with
      | send | close | elapse => cases own
      | @take event =>
          rw [silent nofun]
          cases event with
          | terminate => exact .ending (Or.inl rfl)
          | startFailed | kubeletRestarted | reconfigure =>
              exact .begun rfl ⟨later, _, [], rfl, nofun, rfl⟩
      | retry =>
          rw [silent nofun]
          exact .begun rfl ⟨later, _, [], rfl, nofun, rfl⟩
      | drain =>
          rw [silent nofun]
          exact .ending (Or.inl rfl)
      | pass begun =>
          obtain ⟨pass, whole, made, _⟩ := Work.doing_pass fleet backoff begun
          have moment : intake.moment (.act .finish)
              { intake with work := { run := intake.work.run.pass fleet backoff } }
              = { action := .act .finish, calls := pass.calls } := by
            simp only [Intake.moment, made, List.drop_left]
          rw [moment]
          -- A pass that was begun before the notice does not count, but leaves its events queued.
          cases h with
          | queued events => exact .queued events
          | begun _ moments => exact .restarted (moments.restarted whole)
          | restarted made => exact .restarted (made.concat _)
          | ending ends =>
              rcases ends with ends | ended
              · cases ends.symm.trans begun
              · exact .ending (Or.inr ended)
      | ending begun => exact .ending (Or.inr rfl)

/-- A notice for which there is room goes into the queue, and one for which there is none finds
events there.
-/
theorem Heeded.of_notice (closed : intake.work.run.closed = false)
    (step : Step fleet backoff intake .notice next)
    : Heeded size next [] := by
  cases step with
  | notice room =>
      cases ended : intake.work.run.done with
      | true =>
          obtain ⟨more, _, sent⟩ := send_eq intake .kubeletRestarted
          rw [sent]
          exact .ending (Or.inr ended)
      | false =>
          have free : intake.work.run.queue.length < queueCapacity :=
            Nat.lt_of_le_of_lt (Nat.le_add_right ..) room
          have left : (intake.send .kubeletRestarted).2.work.run
              = (intake.work.run.send .kubeletRestarted).2 := rfl
          refine .queued ?_
          rw [left, send_of_room ended closed free]
          simp
  | miss full =>
      -- The listener keeps one place at most, so the others are taken by events.
      have places : intake.listener.places ≤ 1 := by
        cases intake.listener <;> simp [Listener.places]
      have events : 0 < intake.work.run.queue.length := by
        simp only [taken, queueCapacity] at full
        omega
      exact .queued (List.ne_nil_of_length_pos events)

/-- In every run all notices are heeded. -/
theorem run_heeded (fleet : Fleet σ) (backoff : Nat) (plugins : σ) (actions : List Action)
    : ∀ before calls after,
        (Chronicle.run fleet backoff plugins actions).past
          = before ++ { action := .notice, calls } :: after
        → Heeded fleet.size (Chronicle.run fleet backoff plugins actions).intake after := by
  refine Chronicle.run_induction
    (motive := fun reached =>
      ∀ before calls after,
        reached.past = before ++ { action := .notice, calls } :: after
        → Heeded fleet.size reached.intake after) ?_ ?_ actions
  · intro before calls after split
    simp at split
  · intro actions action next heeded step before calls after split
    rcases split_concat split with ⟨rfl, _, last⟩ | ⟨rest, rfl, earlier⟩
    · have noticed : action = .notice := congrArg Moment.action last
      subst noticed
      exact .of_notice (run_open fleet backoff plugins actions).1 step
    · exact (heeded before calls rest earlier).step step

/-- While the supervisor waits with nothing in its queue, each time that the kubelet's socket was
made anew, whether or not its event found room, was followed by a pass that began only then.
-/
theorem run_restartsAfterNotice {fleet : Fleet σ} {backoff : Nat} {plugins : σ}
    {actions : List Action}
    (waits : (Chronicle.run fleet backoff plugins actions).intake.work.waits = true)
    (empty : (Chronicle.run fleet backoff plugins actions).intake.work.run.queue = [])
    {before after : List Moment} {calls : List (Call × Bool)}
    (split
      : (Chronicle.run fleet backoff plugins actions).past
        = before ++ { action := .notice, calls } :: after)
    : Restarted fleet.size after := by
  obtain ⟨idle, lasts⟩ := Work.waits_iff.mp waits
  cases run_heeded fleet backoff plugins actions before calls after split with
  | queued events => exact absurd empty events
  | begun duty => cases idle.symm.trans duty
  | restarted made => exact made
  | ending ends =>
      rcases ends with ends | ended
      · cases idle.symm.trans ends
      · cases lasts.symm.trans ended

/-- Sixteen hangups fill the queue during the first pass. Then a notice finds no room, and is
followed by the passes that the hangups asked for.
-/
theorem run_restartsAfterNotice_of_hangups
    : let fleet : Fleet Unit := {
        size := 1
        start := fun _ plugins => (true, plugins)
        stop := fun _ plugins => (true, plugins)
      }
      let hangups := (List.replicate 16 [Action.signal .hangup, .reserve, .forward]).flatten
      let passes := (List.replicate 16 [Action.act (.take .reconfigure), .act .finish]).flatten
      let crowded := Chronicle.run fleet 0 () (hangups ++ [.notice])
      let reached := Chronicle.run fleet 0 () (hangups ++ [.notice, .act .finish] ++ passes)
      crowded.intake.work.run.queue = List.replicate 16 .reconfigure
      ∧ reached.intake.work.waits = true
      ∧ reached.intake.work.run.queue = []
      ∧ reached.past
        = reached.past.take 48 ++ { action := .notice } :: reached.past.drop 49
      ∧ Restarted 1 (reached.past.drop 49) := by
  intro fleet hangups passes crowded reached
  have full : crowded.intake.work.run.queue = List.replicate 16 .reconfigure := by
    decide +kernel
  have waits : reached.intake.work.waits = true := by decide +kernel
  have empty : reached.intake.work.run.queue = [] := by decide +kernel
  have split : reached.past
      = reached.past.take 48 ++ { action := .notice } :: reached.past.drop 49 := by
    decide +kernel
  have size : fleet.size = 1 := rfl
  have same : reached
      = Chronicle.run fleet 0 () (hangups ++ [.notice, .act .finish] ++ passes) := rfl
  clear_value reached crowded passes hangups fleet
  subst same
  rw [← size]
  exact ⟨full, waits, empty, split, run_restartsAfterNotice waits empty split⟩

end Intake

end NodeDevices.Supervision
