import NodeDevices.Proofs.Supervision.Timeline

/-! The passes of a supervisor whose calls take no time, one after another. What it is at tells when
the last of them was over, which no step of it puts off.
-/

namespace NodeDevices.Supervision.Work.Timeline

variable {σ : Type} {fleet : Fleet σ} {backoff : Nat}

/-- What follows on a pass: one for an event that has come, in a failure while the wait lasts, or
a retry when the wait is over, if no event came in it.
-/
inductive Follows (backoff : Nat) (arrived : List (Nat × Event)) (finish : Nat)
    : Phase → Nat → Cause → Prop
  | event {phase time event} (after : finish ≤ time)
    (soon : phase = .failed → time ≤ finish + backoff) (other : event ≠ .terminate)
    (came : (time, event) ∈ arrived)
    : Follows backoff arrived finish phase time (.event event)
  | retry (quiet : ∀ entry ∈ arrived, entry.1 ≤ finish ∨ finish + backoff ≤ entry.1)
    : Follows backoff arrived finish .failed (finish + backoff) .retry

/-- The passes that were begun and those that were finished, with the end of the last one. Each is
finished when it is begun.
-/
inductive Turns (backoff : Nat) (arrived : List (Nat × Event))
    : List (Nat × Cause) → List (Nat × Phase) → Nat → Phase → Prop
  | first (phase) : Turns backoff arrived [(0, .first)] [(0, phase)] 0 phase
  | next {begun finished finish phase time cause}
    (before : Turns backoff arrived begun finished finish phase)
    (follows : Follows backoff arrived finish phase time cause) (left : Phase)
    : Turns backoff arrived (begun ++ [(time, cause)]) (finished ++ [(time, left)]) time left

variable {arrived : List (Nat × Event)} {begun : List (Nat × Cause)}
  {finished : List (Nat × Phase)} {finish : Nat} {phase : Phase}

/-- A pass begins when the one before it is finished, or later. -/
theorem Follows.le {time : Nat} {cause : Cause}
    (h : Follows backoff arrived finish phase time cause)
    : finish ≤ time := by
  cases h with
  | event after => exact after
  | retry => exact Nat.le_add_right ..

/-- An event that comes later changes nothing of what follows on a pass. -/
theorem Follows.arrive {time : Nat} {cause : Cause}
    (h : Follows backoff arrived finish phase time cause) {entry : Nat × Event}
    (late : time ≤ entry.1)
    : Follows backoff (arrived ++ [entry]) finish phase time cause := by
  cases h with
  | event after soon other came =>
      exact .event after soon other (List.mem_append_left _ came)
  | retry quiet =>
      refine .retry ?_
      intro other member
      rcases List.mem_append.mp member with earlier | new
      · exact quiet other earlier
      · rw [List.mem_singleton.mp new]
        exact Or.inr late

namespace Turns

theorem length_eq (h : Turns backoff arrived begun finished finish phase)
    : begun.length = finished.length := by
  induction h with
  | first => rfl
  | next _ _ _ ih => simp [ih]

theorem getLast? (h : Turns backoff arrived begun finished finish phase)
    : finished.getLast? = some (finish, phase) := by
  cases h <;> simp

theorem head? (h : Turns backoff arrived begun finished finish phase)
    : begun.head? = some (0, .first) := by
  induction h with
  | first => rfl
  | next _ _ _ ih => simp [ih]

/-- Each pass is finished when it is begun. -/
theorem times_eq (h : Turns backoff arrived begun finished finish phase)
    : begun.map Prod.fst = finished.map Prod.fst := by
  induction h with
  | first => rfl
  | next _ _ _ ih => simp [ih]

/-- An event that comes after all passes changes nothing of them. -/
theorem arrive (h : Turns backoff arrived begun finished finish phase) {entry : Nat × Event}
    (late : finish ≤ entry.1)
    : Turns backoff (arrived ++ [entry]) begun finished finish phase := by
  induction h with
  | first phase => exact .first phase
  | next _ follows left ih =>
      exact .next (ih (Nat.le_trans follows.le late)) (follows.arrive late) left

/-- Each pass but the first one follows on the one before it. -/
theorem exists_follows (h : Turns backoff arrived begun finished finish phase) {n time : Nat}
    {cause : Cause} (later : begun[n + 1]? = some (time, cause))
    : ∃ finish phase,
        finished[n]? = some (finish, phase)
        ∧ Follows backoff arrived finish phase time cause := by
  induction h with
  | first => cases later
  | @next begun finished finish phase time' cause' before follows left ih =>
      have length := before.length_eq
      by_cases earlier : n + 1 < begun.length
      · rw [List.getElem?_append_left earlier] at later
        rw [List.getElem?_append_left (by omega)]
        exact ih later
      · obtain ⟨within, _⟩ := List.getElem?_eq_some_iff.mp later
        rw [List.length_append, List.length_singleton] at within
        have last : n + 1 = begun.length := by omega
        rw [last, List.getElem?_concat_length] at later
        cases later
        have ends := before.getLast?
        rw [List.getLast?_eq_getElem?, ← length, ← last, Nat.add_sub_cancel] at ends
        rw [List.getElem?_append_left (by omega)]
        exact ⟨finish, phase, ends, follows⟩

end Turns

-----------------------------------------------------------------------------------------
-- Steps
-----------------------------------------------------------------------------------------

/-- Says what a supervisor began its end with: an event that it took, or a queue found closed. -/
inductive Ends (timeline : Timeline σ) (time : Nat) : Action → Prop
  | terminate (taken : (time, .terminate) ∈ timeline.taken)
    : Ends timeline time (.take .terminate)
  | drain (closed : timeline.work.run.closed = true) : Ends timeline time .drain

/-- A supervisor that waits since a pass was finished: for an event and, in a failure, for no longer
than until its wait is over.
-/
structure Waiting (backoff : Nat) (timeline : Timeline σ) (finish : Nat) : Prop where
  turns
    : Turns backoff timeline.arrived timeline.begun timeline.finished finish
        timeline.work.run.supervisor.phase
  timer
    : timeline.work.run.retryAt
      = if timeline.work.run.supervisor.phase = .failed then some (finish + backoff) else none
  after : finish ≤ timeline.work.run.now
  soon
    : timeline.work.run.supervisor.phase = .failed → timeline.work.run.now ≤ finish + backoff
  settled : ∀ entry ∈ timeline.taken, entry.1 ≤ finish
  opened : timeline.ending = none

/-- What a supervisor is at, with what that means for its passes. -/
inductive Stage (backoff : Nat) (timeline : Timeline σ) : Prop
  | passing (busy : timeline.work.duty = some .pass) (lasts : timeline.work.run.done = false)
    (turns
      : ∀ phase,
          Turns backoff timeline.arrived timeline.begun
            (timeline.finished ++ [(timeline.work.run.now, phase)]) timeline.work.run.now phase)
    (settled : ∀ entry ∈ timeline.taken, entry.1 ≤ timeline.work.run.now)
    (opened : timeline.ending = none)
  | waiting {finish : Nat} (idle : timeline.work.duty = none)
    (lasts : timeline.work.run.done = false) (waiting : timeline.Waiting backoff finish)
  | ending {finish time : Nat} {phase : Phase} {action : Action}
    (halts
      : timeline.work.duty = some .ending ∧ timeline.work.run.done = false
        ∨ timeline.work.duty = none ∧ timeline.work.run.done = true)
    (turns
      : Turns backoff timeline.arrived timeline.begun timeline.finished finish phase)
    (made : timeline.ending = some (time, action)) (ends : timeline.Ends time action)
    (after : finish ≤ time) (soon : phase = .failed → time ≤ finish + backoff)
    (past : time ≤ timeline.work.run.now)

/-- The queue of a supervisor holds what has come and was not taken, all of it just now. -/
def Queued (timeline : Timeline σ) : Prop :=
  ∃ left,
    timeline.arrived = timeline.taken ++ left
    ∧ (timeline.work.run.done = false
      → left = timeline.work.run.queue.map (timeline.work.run.now, ·))

/-- Passes for events are those for the events that were taken, but for one that makes an end. -/
structure Answered (timeline : Timeline σ) : Prop where
  events
    : timeline.begun.filterMap (fun entry => entry.2.event?.map (entry.1, ·))
      = timeline.taken.filter (·.2 ≠ .terminate)
  terminated
    : ∀ time,
        (time, .terminate) ∈ timeline.taken → timeline.ending = some (time, .take .terminate)
  phases : ∀ entry ∈ timeline.finished, entry.2 = .serving ∨ entry.2 = .failed

variable {timeline next : Timeline σ}

/-- What has come is what was taken, and then what is in the queue. -/
theorem Queued.arrived_eq (h : timeline.Queued) (lasts : timeline.work.run.done = false)
    : timeline.arrived
      = timeline.taken ++ timeline.work.run.queue.map (timeline.work.run.now, ·) := by
  obtain ⟨left, arrived, queue⟩ := h
  rw [arrived, queue lasts]

/-- An end that was begun for some reason has been, whatever comes then. -/
theorem Ends.mono {time : Nat} {action : Action} (h : timeline.Ends time action)
    (taken : timeline.taken ⊆ next.taken)
    (closed : timeline.work.run.closed = true → next.work.run.closed = true)
    : next.Ends time action := by
  cases h with
  | terminate member => exact .terminate (taken member)
  | drain found => exact .drain (closed found)

/-- After a pass a supervisor waits for a retry exactly when it failed. -/
theorem retryAt_pass (fleet : Fleet σ) (backoff : Nat) (run : Run σ)
    : (run.pass fleet backoff).retryAt
      = if (run.pass fleet backoff).supervisor.phase = .failed then some (run.now + backoff)
        else none := by
  obtain ⟨pass, _, outcome, phase, _⟩ := run.supervisor.restartAll_pass fleet
  simp only [Run.pass, outcome, phase, Pass.phase]
  cases pass.outcome.failed <;> simp

/-- A supervisor that is idle waits for what is to come. -/
theorem Stage.exists_waiting (h : timeline.Stage backoff) (idle : timeline.work.duty = none)
    (lasts : timeline.work.run.done = false)
    : ∃ finish, timeline.Waiting backoff finish := by
  cases h with
  | passing busy => cases idle.symm.trans busy
  | waiting _ _ waiting => exact ⟨_, waiting⟩
  | ending halts =>
      rcases halts with ⟨busy, _⟩ | ⟨_, ended⟩
      · cases idle.symm.trans busy
      · cases lasts.symm.trans ended

theorem Queued.step (h : timeline.Queued) (step : Step fleet backoff timeline next)
    : next.Queued := by
  cases step with
  | arrive event lasts =>
      refine ⟨(timeline.work.run.queue ++ [event]).map (timeline.work.run.now, ·), ?_, ?_⟩
      · simp [h.arrived_eq lasts]
      · exact fun _ => rfl
  | close => exact h
  | elapse time still =>
      obtain ⟨left, arrived, queue⟩ := h
      refine ⟨left, arrived, ?_⟩
      intro lasts
      rcases still with ended | ⟨_, empty, _⟩
      · cases lasts.symm.trans ended
      · simp [queue lasts, empty]
  | take idle lasts upcoming | terminate idle lasts upcoming =>
      refine ⟨_, ?_, fun _ => rfl⟩
      simp [h.arrived_eq lasts, upcoming]
  | retry | drain | pass => exact h
  | stop =>
      obtain ⟨left, arrived, _⟩ := h
      exact ⟨left, arrived, nofun⟩

/-- A wait that is over leads to a retry, as no event came before. -/
theorem Waiting.follows_retry {finish due : Nat} (h : timeline.Waiting backoff finish)
    (queued : timeline.Queued) (lasts : timeline.work.run.done = false)
    (set : timeline.work.run.retryAt = some due) (past : due ≤ timeline.work.run.now)
    : Follows backoff timeline.arrived finish timeline.work.run.supervisor.phase
        timeline.work.run.now .retry := by
  -- Only a failure leaves a wait, and time stops for a supervisor whose wait is over.
  have timer := h.timer
  rw [set] at timer
  have failed : timeline.work.run.supervisor.phase = .failed := by
    by_contra other
    rw [if_neg other] at timer
    cases timer
  rw [if_pos failed, Option.some_inj] at timer
  have now : timeline.work.run.now = finish + backoff :=
    Nat.le_antisymm (h.soon failed) (timer ▸ past)
  have quiet : ∀ entry ∈ timeline.arrived, entry.1 ≤ finish ∨ finish + backoff ≤ entry.1 := by
    rw [queued.arrived_eq lasts]
    intro entry member
    rcases List.mem_append.mp member with taken | waits
    · exact Or.inl (h.settled entry taken)
    · obtain ⟨event, _, rfl⟩ := List.mem_map.mp waits
      exact Or.inr (Nat.le_of_eq now.symm)
  rw [failed, now]
  exact .retry quiet

theorem Stage.step (h : timeline.Stage backoff) (queued : timeline.Queued)
    (step : Step fleet backoff timeline next)
    : next.Stage backoff := by
  cases step with
  | arrive event lasts =>
      cases h with
      | passing busy lasts turns settled opened =>
          exact .passing busy lasts (fun phase => (turns phase).arrive (Nat.le_refl _)) settled
            opened
      | waiting idle lasts waiting =>
          exact .waiting idle lasts { waiting with turns := waiting.turns.arrive waiting.after }
      | ending halts turns made ends after soon past =>
          exact .ending halts (turns.arrive (Nat.le_trans after past)) made
            (ends.mono (List.Subset.refl _) id) after soon past
  | close =>
      cases h with
      | passing busy lasts turns settled opened =>
          exact .passing busy lasts turns settled opened
      | waiting idle lasts waiting => exact .waiting idle lasts { waiting with }
      | ending halts turns made ends after soon past =>
          exact .ending halts turns made (ends.mono (List.Subset.refl _) fun _ => rfl) after
            soon past
  | elapse time still =>
      cases h with
      | passing busy lasts =>
          rcases still with ended | ⟨idle, _⟩
          · cases lasts.symm.trans ended
          · cases idle.symm.trans busy
      | waiting idle lasts waiting =>
          rcases still with ended | ⟨_, _, limit⟩
          · cases lasts.symm.trans ended
          · exact .waiting idle lasts {
              waiting with
              after := Nat.le_trans waiting.after (Nat.le_add_right ..)
              soon := fun failed => limit _ (waiting.timer.trans (if_pos failed)) }
      | ending halts turns made ends after soon past =>
          exact .ending halts turns made (ends.mono (List.Subset.refl _) id) after soon
            (Nat.le_trans past (Nat.le_add_right ..))
  | @take event rest idle lasts upcoming other =>
      obtain ⟨finish, waiting⟩ := h.exists_waiting idle lasts
      have came : (timeline.work.run.now, event) ∈ timeline.arrived := by
        simp [queued.arrived_eq lasts, upcoming]
      have follows := Follows.event waiting.after waiting.soon other came
      refine .passing rfl lasts (waiting.turns.next follows) ?_ waiting.opened
      intro entry member
      rcases List.mem_append.mp member with earlier | new
      · exact Nat.le_trans (waiting.settled entry earlier) waiting.after
      · exact Nat.le_of_eq (congrArg Prod.fst (List.mem_singleton.mp new))
  | terminate idle lasts =>
      obtain ⟨finish, waiting⟩ := h.exists_waiting idle lasts
      exact .ending (Or.inl ⟨rfl, lasts⟩) waiting.turns rfl (.terminate (by simp)) waiting.after
        waiting.soon (Nat.le_refl _)
  | @retry due idle lasts set past =>
      obtain ⟨finish, waiting⟩ := h.exists_waiting idle lasts
      have follows := waiting.follows_retry queued lasts set past
      refine .passing rfl lasts (waiting.turns.next follows) ?_ waiting.opened
      exact fun entry member => Nat.le_trans (waiting.settled entry member) waiting.after
  | drain idle lasts closed =>
      obtain ⟨finish, waiting⟩ := h.exists_waiting idle lasts
      exact .ending (Or.inl ⟨rfl, lasts⟩) waiting.turns rfl (.drain closed) waiting.after
        waiting.soon (Nat.le_refl _)
  | pass busy =>
      cases h with
      | passing _ lasts turns settled opened =>
          exact .waiting rfl lasts {
            turns := turns _
            timer := retryAt_pass ..
            after := Nat.le_refl _
            soon := fun _ => Nat.le_add_right ..
            settled
            opened }
      | waiting idle => cases idle.symm.trans busy
      | ending halts =>
          rcases halts with ⟨ends, _⟩ | ⟨idle, _⟩
          · cases busy.symm.trans ends
          · cases idle.symm.trans busy
  | stop busy =>
      cases h with
      | passing passes => cases busy.symm.trans passes
      | waiting idle => cases idle.symm.trans busy
      | ending halts turns made ends after soon past =>
          exact .ending (Or.inr ⟨rfl, rfl⟩) turns made (ends.mono (List.Subset.refl _) id) after
            soon past

theorem Answered.step (h : timeline.Answered) (stage : timeline.Stage backoff)
    (step : Step fleet backoff timeline next)
    : next.Answered := by
  cases step with
  | arrive | close | elapse | stop => exact ⟨h.events, h.terminated, h.phases⟩
  | @take event rest idle lasts upcoming other =>
      refine ⟨?_, ?_, h.phases⟩
      · rw [List.filterMap_append, h.events, List.filter_append]
        simp [Cause.event?, other]
      · intro time member
        rcases List.mem_append.mp member with earlier | new
        · exact h.terminated time earlier
        · cases List.mem_singleton.mp new
          exact absurd rfl other
  | terminate idle lasts =>
      obtain ⟨_, waiting⟩ := stage.exists_waiting idle lasts
      refine ⟨?_, ?_, h.phases⟩
      · simp [h.events]
      · intro time member
        rcases List.mem_append.mp member with earlier | new
        · cases waiting.opened.symm.trans (h.terminated time earlier)
        · cases List.mem_singleton.mp new
          rfl
  | retry =>
      refine ⟨?_, h.terminated, h.phases⟩
      rw [List.filterMap_append, h.events]
      simp [Cause.event?]
  | drain idle lasts =>
      obtain ⟨_, waiting⟩ := stage.exists_waiting idle lasts
      refine ⟨h.events, ?_, h.phases⟩
      intro time member
      cases waiting.opened.symm.trans (h.terminated time member)
  | pass =>
      refine ⟨h.events, h.terminated, ?_⟩
      intro entry member
      rcases List.mem_append.mp member with earlier | new
      · exact h.phases entry earlier
      · obtain ⟨pass, _, _, phase, _⟩ := timeline.work.run.supervisor.restartAll_pass fleet
        rw [List.mem_singleton.mp new]
        simp only [Run.pass, phase, Pass.phase]
        split
        · exact Or.inr rfl
        · exact Or.inl rfl

end NodeDevices.Supervision.Work.Timeline
