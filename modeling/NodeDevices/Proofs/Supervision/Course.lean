import NodeDevices.Proofs.Supervision.Chronicle

/-! The course of a supervisor: one pass after another, each for a reason, and in the end all
plugins are stopped.
-/

namespace NodeDevices.Supervision.Work

variable {σ : Type} {fleet : Fleet σ} {backoff : Nat} {size : Nat}

/-- What can follow a pass: an action, and what it begins. -/
inductive Reason (last : Pass) : Action → Duty → Prop
  | event {event} (other : event ≠ .terminate) : Reason last (.take event) .pass
  | retry (failed : last.phase = .failed) : Reason last .retry .pass
  | terminate : Reason last (.take .terminate) .ending
  | drain : Reason last .drain .ending

/-- What a supervisor has done by the time that it waits, with the pass that it made last. -/
inductive Course (size : Nat) : List Moment → Pass → Prop
  | first {pass} (whole : pass.IsOver size) : Course size [passed pass] pass
  | turn {moments last action pass} (before : Course size moments last)
    (reason : Reason last action .pass) (whole : pass.IsOver size)
    : Course size (moments ++ [began action, passed pass]) pass

/-- An event is a reason for what it asks for. -/
theorem Reason.of_event (last : Pass) (event : Event)
    : Reason last (.take event) event.duty := by
  cases event with
  | terminate => exact .terminate
  | startFailed | kubeletRestarted | reconfigure => exact .event (by simp)

/-- What a supervisor has done, by what it is at. -/
inductive Told (size : Nat) (work : Work σ) (moments : List Moment) : Prop
  | starting (begun : work.duty = some .pass) (lasts : work.run.done = false)
    (fresh : moments = [])
  | waiting {last} (idle : work.duty = none) (lasts : work.run.done = false)
    (course : Course size moments last) (phase : work.run.supervisor.phase = last.phase)
    (retries : work.run.retryAt.isSome = last.outcome.failed.isSome)
  | begun {before last action duty} (begun : work.duty = some duty)
    (lasts : work.run.done = false) (course : Course size before last)
    (reason : Reason last action duty) (told : moments = before ++ [began action])
  | ended {before last action stops} (idle : work.duty = none) (ended : work.run.done = true)
    (course : Course size before last) (reason : Reason last action .ending)
    (all : stops.length = size) (told : moments = before ++ [began action, stopped stops])

-----------------------------------------------------------------------------------------
-- Steps
-----------------------------------------------------------------------------------------

/-- What comes from outside changes nothing of what a supervisor is at. -/
theorem Told.outside {work next : Work σ} {moments : List Moment} (h : Told size work moments)
    (duty : next.duty = work.duty) (done : next.run.done = work.run.done)
    (phase : next.run.supervisor.phase = work.run.supervisor.phase)
    (retryAt : next.run.retryAt = work.run.retryAt)
    : Told size next moments := by
  cases h with
  | starting begun lasts fresh => exact .starting (duty ▸ begun) (done ▸ lasts) fresh
  | waiting idle lasts course phase' retries =>
      exact .waiting (duty ▸ idle) (done ▸ lasts) course (phase ▸ phase') (retryAt ▸ retries)
  | begun begun lasts course reason told =>
      exact .begun (duty ▸ begun) (done ▸ lasts) course reason told
  | ended idle ended course reason all told =>
      exact .ended (duty ▸ idle) (done ▸ ended) course reason all told

/-- A supervisor that waits has gone through a course. -/
theorem Told.course {work : Work σ} {moments : List Moment} (h : Told size work moments)
    (idle : work.duty = none) (lasts : work.run.done = false)
    : ∃ last,
        Course size moments last
        ∧ work.run.supervisor.phase = last.phase
        ∧ work.run.retryAt.isSome = last.outcome.failed.isSome := by
  cases h with
  | starting begun => cases idle.symm.trans begun
  | waiting _ _ course phase retries => exact ⟨_, course, phase, retries⟩
  | begun begun => cases idle.symm.trans begun
  | ended _ ended => cases lasts.symm.trans ended

/-- A step goes on with the course. -/
theorem Told.step {work next : Work σ} {moments : List Moment} {action : Action}
    (h : Told fleet.size work moments) (step : Step fleet backoff work action next)
    : Told fleet.size next (moments ++ work.doing fleet action next) := by
  have doing := step.doing_eq
  cases step with
  | send event =>
      obtain ⟨more, _, sent⟩ := run_send work.run event
      rw [sent]
      exact (List.append_nil moments).symm ▸ h.outside rfl rfl rfl rfl
  | close | elapse => exact (List.append_nil moments).symm ▸ h.outside rfl rfl rfl rfl
  | @take event rest idle lasts upcoming =>
      obtain ⟨last, course, _⟩ := h.course idle lasts
      rw [doing rfl nofun]
      exact .begun rfl lasts course (.of_event last event) rfl
  | retry idle lasts waiting due =>
      obtain ⟨last, course, _, retries⟩ := h.course idle lasts
      -- Only a pass that failed leaves a wait, so the one that is over tells of a failure.
      have failed : last.phase = .failed := by
        rw [waiting, Option.isSome_some] at retries
        exact if_pos retries.symm
      rw [doing rfl nofun]
      exact .begun rfl lasts course (.retry failed) rfl
  | drain idle lasts closed empty =>
      obtain ⟨last, course, _⟩ := h.course idle lasts
      rw [doing rfl nofun]
      exact .begun rfl lasts course .drain rfl
  | pass begun =>
      obtain ⟨pass, whole, _, phase, retries, doing⟩ := doing_pass fleet backoff begun
      rw [doing]
      cases h with
      | starting _ lasts fresh =>
          rw [fresh]
          exact .waiting rfl lasts (.first whole) phase retries
      | begun begun' lasts course reason told =>
          cases begun.symm.trans begun'
          rw [told, List.append_assoc]
          exact .waiting rfl lasts (course.turn reason whole) phase retries
      | waiting idle | ended idle => cases idle.symm.trans begun
  | ending begun =>
      obtain ⟨stops, all, _, doing⟩ := doing_ending fleet begun
      rw [doing]
      cases h with
      | begun begun' lasts course reason told =>
          cases begun.symm.trans begun'
          rw [told, List.append_assoc]
          exact .ended rfl rfl course reason all rfl
      | starting begun' => cases begun.symm.trans begun'
      | waiting idle | ended idle => cases idle.symm.trans begun

/-- A step makes the calls of its moment, and no others. -/
theorem Step.made {work next : Work σ} {action : Action}
    (step : Step fleet backoff work action next)
    : next.run.supervisor.made
      = work.run.supervisor.made ++ (work.doing fleet action next).flatMap (·.calls) := by
  have doing := step.doing_eq
  cases step with
  | send event =>
      obtain ⟨more, _, sent⟩ := run_send work.run event
      rw [sent]
      exact (List.append_nil _).symm
  | close | elapse => exact (List.append_nil _).symm
  | take | retry | drain =>
      rw [doing rfl nofun]
      exact (List.append_nil _).symm
  | pass begun =>
      obtain ⟨pass, _, made, _, _, doing⟩ := doing_pass fleet backoff begun
      rw [doing, List.flatMap_singleton]
      exact made
  | ending begun =>
      obtain ⟨stops, _, made, doing⟩ := doing_ending fleet begun
      rw [doing, List.flatMap_singleton]
      exact made

-----------------------------------------------------------------------------------------
-- What can happen next
-----------------------------------------------------------------------------------------

/-- A supervisor that has not ended is never stuck: what it has begun can be finished, and while it
waits, it can act on whatever there is to act on.
-/
structure GoesOn (fleet : Fleet σ) (backoff : Nat) (work : Work σ) : Prop where
  /-- A pass that is finished leaves it waiting, and an end that is finished leaves it ended. -/
  finishes
    : ∀ duty,
        work.duty = some duty
        → ∃ next,
            work.step? fleet backoff .finish = some next
            ∧ next.duty = none
            ∧ (next.run.done = true ↔ duty = .ending)
  /-- The next event can be taken, and what it asks for is begun then. -/
  takes
    : work.waits = true
      → ∀ event rest,
          work.run.queue = event :: rest
          → ∃ next,
              work.step? fleet backoff (.take event) = some next
              ∧ next.duty = some event.duty
              ∧ next.run.queue = rest
  /-- Its end can begin when no event can come any more. -/
  drains
    : work.waits = true
      → work.run.closed = true
      → work.run.queue = []
      → ∃ next, work.step? fleet backoff .drain = some next ∧ next.duty = some .ending
  /-- After a pass that failed there is a moment from which on another one can begin. -/
  retries
    : work.waits = true
      → work.run.supervisor.phase = .failed
      → ∃ moment,
          ∀ time,
            ((work.step? fleet backoff (.elapse time)).bind
              (·.step? fleet backoff .retry)).isSome = true
            ↔ moment ≤ work.run.now + time

/-- What has been begun was begun by a supervisor that had not ended. -/
theorem Told.lasts {work : Work σ} {moments : List Moment} {duty : Duty}
    (h : Told size work moments) (begun : work.duty = some duty)
    : work.run.done = false := by
  cases h with
  | starting _ lasts | waiting _ lasts | begun _ lasts => exact lasts
  | ended idle => cases idle.symm.trans begun

/-- A supervisor that is told by a course is never stuck. -/
theorem Told.goesOn {work : Work σ} {moments : List Moment} (h : Told size work moments)
    : work.GoesOn fleet backoff where
  finishes duty begun := by
    cases duty with
    | pass =>
        refine ⟨{ run := work.run.pass fleet backoff }, by rw [step?, begun], rfl, ?_⟩
        have lasts : (work.run.pass fleet backoff).done = false := h.lasts begun
        simp [lasts]
    | ending =>
        exact ⟨{ run := work.run.finish fleet }, by rw [step?, begun], rfl, by simp [Run.finish]⟩
  takes waits event rest upcoming := by
    refine ⟨_, if_pos ⟨waits, by rw [upcoming, List.head?_cons]⟩, rfl, ?_⟩
    rw [upcoming, List.tail_cons]
  drains waits closed empty := ⟨_, if_pos ⟨waits, closed, empty⟩, rfl⟩
  retries waits failed := by
    obtain ⟨idle, lasts⟩ := waits_iff.mp waits
    obtain ⟨last, _, phase, retries⟩ := h.course idle lasts
    -- a pass that failed leaves a wait, whose end is the moment
    have waiting : work.run.retryAt.isSome = true := by
      rw [retries]
      by_contra none
      cases failed.symm.trans (phase.trans (if_neg none))
    obtain ⟨moment, retryAt⟩ := Option.isSome_iff_exists.mp waiting
    refine ⟨moment, fun time => ?_⟩
    simp [step?, waits_iff, idle, lasts, retryAt]

-----------------------------------------------------------------------------------------
-- Runs
-----------------------------------------------------------------------------------------

/-- Every run is told by a course. -/
theorem run_told (fleet : Fleet σ) (backoff : Nat) (plugins : σ) (actions : List Action)
    : Told fleet.size (Chronicle.run fleet backoff plugins actions).work
        (Chronicle.run fleet backoff plugins actions).moments :=
  Chronicle.run_induction
    (motive := fun reached => Told fleet.size reached.work reached.moments)
    (.starting rfl rfl rfl) (fun _ _ _ told step => told.step step) actions

/-- All calls are made in the moments of a run. -/
theorem run_made (fleet : Fleet σ) (backoff : Nat) (plugins : σ) (actions : List Action)
    : (Chronicle.run fleet backoff plugins actions).work.run.supervisor.made
      = (Chronicle.run fleet backoff plugins actions).moments.flatMap (·.calls) := by
  refine Chronicle.run_induction
    (motive := fun reached =>
      reached.work.run.supervisor.made = reached.moments.flatMap (·.calls)) rfl ?_ actions
  intro chronicle action next made step
  rw [step.made, made, List.flatMap_append]

/-- The calls of a course keep stops between starts. -/
theorem Course.isSpaced {moments : List Moment} {last : Pass}
    (h : Course size moments last)
    : IsSpaced ((moments.flatMap (·.calls)).map Prod.fst) := by
  induction h with
  | first whole => simpa [passed] using IsSpaced.nil.pass whole
  | turn before reason whole ih => simpa [began, passed] using ih.pass whole

/-- What was told keeps stops between starts. -/
theorem Told.isSpaced {work : Work σ} {moments : List Moment} (h : Told size work moments)
    : IsSpaced ((moments.flatMap (·.calls)).map Prod.fst) := by
  cases h with
  | starting _ _ fresh =>
      rw [fresh]
      exact .nil
  | waiting _ _ course => exact course.isSpaced
  | begun _ _ course _ told =>
      rw [told]
      simpa [began] using course.isSpaced
  | ended _ _ course _ all told =>
      rw [told]
      simpa [began, stopped, calls_stopsFrom, all] using (course.isSpaced.stops size).1

/-- In a course only passes are reported on. -/
theorem Course.reports {moments : List Moment} {last : Pass} (h : Course size moments last)
    : ∀ moment ∈ moments, moment.report = none ∨ ∃ pass : Pass, moment = passed pass := by
  induction h with
  | @first pass whole =>
      intro moment member
      exact Or.inr ⟨pass, List.mem_singleton.mp member⟩
  | @turn moments last action pass before reason whole ih =>
      intro moment member
      rcases List.mem_append.mp member with earlier | new
      · exact ih moment earlier
      · rcases List.mem_pair.mp new with rfl | rfl
        · exact Or.inl rfl
        · exact Or.inr ⟨pass, rfl⟩

/-- Only passes are reported on. -/
theorem Told.reports {work : Work σ} {moments : List Moment} (h : Told size work moments)
    : ∀ moment ∈ moments, moment.report = none ∨ ∃ pass : Pass, moment = passed pass := by
  intro moment member
  cases h with
  | starting _ _ fresh =>
      rw [fresh] at member
      cases member
  | waiting _ _ course => exact course.reports moment member
  | begun _ _ course _ told =>
      rw [told] at member
      rcases List.mem_append.mp member with earlier | new
      · exact course.reports moment earlier
      · cases List.mem_singleton.mp new
        exact Or.inl rfl
  | ended _ _ course _ _ told =>
      rw [told] at member
      rcases List.mem_append.mp member with earlier | new
      · exact course.reports moment earlier
      · rcases List.mem_pair.mp new with rfl | rfl <;> exact Or.inl rfl

/-- The calls of a supervisor are those of passes over all plugins, whatever becomes of them:
a first pass, and one for each event that asks for it and each wait that is over after a failed
pass. Each pass reports how many plugins it started, and leaves failure exactly when a start
failed. A supervisor ends only by an event that asks for it, or when no event can come any more;
then it stops all plugins and starts none. So no plugin is started twice without a stop in
between. Until it has ended it is never stuck.
-/
theorem run_isCourse (fleet : Fleet σ) (backoff : Nat) (plugins : σ) (actions : List Action)
    : let reached := Chronicle.run fleet backoff plugins actions
      let work := reached.work
      let supervisor := work.run.supervisor
      supervisor.made = reached.moments.flatMap (·.calls)
      ∧ (work.waits = true
        → ∃ last,
            Course fleet.size reached.moments last ∧ supervisor.phase = last.phase)
      ∧ (∀ duty,
          work.duty = some duty
          → duty = .pass ∧ reached.moments = []
            ∨ ∃ before last action,
                Course fleet.size before last
                ∧ Reason last action duty
                ∧ reached.moments = before ++ [began action])
      ∧ (work.run.done = true
        → ∃ before last action stops,
            Course fleet.size before last
            ∧ Reason last action .ending
            ∧ stops.length = fleet.size
            ∧ reached.moments = before ++ [began action, stopped stops])
      ∧ (∀ moment ∈ reached.moments, ∀ outcome phase,
          moment.report = some (outcome, phase)
          → outcome.started = moment.calls.countP (fun made => made.1.isStart && made.2)
            ∧ (phase = .failed ↔ ∃ plugin, (.start plugin, false) ∈ moment.calls)
            ∧ (phase = .failed ∨ phase = .serving))
      ∧ (∀ next,
          work.step? fleet backoff .drain = some next
          → work.run.closed = true ∧ work.run.queue = [])
      ∧ work.GoesOn fleet backoff
      ∧ IsSpaced supervisor.calls := by
  intro reached work supervisor
  have made : supervisor.made = reached.moments.flatMap (·.calls) :=
    run_made fleet backoff plugins actions
  have told : Told fleet.size work reached.moments := run_told fleet backoff plugins actions
  refine ⟨made, ?_, ?_, ?_, ?_, ?_, told.goesOn, ?_⟩
  · intro waits
    obtain ⟨idle, lasts⟩ := waits_iff.mp waits
    obtain ⟨last, course, phase, _⟩ := told.course idle lasts
    exact ⟨last, course, phase⟩
  · intro duty begun
    cases told with
    | starting begun' _ fresh =>
        cases begun.symm.trans begun'
        exact Or.inl ⟨rfl, fresh⟩
    | begun begun' _ course reason told =>
        cases begun.symm.trans begun'
        exact Or.inr ⟨_, _, _, course, reason, told⟩
    | waiting idle | ended idle => cases idle.symm.trans begun
  · intro ended
    cases told with
    | ended _ _ course reason all told => exact ⟨_, _, _, _, course, reason, all, told⟩
    | starting _ lasts | waiting _ lasts | begun _ lasts => cases lasts.symm.trans ended
  · intro moment member outcome phase report
    rcases told.reports moment member with none | ⟨pass, rfl⟩
    · cases none.symm.trans report
    · cases report
      refine ⟨pass.started_eq, pass.phase_eq_failed, ?_⟩
      rw [Pass.phase]
      split
      · exact Or.inl rfl
      · exact Or.inr rfl
  · intro next can
    cases Step.of_step? can with
    | drain _ _ closed empty => exact ⟨closed, empty⟩
  · have calls : supervisor.calls = supervisor.made.map Prod.fst := by
      simp [Supervisor.calls, Supervisor.made]
    rw [calls, made]
    exact told.isSpaced

end NodeDevices.Supervision.Work
