import NodeDevices.Proofs.Health.Task

/-! When the polls of a task begin. The first one begins at once, and each other one an interval
after the end of the one before it. All of them go through all devices, but for one that was under
way when the monitor was told to stop.
-/

namespace NodeDevices.Health.Task

/-- Polls that were over before the monitor was told to stop, with the time at which another one is
due.
-/
inductive Polls (interval : Nat) (devices : List (String × Int64)) : List Poll → Nat → Prop
  | none : Polls interval devices [] 0
  | next {polls due finish} (before : Polls interval devices polls due) (after : due ≤ finish)
    : Polls interval devices
        (polls ++ [{ start := due, probed := devices, finish := some finish }])
        (finish + interval)

/-- Polls that are over, with the time at which another one is due. The monitor may have been told
to stop, in the last of them or since then.
-/
inductive Made (interval : Nat) (devices : List (String × Int64))
    : Bool → List Poll → Nat → Prop
  | whole {polls due} (stopped) (made : Polls interval devices polls due)
    : Made interval devices stopped polls due
  | part {polls due probed finish} (before : Polls interval devices polls due)
    (within : probed <+: devices) (after : due ≤ finish)
    : Made interval devices true
        (polls ++ [{ start := due, probed, finish := some finish, stopped := true }])
        (finish + interval)

section

variable {interval due : Nat} {devices : List (String × Int64)} {polls : List Poll}
  {last : Option Poll}

/-- The first poll begins at once. -/
theorem Polls.start_first (h : Polls interval devices polls due)
    (next : ∀ poll ∈ last, poll.start = due) {poll : Poll}
    (first : (polls ++ last.toList)[0]? = some poll)
    : poll.start = 0 := by
  induction h generalizing last with
  | none =>
      exact next poll (Option.mem_toList.mp (List.mem_of_getElem? first))
  | @next polls due finish before after ih =>
      refine @ih (some ⟨due, devices, some finish, false⟩) (by simp) ?_
      rwa [List.getElem?_append_left (by simp)] at first

/-- Each poll but the first one begins an interval after the end of the one before it, which has
gone through all devices.
-/
theorem Polls.start_next (h : Polls interval devices polls due)
    (next : ∀ poll ∈ last, poll.start = due) {n : Nat} {earlier later : Poll}
    (before : (polls ++ last.toList)[n]? = some earlier)
    (begun : (polls ++ last.toList)[n + 1]? = some later)
    : earlier.probed = devices
      ∧ earlier.stopped = false
      ∧ ∃ finish,
          earlier.finish = some finish
          ∧ earlier.start ≤ finish
          ∧ later.start = finish + interval := by
  induction h generalizing last with
  | none => cases last <;> cases begun
  | @next polls due finish made after ih =>
      by_cases within : n + 1 < (polls ++ [(⟨due, devices, some finish, false⟩ : Poll)]).length
      · rw [List.getElem?_append_left within] at begun
        rw [List.getElem?_append_left (Nat.lt_of_succ_lt within)] at before
        exact @ih (some ⟨due, devices, some finish, false⟩) (by simp) before begun
      · obtain ⟨bound, _⟩ := List.getElem?_eq_some_iff.mp begun
        have few : last.toList.length ≤ 1 := by cases last <;> simp
        rw [List.length_append, List.length_singleton] at within
        rw [List.length_append, List.length_append, List.length_singleton] at bound
        obtain rfl : n = polls.length := by omega
        rw [List.getElem?_append_left (by simp), List.getElem?_concat_length] at before
        rw [List.getElem?_append_right (by simp), List.length_append, List.length_singleton,
          Nat.sub_self] at begun
        cases before
        refine ⟨rfl, rfl, finish, rfl, after, next later ?_⟩
        exact Option.mem_toList.mp (List.mem_of_getElem? begun)

/-- All these polls have gone through all devices. -/
theorem Polls.of_mem (h : Polls interval devices polls due) {poll : Poll} (member : poll ∈ polls)
    : poll.probed = devices ∧ poll.stopped = false := by
  induction h with
  | none => cases member
  | next before after ih =>
      rcases List.mem_append.mp member with earlier | new
      · exact ih earlier
      · rw [List.mem_singleton.mp new]
        exact ⟨rfl, rfl⟩

/-- Another poll is due at once, or an interval after the end of the last one. -/
theorem Polls.due_eq (h : Polls interval devices polls due)
    : (polls = [] → due = 0)
      ∧ ∀ poll finish,
          polls.getLast? = some poll → poll.finish = some finish → due = finish + interval := by
  cases h with
  | none => simp
  | next before after =>
      refine ⟨by simp, ?_⟩
      intro poll finish last finished
      rw [List.getLast?_concat] at last
      cases last
      cases finished
      rfl

/-- As long as the monitor is not told to stop, its polls go through all devices. -/
theorem Made.polls_of_lasts (h : Made interval devices false polls due)
    : Polls interval devices polls due := by
  cases h with
  | whole _ made => exact made

/-- Polls stay as they are when the monitor is told to stop. -/
theorem Made.mono {before after : Bool} (h : Made interval devices before polls due)
    (later : after = before ∨ after = true)
    : Made interval devices after polls due := by
  cases h with
  | whole _ made => exact .whole after made
  | part before within began =>
      obtain rfl : after = true := later.elim id id
      exact .part before within began

end

namespace Chronicle

/-- What a task is at, with what that means for its polls. -/
inductive Stage (interval : Nat) (devices : List (String × Int64)) (chronicle : Chronicle) : Prop
  | ready (phase : chronicle.task.phase = .ready) (idle : chronicle.task.polling.call = none)
    (free : chronicle.current = none)
    (made
      : Made interval devices chronicle.task.polling.stopped chronicle.past chronicle.task.now)
  | polling {left asked found start probed} (phase : chronicle.task.phase = .polling)
    (busy : chronicle.task.polling.call = some { left, asked, found })
    (current : chronicle.current = some { start, probed })
    (made : Polls interval devices chronicle.past start) (begun : start ≤ chronicle.task.now)
    (course : probed ++ left.map Device.identity = devices)
  | sleeping {due} (phase : chronicle.task.phase = .sleeping due)
    (idle : chronicle.task.polling.call = none) (free : chronicle.current = none)
    (made : Made interval devices chronicle.task.polling.stopped chronicle.past due)
    (soon : chronicle.task.now ≤ due)
  | ended {due} (phase : chronicle.task.phase = .ended)
    (idle : chronicle.task.polling.call = none) (free : chronicle.current = none)
    (stopped : chronicle.task.polling.stopped = true)
    (made : Made interval devices true chronicle.past due)

variable {interval : Nat} {roster : Roster} {devices : List (String × Int64)}
  {chronicle : Chronicle} {action : Polling.Action} {polling : Polling}

/-- A poll is under way when its monitor has been called. -/
theorem Stage.of_busy (h : chronicle.Stage interval devices) {left : List Device}
    {asked : Option Device} {found : List Event}
    (busy : chronicle.task.polling.call = some { left, asked, found })
    : chronicle.task.phase = .polling
      ∧ ∃ start probed,
          chronicle.current = some { start, probed }
          ∧ Polls interval devices chronicle.past start
          ∧ start ≤ chronicle.task.now
          ∧ probed ++ left.map Device.identity = devices := by
  cases h with
  | polling phase busy' current made begun course =>
      cases busy.symm.trans busy'
      exact ⟨phase, _, _, current, made, begun, course⟩
  | ready _ idle | sleeping _ idle | ended _ idle => cases idle.symm.trans busy

theorem Stage.phase_of_busy (h : chronicle.Stage interval devices)
    (busy : chronicle.task.polling.call ≠ none)
    : chronicle.task.phase = .polling := by
  obtain ⟨⟨left, asked, found⟩, call⟩ := Option.ne_none_iff_exists'.mp busy
  exact (h.of_busy call).1

/-- What happens around a task changes nothing of what it is at, but that it may be told to stop. -/
theorem Stage.outside (h : chronicle.Stage interval devices) {history : Polling.History}
    (call : polling.call = chronicle.task.polling.call)
    (stopped
      : polling.stopped = chronicle.task.polling.stopped ∨ polling.stopped = true)
    : Stage interval devices
        { chronicle with task := { chronicle.task with polling }, history } := by
  cases h with
  | ready phase idle free made => exact .ready phase (call.trans idle) free (made.mono stopped)
  | polling phase busy current made begun course =>
      exact .polling phase (call.trans busy) current made begun course
  | sleeping phase idle free made soon =>
      exact .sleeping phase (call.trans idle) free (made.mono stopped) soon
  | ended phase idle free stops made =>
      exact .ended phase (call.trans idle) free (stopped.elim (·.trans stops) id) made

/-- What happens to a monitor in a poll goes on with the poll. -/
theorem Stage.act (h : chronicle.Stage interval devices) (begins : action ≠ .call)
    (ends : action ≠ .finish) (step : chronicle.task.polling.Step action polling)
    : Stage interval devices
        (chronicle.record { chronicle.task with polling } (.act action)) := by
  cases step with
  | call => exact absurd rfl begins
  | finish => exact absurd rfl ends
  | @ask device left found waits lasts =>
      obtain ⟨phase, start, probed, current, made, begun, course⟩ := h.of_busy waits
      have goesOn : chronicle.current.map (fun poll => { poll with
            probed := poll.probed ++ [device.identity] })
          = some { start, probed := probed ++ [device.identity] } := by
        rw [current, Option.map_some]
      exact .polling phase rfl goesOn made begun (by simpa using course)
  | answer result asked =>
      obtain ⟨phase, start, probed, current, made, begun, course⟩ := h.of_busy asked
      exact .polling phase rfl current made begun course
  | stop => exact h.outside rfl (.inr rfl)
  | store | receive | abandon => exact h.outside rfl (.inl rfl)

/-- A step goes on with the timetable. -/
theorem Stage.step (h : chronicle.Stage interval devices)
    (same : chronicle.task.polling.roster.devices.map Device.identity = devices)
    {action : Action} {next : Task} (step : chronicle.task.Step interval action next)
    : (chronicle.record next action).Stage interval devices := by
  cases step with
  | @elapse time free =>
      cases h with
      | ready phase =>
          rw [lets, phase] at free
          cases free
      | polling phase busy current made begun course =>
          exact .polling phase busy current made (Nat.le_add_right_of_le begun) course
      | @sleeping due phase idle current made soon =>
          rw [lets, phase, Bool.and_eq_true, decide_eq_true_iff] at free
          exact .sleeping phase idle current made free.2
      | ended phase idle current stopped made => exact .ended phase idle current stopped made
  | act begins ends step => exact h.act begins ends step
  | begin phase lasts idle =>
      cases h with
      | ready _ _ free made =>
          rw [lasts] at made
          exact .polling rfl rfl rfl made.polls_of_lasts (Nat.le_refl _) same
      | polling other | sleeping other | ended other => cases phase.symm.trans other
  | leave phase stopped =>
      cases h with
      | ready _ idle free made =>
          rw [stopped] at made
          exact .ended rfl idle free stopped made
      | polling other | sleeping other | ended other => cases phase.symm.trans other
  | @rest left found waits finished =>
      obtain ⟨phase, start, probed, current, made, begun, course⟩ := h.of_busy waits
      refine .sleeping rfl rfl rfl ?_ (Nat.le_add_right ..)
      rw [record, current]
      cases stopped : chronicle.task.polling.stopped with
      | false =>
          have nothing : left = [] := finished.resolve_right (Bool.eq_false_iff.mp stopped)
          rw [nothing, List.map_nil, List.append_nil] at course
          rw [course]
          exact .whole false (made.next begun)
      | true => exact .part made ⟨_, course⟩ begun
  | @wake due phase past =>
      cases h with
      | sleeping same idle free made soon =>
          cases phase.symm.trans same
          exact .ready rfl idle free (Nat.le_antisymm soon past ▸ made)
      | ready other | polling other | ended other => cases phase.symm.trans other
  | @quit due phase stopped =>
      cases h with
      | sleeping same idle free made soon =>
          rw [stopped] at made
          exact .ended rfl idle free stopped made
      | ready other | polling other | ended other => cases phase.symm.trans other

-----------------------------------------------------------------------------------------
-- Probes and answers
-----------------------------------------------------------------------------------------

/-- The devices that were probed in all polls. -/
def probed (chronicle : Chronicle) : List (String × Int64) :=
  chronicle.polls.flatMap Poll.probed

/-- What holds of the polls of a task at any time: where they stand, and that they are all the
probes of its monitor, each of which is answered before the next one.
-/
structure Told (interval : Nat) (roster : Roster) (chronicle : Chronicle) : Prop where
  stage : chronicle.Stage interval (roster.devices.map Device.identity)
  devices
    : chronicle.task.polling.roster.devices.map Device.identity
      = roster.devices.map Device.identity
  probes
    : chronicle.task.polling.probes = chronicle.probed.map Prod.snd
  answers
    : chronicle.history.answers.map Prod.fst ++ chronicle.task.asked.toList.map Device.id
      = chronicle.probed.map Prod.fst

/-- A step adds to the probes of a task the one that it begins, if it does. -/
theorem Stage.probed_record (h : chronicle.Stage interval devices) {action : Action}
    {next : Task} (step : chronicle.task.Step interval action next)
    : (chronicle.record next action).probed
      = chronicle.probed
        ++ if action = .act .ask then next.asked.toList.map Device.identity else [] := by
  cases step with
  | elapse | wake | quit | leave => simp [record, probed, polls]
  | begin phase =>
      cases h with
      | ready _ _ free => simp [record, probed, polls, free]
      | polling other | sleeping other | ended other => cases phase.symm.trans other
  | rest waits =>
      obtain ⟨_, _, _, current, _⟩ := h.of_busy waits
      simp [record, probed, polls, current]
  | act begins ends step =>
      cases step with
      | ask waits =>
          obtain ⟨_, _, _, current, _⟩ := h.of_busy waits
          simp [record, probed, polls, current]
      | _ => simp [record, probed, polls]

/-- An answer is one of the device that was asked for last. -/
theorem answers_record {action : Action} {next : Task}
    (step : chronicle.task.Step interval action next)
    : (chronicle.record next action).history.answers.map Prod.fst
        ++ next.asked.toList.map Device.id
      = chronicle.history.answers.map Prod.fst ++ chronicle.task.asked.toList.map Device.id
        ++ if action = .act .ask then next.asked.toList.map Device.id else [] := by
  cases step with
  | elapse | leave | wake | quit => simp [record, asked]
  | begin _ _ idle => simp [record, asked, idle]
  | rest waits =>
      simp [record, asked, waits, Polling.History.record, Polling.History.answers]
  | act begins ends step =>
      cases step with
      | call => exact absurd rfl begins
      | finish => exact absurd rfl ends
      | ask waits => simp [record, asked, waits, Polling.History.record]
      | answer result waits =>
          simp [record, asked, waits, Polling.History.record, Polling.History.answers]
      | stop | store | receive | abandon =>
          simp [record, asked, Polling.History.record, Polling.History.answers]

/-- With every step the polls go on as told. -/
theorem Told.step (h : chronicle.Told interval roster) {action : Action} {next : Task}
    (step : chronicle.task.Step interval action next)
    : (chronicle.record next action).Told interval roster where
  stage := h.stage.step h.devices step
  devices := by
    rw [record_task, step.identities_eq]
    exact h.devices
  probes := by
    rw [record_task, step.probes_eq, h.stage.probed_record step, h.probes, List.map_append]
    split
    · rw [List.map_map]
      rfl
    · rfl
  answers := by
    rw [record_task, answers_record step, h.stage.probed_record step, h.answers, List.map_append]
    split
    · rw [List.map_map]
      rfl
    · rfl

theorem run_told (interval : Nat) (roster : Roster) (actions : List Action)
    : (run interval roster actions).Told interval roster := by
  refine foldl_perform_induction (motive := fun chronicle => chronicle.Told interval roster) ?_
    (fun _ _ _ told step => told.step step) actions
  exact {
    stage := .ready rfl rfl rfl (.whole false .none)
    devices := rfl
    probes := rfl
    answers := rfl
  }

-----------------------------------------------------------------------------------------
-- The timetable
-----------------------------------------------------------------------------------------

/-- The polls of a task: those that were over before the monitor was told to stop, and at most one
more, which is under way or was cut short.
-/
structure Polled (interval : Nat) (devices : List (String × Int64)) (chronicle : Chronicle)
    (whole : List Poll) (due : Nat) (last : Option Poll)
    : Prop where
  all : chronicle.polls = whole ++ last.toList
  made : Polls interval devices whole due
  start : ∀ poll ∈ last, poll.start = due
  part : ∀ poll ∈ last, poll.probed <+: devices
  lasts : ∀ poll ∈ last, poll.stopped = false → poll.finish = none
  stopped : ∀ poll ∈ last, poll.stopped = true → chronicle.task.polling.stopped = true

/-- Polls that are over are among those of a task that waits. -/
theorem exists_polled_of_made {stopped : Bool} {due : Nat} (free : chronicle.current = none)
    (made : Made interval devices stopped chronicle.past due)
    (told : stopped = true → chronicle.task.polling.stopped = true)
    : ∃ whole due last, chronicle.Polled interval devices whole due last := by
  have all : chronicle.polls = chronicle.past := by
    rw [polls, free, Option.toList_none, List.append_nil]
  rw [← all] at made
  generalize made' : chronicle.polls = polls at made
  cases made with
  | whole _ made =>
      exact ⟨_, _, none, by rw [made']; simp, made, nofun, nofun, nofun, nofun⟩
  | @part polls due probed finish before within after =>
      refine ⟨polls, due, some ⟨due, probed, some finish, true⟩, made', before, ?_, ?_, ?_, ?_⟩
      · rintro _ ⟨⟩
        rfl
      · rintro _ ⟨⟩
        exact within
      · rintro _ ⟨⟩ ⟨⟩
      · exact fun _ _ _ => told rfl

theorem Stage.exists_polled (h : chronicle.Stage interval devices)
    : ∃ whole due last, chronicle.Polled interval devices whole due last := by
  cases h with
  | ready _ _ free made => exact exists_polled_of_made free made id
  | sleeping _ _ free made => exact exists_polled_of_made free made id
  | ended _ _ free stopped made => exact exists_polled_of_made free made fun _ => stopped
  | @polling left _ _ start probed _ _ current made _ course =>
      refine ⟨chronicle.past, start, some { start, probed }, ?_, made, ?_, ?_, ?_, ?_⟩
      · rw [polls, current]
      · rintro _ ⟨⟩
        rfl
      · rintro _ ⟨⟩
        exact ⟨_, course⟩
      · rintro _ ⟨⟩ _
        rfl
      · rintro _ ⟨⟩ ⟨⟩

/-- Each poll but the last one went through all devices before the monitor was told to stop. -/
theorem Polled.of_mem {whole : List Poll} {due : Nat} {last : Option Poll}
    (h : chronicle.Polled interval devices whole due last) {poll : Poll}
    (member : poll ∈ chronicle.polls)
    : (poll.probed = devices ∧ poll.stopped = false) ∨ poll ∈ last := by
  rw [h.all] at member
  exact (List.mem_append.mp member).imp h.made.of_mem Option.mem_toList.mp

/-- As long as a task is not told to stop, a poll that is due begins before any time passes. -/
theorem Stage.prompt (h : chronicle.Stage interval devices)
    (lasts : chronicle.task.polling.stopped = false)
    : (chronicle.polls = [] → chronicle.task.now = 0)
      ∧ ∀ poll finish,
          chronicle.polls.getLast? = some poll
          → poll.finish = some finish
          → chronicle.task.now ≤ finish + interval := by
  cases h with
  | ready _ _ free made =>
      rw [lasts] at made
      rw [polls, free, Option.toList_none, List.append_nil]
      obtain ⟨none, some⟩ := made.polls_of_lasts.due_eq
      exact ⟨none, fun poll finish last finished => Nat.le_of_eq (some poll finish last finished)⟩
  | sleeping _ _ free made soon =>
      rw [lasts] at made
      rw [polls, free, Option.toList_none, List.append_nil]
      obtain ⟨none, some⟩ := made.polls_of_lasts.due_eq
      refine ⟨fun empty => Nat.le_zero.mp (none empty ▸ soon), ?_⟩
      exact fun poll finish last finished => some poll finish last finished ▸ soon
  | ended _ _ _ stopped => cases lasts.symm.trans stopped
  | polling _ _ current =>
      rw [polls, current, Option.toList_some]
      refine ⟨by simp, ?_⟩
      intro poll finish last finished
      rw [List.getLast?_concat] at last
      cases last
      cases finished

/-- A task that was told to stop takes the next step itself, or the device that it probes does. -/
theorem Stage.exists_isOwn (h : chronicle.Stage interval devices)
    (lasts : chronicle.task.phase ≠ .ended) (stopped : chronicle.task.polling.stopped = true)
    : ∃ action,
        action.isOwn = true ∧ (chronicle.task.step? interval action).isSome = true := by
  cases h with
  | ready phase => exact ⟨.check, rfl, by simp [step?, phase, stopped]⟩
  | @polling left asked _ _ _ phase busy =>
      cases asked with
      | some device => exact ⟨.act (.answer true), rfl, by simp [step?, Polling.step?, busy]⟩
      | none => exact ⟨.rest, rfl, by simp [step?, Polling.step?, busy, stopped]⟩
  | sleeping phase => exact ⟨.quit, rfl, by simp [step?, phase, stopped]⟩
  | ended phase => exact absurd phase lasts

/-- Until it has ended, a task can take a step, or time can pass. -/
theorem Stage.goesOn (h : chronicle.Stage interval devices)
    (lasts : chronicle.task.phase ≠ .ended)
    : ∃ action,
        (chronicle.task.step? interval action).isSome = true
        ∧ (action.isOwn = true ∨ ∃ time > 0, action = .elapse time) := by
  cases stopped : chronicle.task.polling.stopped with
  | true =>
      obtain ⟨action, own, can⟩ := h.exists_isOwn lasts stopped
      exact ⟨action, can, .inl own⟩
  | false =>
      cases h with
      | ready phase idle =>
          exact ⟨.check, by simp [step?, Polling.step?, phase, stopped, idle], .inl rfl⟩
      | @polling left asked _ _ _ phase busy =>
          cases asked with
          | some device =>
              exact ⟨.act (.answer true), by simp [step?, Polling.step?, busy], .inl rfl⟩
          | none =>
              cases left with
              | nil => exact ⟨.rest, by simp [step?, Polling.step?, busy], .inl rfl⟩
              | cons device left =>
                  exact ⟨.act .ask, by simp [step?, Polling.step?, busy, stopped], .inl rfl⟩
      | @sleeping due phase _ _ _ soon =>
          rcases Nat.eq_or_lt_of_le soon with reached | early
          · exact ⟨.wake, by simp [step?, phase, reached], .inl rfl⟩
          · refine ⟨.elapse 1, ?_, .inr ⟨1, Nat.one_pos, rfl⟩⟩
            simpa [step?, lets, phase, stopped, Nat.succ_le_iff] using early
      | ended phase => exact absurd phase lasts

/-- A task polls at once, and then an interval after each poll. -/
structure KeepsInterval (interval : Nat) (roster : Roster) (chronicle : Chronicle) : Prop where
  first : ∀ poll, chronicle.polls[0]? = some poll → poll.start = 0
  /-- Each other poll begins an interval after the end of the one before it. -/
  apart
    : ∀ (n : Nat) (earlier later : Poll),
        chronicle.polls[n]? = some earlier
        → chronicle.polls[n + 1]? = some later
        → earlier.stopped = false
          ∧ ∃ finish,
              earlier.finish = some finish
              ∧ earlier.start ≤ finish
              ∧ later.start = finish + interval
  /-- A poll that is over before the monitor is told to stop has probed each device once, in
  order.
  -/
  whole
    : ∀ poll ∈ chronicle.polls,
        poll.finish ≠ none
        → poll.stopped = false
        → poll.probed = roster.devices.map Device.identity
  /-- Any other one has probed the first devices in this way. -/
  part : ∀ poll ∈ chronicle.polls, poll.probed <+: roster.devices.map Device.identity
  stopped
    : ∀ poll ∈ chronicle.polls,
        poll.stopped = true → chronicle.task.polling.stopped = true
  /-- No poll that is due is waited for or left out, before the monitor is told to stop. -/
  begins
    : chronicle.task.polling.stopped = false → chronicle.polls = [] → chronicle.task.now = 0
  prompt
    : chronicle.task.polling.stopped = false
      → ∀ poll finish,
          chronicle.polls.getLast? = some poll
          → poll.finish = some finish
          → chronicle.task.now ≤ finish + interval
  /-- There are no other probes than those of polls, and each is answered before the next one. -/
  probes
    : chronicle.task.polling.probes = chronicle.probed.map Prod.snd
  answers
    : chronicle.history.answers.map Prod.fst ++ chronicle.task.asked.toList.map Device.id
      = chronicle.probed.map Prod.fst
  /-- Only a task that is told to stop ends, and until then something can happen. -/
  ended : chronicle.task.phase = .ended → chronicle.task.polling.stopped = true
  goesOn
    : chronicle.task.phase ≠ .ended
      → ∃ action,
          (chronicle.task.step? interval action).isSome = true
          ∧ (action.isOwn = true ∨ ∃ time > 0, action = .elapse time)

theorem Told.keepsInterval (h : chronicle.Told interval roster)
    : chronicle.KeepsInterval interval roster := by
  obtain ⟨whole, due, last, polled⟩ := h.stage.exists_polled
  constructor
  case first =>
    intro poll first
    rw [polled.all] at first
    exact polled.made.start_first polled.start first
  case apart =>
    intro n earlier later before begun
    rw [polled.all] at before begun
    exact (polled.made.start_next polled.start before begun).2
  case whole =>
    intro poll member finished lasts
    rcases polled.of_mem member with earlier | latest
    · exact earlier.1
    · exact absurd (polled.lasts poll latest lasts) finished
  case part =>
    intro poll member
    rcases polled.of_mem member with earlier | latest
    · exact earlier.1 ▸ List.prefix_rfl
    · exact polled.part poll latest
  case stopped =>
    intro poll member stopped
    rcases polled.of_mem member with earlier | latest
    · cases earlier.2.symm.trans stopped
    · exact polled.stopped poll latest stopped
  case begins => exact fun lasts => (h.stage.prompt lasts).1
  case prompt => exact fun lasts => (h.stage.prompt lasts).2
  case probes => exact h.probes
  case answers => exact h.answers
  case ended =>
    intro phase
    cases h.stage with
    | ended _ _ _ stopped => exact stopped
    | ready other | polling other | sleeping other => cases phase.symm.trans other
  case goesOn => exact h.stage.goesOn

end Chronicle

end NodeDevices.Health.Task
