import NodeDevices.Proofs.Reconciliation.Timeline

/-! The rounds of a task, counted. Round after round has a turn, a period after the turn before it.
No round begins before its turn, and it begins at its turn when none before it lasts longer than
a period. So there are never more rounds than periods.
-/

namespace NodeDevices.Reconciliation

namespace Task

/-- A round lasts no longer than a time, or has not until now. -/
def Round.IsWithin (now time : Nat) (round : Round) : Prop :=
  round.finish.getD now ≤ round.start + time

namespace Chronicle

variable {period delay : Nat} {marker : String} {chronicle : Chronicle}

/-- No round is due before its turn, by induction on its number. -/
theorem Timed.turn_le_due (h : chronicle.Timed period delay)
    : ∀ (n : Nat) {round : Round},
        (origin delay :: chronicle.rounds)[n]? = some round → delay + n * period ≤ round.due
  | 0, _, rfl => (Nat.zero_mul period).symm ▸ Nat.le_refl _
  | n + 1, round, begun => by
      obtain ⟨earlier, before, due, -⟩ := h.exists_follows begun
      calc delay + (n + 1) * period
        _ = delay + n * period + period := by rw [Nat.succ_mul, Nat.add_assoc]
        _ ≤ earlier.due + period := Nat.add_le_add_right (h.turn_le_due n before) period
        _ ≤ round.due := due ▸ due_add_le_nextDue ..

/-- No round begins before its turn. -/
theorem Timed.turn_le_start (h : chronicle.Timed period delay) {n : Nat} {round : Round}
    (begun : chronicle.rounds[n]? = some round)
    : delay + (n + 1) * period ≤ round.start := by
  obtain ⟨_, _, _, _, _, start⟩ := h.exists_follows begun
  exact (h.turn_le_due (n + 1) begun).trans (start ▸ Nat.le_max_left ..)

/-- While no round lasts longer than a period, each is due, and begins, at its turn. -/
theorem Timed.start_eq_turn (h : chronicle.Timed period delay)
    : ∀ (n : Nat) {round : Round},
        (origin delay :: chronicle.rounds)[n]? = some round
        → (∀ earlier ∈ (origin delay :: chronicle.rounds).take n,
            earlier.IsWithin chronicle.task.state.now period)
        → round.due = delay + n * period ∧ round.start = delay + n * period
  | 0, _, rfl, _ => by simp [origin]
  | n + 1, round, begun, within => by
      obtain ⟨earlier, before, due, finish, finished, start⟩ := h.exists_follows begun
      have last := within earlier
        (List.mem_of_getElem? ((List.getElem?_take_of_lt n.lt_succ_self).trans before))
      rw [Round.IsWithin, finished, Option.getD_some] at last
      obtain ⟨was, began⟩ := h.start_eq_turn n before fun other member =>
        within other (List.take_subset_take_left _ n.le_succ member)
      rw [was, began, nextDue_self] at due
      rw [Nat.succ_mul, ← Nat.add_assoc]
      omega

/-- A round that is over is followed by another, unless it is too early or the task is cancelled. -/
theorem Timed.lt_length_rounds (h : chronicle.Timed period delay)
    (running : chronicle.task.state.cancelled = false) {n finish : Nat} {earlier : Round}
    (before : (origin delay :: chronicle.rounds)[n]? = some earlier)
    (finished : earlier.finish = some finish)
    (passed : max (nextDue period earlier.due earlier.start) finish < chronicle.task.state.now)
    : n < chronicle.rounds.length := by
  obtain ⟨bound, -⟩ := List.getElem?_eq_some_iff.mp before
  refine lt_of_le_of_ne (Nat.le_of_lt_succ bound) fun last => ?_
  -- the last round stands where the task is in its course
  subst last
  replace before : chronicle.rounds.getLastD (origin delay) = earlier := by
    have whole := List.getLast?_eq_getElem?.trans before
    rw [List.getLast?_cons, ← List.getLastD_eq_getLast?] at whole
    exact Option.some.inj whole
  cases h.stage with
  | delaying _ _ fresh idle early =>
      rw [rounds, fresh, idle] at before
      cases before
      cases finished
      omega
  | @waiting round finish' same finished' _ _ idle _ prompt =>
      rw [rounds, idle, Option.toList_none, List.append_nil, same] at before
      cases before
      cases finished.symm.trans finished'
      omega
  | asking busy | reporting busy =>
      rw [rounds, busy, Option.toList_some, List.getLastD_concat] at before
      cases before
      cases finished.symm.trans (h.current _ busy).1
  | ended _ _ _ cancelled => cases running.symm.trans cancelled

/-- While no round lasts longer than a period, each begins by the end of its turn. -/
theorem Timed.lt_length_rounds_of_within (h : chronicle.Timed period delay)
    (running : chronicle.task.state.cancelled = false)
    : ∀ n : Nat,
        (∀ earlier ∈ (origin delay :: chronicle.rounds).take (n + 1),
          earlier.IsWithin chronicle.task.state.now period)
        → delay + (n + 1) * period < chronicle.task.state.now
        → n < chronicle.rounds.length := by
  intro n within passed
  induction n with
  | zero =>
      have before : (origin delay :: chronicle.rounds)[0]? = some (origin delay) := rfl
      have due : nextDue period delay delay = delay + period := nextDue_self ..
      refine h.lt_length_rounds running before rfl ?_
      rw [origin, due]
      omega
  | succ n ih =>
      rw [Nat.succ_mul, ← Nat.add_assoc] at passed
      have bound := ih (fun other member =>
        within other (List.take_subset_take_left _ (n + 1).le_succ member)) (by omega)
      have before : (origin delay :: chronicle.rounds)[n + 1]? = some chronicle.rounds[n] :=
        List.getElem?_eq_getElem bound
      have last := within chronicle.rounds[n]
        (List.mem_of_getElem? ((List.getElem?_take_of_lt (n + 1).lt_succ_self).trans before))
      obtain ⟨was, began⟩ := h.start_eq_turn (n + 1) before fun other member =>
        within other (List.take_subset_take_left _ (n + 1).le_succ member)
      have due : nextDue period chronicle.rounds[n].due chronicle.rounds[n].start
          = chronicle.rounds[n].start + period := by rw [was, began, nextDue_self]
      rw [Round.IsWithin] at last
      -- a round that was not over by now would last too long
      cases finished : chronicle.rounds[n].finish with
      | none =>
          rw [finished, Option.getD_none] at last
          omega
      | some finish =>
          rw [finished, Option.getD_some] at last
          refine h.lt_length_rounds running before finished ?_
          omega

-----------------------------------------------------------------------------------------
-- The timetable
-----------------------------------------------------------------------------------------

/-- Every round begins before a later time has passed. -/
theorem Timed.start_le_now (h : chronicle.Timed period delay) {round : Round}
    (member : round ∈ chronicle.rounds)
    : round.start ≤ chronicle.task.state.now := by
  rcases List.mem_append.mp member with past | current
  · obtain ⟨finish, -, began, finished⟩ := h.past round past
    exact began.trans finished
  · exact (h.current round (Option.mem_toList.mp current)).2

/-- Until any time no more rounds begin than there are periods. -/
theorem Timed.length_filter_le (h : chronicle.Timed period delay) (positive : 0 < period)
    (time : Nat)
    : (chronicle.rounds.filter (·.start ≤ time)).length ≤ (time - delay) / period := by
  let turns := (time - delay) / period
  have late : (chronicle.rounds.drop turns).filter (·.start ≤ time) = [] := by
    refine List.filter_eq_nil_iff.mpr fun round member => ?_
    obtain ⟨n, begun⟩ := List.mem_iff_getElem?.mp member
    rw [List.getElem?_drop] at begun
    have turn := h.turn_le_start begun
    have enough : time - delay < (turns + 1) * period :=
      (Nat.div_lt_iff_lt_mul positive).mp (Nat.lt_succ_self _)
    have later : (turns + 1) * period ≤ (turns + n + 1) * period :=
      Nat.mul_le_mul_right period (by omega)
    rw [decide_eq_true_iff]
    omega
  calc (chronicle.rounds.filter (·.start ≤ time)).length
    _ = ((chronicle.rounds.take turns ++ chronicle.rounds.drop turns).filter
          (·.start ≤ time)).length := by rw [List.take_append_drop]
    _ = ((chronicle.rounds.take turns).filter (·.start ≤ time)).length := by
          rw [List.filter_append, late, List.append_nil]
    _ ≤ (chronicle.rounds.take turns).length := List.length_filter_le _ _
    _ ≤ turns := List.length_take_le _ _

-----------------------------------------------------------------------------------------
-- What a task can do
-----------------------------------------------------------------------------------------

/-- What a waiting task can do depends on the last of its rounds alone: it begins the next one as
soon as that is due and the last one over, and lets time pass until then.
-/
theorem Timed.begin_isSome_iff (h : chronicle.Timed period delay) {due : Nat}
    (free : chronicle.task.asking = none) (phase : chronicle.task.state.phase = .waiting due)
    : ∃ last finish,
        chronicle.rounds.getLastD (origin delay) = last
        ∧ last.finish = some finish
        ∧ due = nextDue period last.due last.start
        ∧ ((chronicle.task.step? period marker .begin).isSome = true
            ↔ chronicle.task.state.now = max due finish)
        ∧ (chronicle.task.state.cancelled = false
            → ∀ time,
                (chronicle.task.step? period marker (.elapse time)).isSome = true
                ↔ chronicle.task.state.now + time ≤ max due finish) := by
  obtain ⟨last, finish, before, finished, is, idle, ready, prompt⟩ := h.stage.of_waiting phase free
  refine ⟨last, finish, ?_, finished, is, ?_, ?_⟩
  · rw [rounds, idle, Option.toList_none, List.append_nil, before]
  · simp only [step?, free, phase, Option.isSome_ite]
    omega
  · intro running time
    simp only [step?, free, running, keep?, State.step?, phase, Option.isSome_map,
      Bool.false_eq_true, false_and, if_false, Option.isSome_ite]
    omega

/-- A task keeps to its timetable. -/
structure KeepsTime (period delay : Nat) (marker : String) (chronicle : Chronicle) : Prop where
  /-- No round begins before its turn. -/
  turn
    : ∀ (n : Nat) (round : Round),
        chronicle.rounds[n]? = some round → delay + (n + 1) * period ≤ round.start
  /-- A round begins when it is due and the one before it is over, at that moment. -/
  apart
    : ∀ (n : Nat) (earlier later : Round),
        chronicle.rounds[n]? = some earlier
        → chronicle.rounds[n + 1]? = some later
        → earlier.source ≠ none
          ∧ ∃ finish,
              earlier.finish = some finish
              ∧ earlier.start ≤ finish
              ∧ later.due = nextDue period earlier.due earlier.start
              ∧ later.start = max later.due finish
  /-- All that is due for a round is reported before the source is called for the next one. -/
  deeds
    : chronicle.deeds ++ chronicle.task.state.phase.remaining.map .report
      = chronicle.rounds.flatMap (Round.deeds marker)
  calls : chronicle.task.state.rounds = chronicle.rounds.length
  reports : chronicle.task.state.reports = chronicle.deeds.filterMap Deed.report?
  /-- A round begins at its turn when none before it lasts longer than a period. -/
  punctual
    : ∀ (n : Nat) (round : Round),
        chronicle.rounds[n]? = some round
        → (∀ earlier ∈ chronicle.rounds.take n,
            earlier.IsWithin chronicle.task.state.now period)
        → round.start = delay + (n + 1) * period
  /-- A turn does not pass then without its round. -/
  taken
    : chronicle.task.state.cancelled = false
      → ∀ n : Nat,
          (∀ earlier ∈ chronicle.rounds.take n,
            earlier.IsWithin chronicle.task.state.now period)
          → delay + (n + 1) * period < chronicle.task.state.now
          → n < chronicle.rounds.length
  /-- Nor does, in any case, the moment at which the next round is due and the last one over. -/
  prompt
    : chronicle.task.state.cancelled = false
      → ∀ (n finish : Nat) (earlier : Round),
          chronicle.rounds[n]? = some earlier
          → earlier.finish = some finish
          → max (nextDue period earlier.due earlier.start) finish < chronicle.task.state.now
          → n + 1 < chronicle.rounds.length
  /-- Until any time no more rounds begin than there are periods. -/
  few
    : ∀ time : Nat,
        (chronicle.rounds.filter (·.start ≤ time)).length ≤ (time - delay) / period
  /-- What begins has begun by now. -/
  begun : ∀ round ∈ chronicle.rounds, round.start ≤ chronicle.task.state.now
  /-- A task that waits can begin a round as soon as that is due and the last one is over, and lets
  time pass until then.
  -/
  waiting
    : ∀ due : Nat,
        chronicle.task.asking = none
        → chronicle.task.state.phase = .waiting due
        → ∃ last finish,
            chronicle.rounds.getLastD (origin delay) = last
            ∧ last.finish = some finish
            ∧ due = nextDue period last.due last.start
            ∧ ((chronicle.task.step? period marker .begin).isSome = true
                ↔ chronicle.task.state.now = max due finish)
            ∧ (chronicle.task.state.cancelled = false
                → ∀ time,
                    (chronicle.task.step? period marker (.elapse time)).isSome = true
                    ↔ chronicle.task.state.now + time ≤ max due finish)
  /-- Until the end there is always something that can happen next. -/
  goesOn
    : chronicle.task.state.phase ≠ .ended
      → ∃ action,
          (chronicle.task.step? period marker action).isSome = true
          ∧ (action.isOwn = true ∨ ∃ time > 0, action = .elapse time)

/-- Every task keeps to its timetable, however long its source and its reports take. -/
theorem run_keepsTime (period : Nat) (marker : String) (delay : Nat) (actions : List Action)
    (positive : 0 < period)
    : (run period marker delay actions).KeepsTime period delay marker := by
  have timed := run_timed period marker delay actions
  have told := run_told period marker delay actions
  -- the start-up delay stands for a round that is not too long
  have within {chronicle : Chronicle} {n : Nat}
      (rounds : ∀ earlier ∈ chronicle.rounds.take n,
        earlier.IsWithin chronicle.task.state.now period)
      : ∀ earlier ∈ (origin delay :: chronicle.rounds).take (n + 1),
          earlier.IsWithin chronicle.task.state.now period := by
    rw [List.take_succ_cons, List.forall_mem_cons]
    exact ⟨Nat.le_add_right delay period, rounds⟩
  constructor
  case turn => exact fun _ _ => timed.turn_le_start
  case apart =>
    intro n earlier later before begun
    obtain ⟨same, is, due, finish, finished, start⟩ := timed.exists_follows begun
    cases before.symm.trans is
    have past : earlier ∈ (run period marker delay actions).past := by
      rcases List.mem_append.mp (List.mem_of_getElem? before) with past | current
      · exact past
      · cases finished.symm.trans (timed.current _ (Option.mem_toList.mp current)).1
    obtain ⟨_, finished', began, -⟩ := timed.past _ past
    cases finished.symm.trans finished'
    exact ⟨told.past _ past, finish, finished, began, due, start⟩
  case deeds => exact told.deeds
  case calls => exact told.calls
  case reports => exact told.reports
  case punctual =>
    exact fun n _ begun short => (timed.start_eq_turn (n + 1) begun (within short)).2
  case taken =>
    exact fun running n short => timed.lt_length_rounds_of_within running n (within short)
  case prompt =>
    exact fun running n _ _ before => timed.lt_length_rounds running (n := n + 1) before
  case few => exact timed.length_filter_le positive
  case begun => exact fun _ => timed.start_le_now
  case waiting => exact fun _ => timed.begin_isSome_iff
  case goesOn => exact timed.stage.goesOn

/-- The second round lasts too long, so that the third begins late, and as soon as it can. -/
theorem run_keepsTime_of_overrun
    : let chronicle := run 10 "" 3 [
        .elapse 3, .wake, .elapse 10, .begin, .elapse 4, .answer none, .elapse 6,
        .begin, .elapse 25, .answer none, .begin]
      0 < 10
      ∧ chronicle.KeepsTime 10 3 ""
      ∧ chronicle.rounds.map (fun round => (round.due, round.start, round.finish))
        = [(13, 13, some 17), (23, 23, some 48), (33, 48, none)] :=
  ⟨by decide, run_keepsTime 10 "" 3 _ (by decide), by decide⟩

end Chronicle

end Task

end NodeDevices.Reconciliation
