import NodeDevices.Proofs.Reconciliation.Timeline

/-! The end of a cancelled task. In a round it goes on until all of the round is reported, and then
it ends, unless the next round is due by then: that one may still begin. So after a cancellation
no round is waited for, and none begins but late.
-/

namespace NodeDevices.Reconciliation

namespace Task

/-- When a round was due and began, which stays as it is. -/
def Round.beginning (round : Round) : Nat × Nat :=
  (round.due, round.start)

/-- A round that begins after a moment although it is not waited for. It was due already at that
moment or, when that is later, by the end of the round before it.
-/
def Overdue (moment : Nat) (earlier later : Round) : Prop :=
  ∃ finish,
    earlier.finish = some finish
    ∧ later.due ≤ later.start
    ∧ later.start = max moment finish

/-- A round that is overdue although the one before it was not over at the moment follows one that
lasted for a period, but for the tolerance.
-/
theorem Follows.period_le_of_overdue {period moment finish : Nat} {earlier later : Round}
    (h : Follows period earlier later) (finished : earlier.finish = some finish)
    (overdue : Overdue moment earlier later) (passed : moment < finish)
    : earlier.start + period ≤ finish + tolerance := by
  obtain ⟨_, same, due, start⟩ := overdue
  cases finished.symm.trans same
  have bound : nextDue period earlier.due earlier.start ≤ finish := by
    rw [← h.1]
    omega
  rw [nextDue] at bound
  split at bound <;> omega

namespace Chronicle

/-- A task that was cancelled at a moment, with the beginnings of the rounds it had until then. -/
structure Stopping (delay moment : Nat) (begun : List (Nat × Nat)) (chronicle : Chronicle) : Prop
    where
  cancelled : chronicle.task.state.cancelled = true
  late : moment ≤ chronicle.task.state.now
  kept : begun <+: chronicle.rounds.map Round.beginning
  asleep
    : ∀ limit,
        chronicle.task.asking = none
        → chronicle.task.state.phase = .delaying limit
        → chronicle.task.state.now = moment
  idle
    : ∀ due finish,
        chronicle.task.asking = none
        → chronicle.task.state.phase = .waiting due
        → (chronicle.past.getLastD (origin delay)).finish = some finish
        → chronicle.task.state.now = max moment finish
  overdue : ((origin delay :: chronicle.rounds).drop begun.length).IsChain (Overdue moment)

variable {period delay moment : Nat} {marker : String} {begun : List (Nat × Nat)}
  {chronicle : Chronicle}

/-- From its cancellation on a task stops. -/
theorem Timed.stopping (h : chronicle.Timed period delay)
    (cancelled : chronicle.task.state.cancelled = true)
    : chronicle.Stopping delay chronicle.task.state.now
        (chronicle.rounds.map Round.beginning) where
  cancelled
  late := Nat.le_refl _
  kept := List.prefix_rfl
  asleep _ _ _ := rfl
  idle due finish free phase finished := by
    obtain ⟨last, _, rfl, finished', -, -, ready, -⟩ := h.stage.of_waiting phase free
    cases finished.symm.trans finished'
    exact (Nat.max_eq_left ready).symm
  overdue := by
    have rest : (origin delay :: chronicle.rounds).drop chronicle.rounds.length
        = [(origin delay :: chronicle.rounds)[chronicle.rounds.length]] := by
      rw [List.drop_eq_getElem_cons (Nat.lt_succ_self _), List.drop_succ_cons, List.drop_length]
    rw [List.length_map, rest]
    exact .singleton _

/-- A round that goes on with the reports left began when it did. -/
theorem Stopping.proceed (h : chronicle.Stopping delay moment begun) {round : Round}
    (busy : chronicle.current = some round) (changed : Round)
    (beginning : changed.beginning = round.beginning) (due : Nat) (reports : List (List String))
    : (chronicle.proceed { state := chronicle.task.state.proceed due reports } changed
        reports).Stopping delay moment begun := by
  obtain ⟨same, start⟩ := Prod.mk.inj beginning
  have kept := h.kept
  have overdue := h.overdue
  rw [rounds, busy, Option.toList_some, List.map_append, List.map_singleton, ← beginning] at kept
  rw [rounds, busy, Option.toList_some, isChain_drop_concat] at overdue
  cases reports with
  | nil =>
      constructor
      case cancelled => exact h.cancelled
      case late => exact h.late
      case kept =>
        simpa [Chronicle.proceed, rounds, Round.beginning] using kept
      case asleep => rintro _ _ ⟨⟩
      case idle =>
        intro _ finish _ _ finished
        rw [Chronicle.proceed, List.getLastD_concat] at finished
        cases finished
        exact (Nat.max_eq_right h.late).symm
      case overdue =>
        rw [Chronicle.proceed, rounds, Option.toList_none, List.append_nil, isChain_drop_concat]
        refine ⟨overdue.1, ?_⟩
        simpa only [Overdue, same, start] using overdue.2
  | cons report rest =>
      constructor
      case cancelled => exact h.cancelled
      case late => exact h.late
      case kept => simpa [Chronicle.proceed, rounds] using kept
      case asleep => rintro _ _ ⟨⟩
      case idle => rintro _ _ _ ⟨⟩
      case overdue =>
        rw [Chronicle.proceed, rounds, Option.toList_some, isChain_drop_concat]
        refine ⟨overdue.1, ?_⟩
        simpa only [Overdue, same, start] using overdue.2

/-- With every step a cancelled task is on its way to its end. -/
theorem Stopping.record (h : chronicle.Stopping delay moment begun)
    (timed : chronicle.Timed period delay) {action : Action} {next : Task}
    (step : chronicle.task.Step period marker action next)
    : (chronicle.record marker next action).Stopping delay moment begun := by
  cases step with
  | @elapse time asleep idle =>
      refine ⟨h.cancelled, Nat.le_add_right_of_le h.late, h.kept, ?_, ?_, h.overdue⟩
      · intro limit free phase
        cases h.cancelled.symm.trans (asleep limit free phase).1
      · intro due finish free phase
        cases h.cancelled.symm.trans (idle due free phase).1
  | cancel => exact ⟨rfl, h.late, h.kept, h.asleep, h.idle, h.overdue⟩
  | @wake limit free phase passed =>
      refine ⟨h.cancelled, h.late, h.kept, by rintro _ _ ⟨⟩, ?_, h.overdue⟩
      intro _ finish _ _ finished
      have now := h.asleep limit free phase
      cases timed.stage with
      | waiting _ _ other | reporting _ other | ended other | asking _ _ other =>
          cases phase.symm.trans other
      | delaying same _ fresh _ early =>
          cases phase.symm.trans same
          replace finished
            : (chronicle.past.getLastD (origin delay)).finish = some finish := finished
          rw [fresh] at finished
          cases finished
          change chronicle.task.state.now = _
          omega
  | @begin due free phase passed =>
      obtain ⟨last, finish, before, finished, -, idle, -⟩ := timed.stage.of_waiting phase free
      have kept := h.kept
      have overdue := h.overdue
      rw [rounds, idle, Option.toList_none, List.append_nil] at kept overdue
      refine ⟨h.cancelled, h.late, ?_, by rintro _ ⟨⟩, by rintro _ _ ⟨⟩, ?_⟩
      · rw [rounds, List.map_append]
        exact kept.trans (List.prefix_append ..)
      · refine isChain_drop_concat.mpr ⟨overdue, fun _ => ?_⟩
        change Overdue moment (chronicle.past.getLastD (origin delay)) _
        rw [before, phase]
        exact ⟨finish, finished, passed, h.idle due finish free phase (before ▸ finished)⟩
  | @answer due source asked =>
      obtain ⟨round, busy, -⟩ := timed.stage.of_asked asked
      rw [Chronicle.record, busy]
      exact h.proceed busy { round with source := some source } rfl _ _
  | @reported due rest free phase =>
      obtain ⟨round, busy, -⟩ := timed.stage.of_reporting phase
      rw [Chronicle.record, busy, phase]
      exact h.proceed busy round rfl _ _
  | @quit limit free phase cancelled =>
      exact ⟨h.cancelled, h.late, h.kept, by rintro _ _ ⟨⟩, by rintro _ _ _ ⟨⟩, h.overdue⟩

/-- From its cancellation on every task stops. -/
theorem run_stopping (period : Nat) (marker : String) (delay : Nat) (before after : List Action)
    : let cancelled := run period marker delay (before ++ [.cancel])
      (run period marker delay (before ++ .cancel :: after)).Stopping delay
        cancelled.task.state.now (cancelled.rounds.map Round.beginning) := by
  intro cancelled
  have was : cancelled.task.state.cancelled = true := by
    rw [show cancelled = _ from run_append period marker delay before [.cancel]]
    rfl
  have timed : cancelled.Timed period delay := run_timed ..
  rw [List.append_cons, run_append]
  exact (foldl_perform_induction
    (motive := fun chronicle =>
      chronicle.Timed period delay
      ∧ chronicle.Stopping delay cancelled.task.state.now (cancelled.rounds.map Round.beginning))
    ⟨timed, timed.stopping was⟩
    (fun _ _ _ ih step => ⟨ih.1.record step, ih.2.record ih.1 step⟩) after).2

-----------------------------------------------------------------------------------------
-- What is left to a cancelled task
-----------------------------------------------------------------------------------------

/-- A task stops once it is cancelled, but for rounds that are overdue. -/
structure StopsUnlessOverdue (period : Nat) (marker : String) (delay : Nat)
    (chronicle cancelled : Chronicle)
    : Prop where
  /-- The rounds until the cancellation stay. -/
  kept : cancelled.rounds.map Round.beginning <+: chronicle.rounds.map Round.beginning
  /-- A later round begins only when it is due by the end of the round before it, or by the
  cancellation. Then it begins at once, and the round before it has lasted for a period, but for
  the tolerance, or was over by the cancellation.
  -/
  overdue
    : ∀ (n : Nat) (round : Round),
        cancelled.rounds.length ≤ n
        → chronicle.rounds[n]? = some round
        → ∃ earlier finish,
            (origin delay :: chronicle.rounds)[n]? = some earlier
            ∧ earlier.finish = some finish
            ∧ round.due ≤ round.start
            ∧ round.start = max cancelled.task.state.now finish
            ∧ (finish ≤ cancelled.task.state.now
                ∨ earlier.start + period ≤ finish + tolerance)
  /-- All that is due for a round is reported before anything else is done. -/
  deeds
    : chronicle.deeds ++ chronicle.task.state.phase.remaining.map .report
      = chronicle.rounds.flatMap (Round.deeds marker)
  calls : chronicle.task.state.rounds = chronicle.rounds.length
  /-- The task does not end in a round. -/
  complete
    : chronicle.task.state.phase = .ended
      → chronicle.current = none
        ∧ chronicle.deeds = chronicle.rounds.flatMap (Round.deeds marker)
  /-- It does not wait. -/
  prompt
    : ∀ due : Nat,
        chronicle.task.asking = none
        → chronicle.task.state.phase = .waiting due
        → ∃ finish,
            (chronicle.past.getLastD (origin delay)).finish = some finish
            ∧ chronicle.task.state.now = max cancelled.task.state.now finish
  /-- When nothing is due, it can end, and it can do nothing else. -/
  ends
    : ∀ limit : Nat,
        chronicle.task.asking = none
        → (chronicle.task.state.phase = .delaying limit
            ∨ chronicle.task.state.phase = .waiting limit)
        → chronicle.task.state.now < limit
        → (∃ next, chronicle.task.step? period marker .quit = some next)
          ∧ ∀ action next,
              chronicle.task.step? period marker action = some next
              → next = chronicle.task ∨ next.state.phase = .ended
  /-- Until it has ended, it can act, or those that it waits for can. -/
  goesOn
    : chronicle.task.state.phase ≠ .ended
      → ∃ action,
          action.isOwn = true ∧ (chronicle.task.step? period marker action).isSome = true

/-- When nothing is due, a cancelled task can end, and it can do nothing else. -/
theorem Stopping.ends (h : chronicle.Stopping delay moment begun) {limit : Nat}
    (free : chronicle.task.asking = none)
    (phase
      : chronicle.task.state.phase = .delaying limit
        ∨ chronicle.task.state.phase = .waiting limit)
    (early : chronicle.task.state.now < limit)
    : (∃ next, chronicle.task.step? period marker .quit = some next)
      ∧ ∀ action next,
          chronicle.task.step? period marker action = some next
          → next = chronicle.task ∨ next.state.phase = .ended := by
  have can : ∃ next, chronicle.task.step? period marker .quit = some next := by
    rcases phase with phase | phase <;>
      simp [step?, keep?, free, State.step?, phase, h.cancelled]
  refine ⟨can, fun action next step => ?_⟩
  cases Step.of_step? step with
  | @elapse time asleep idle =>
      rcases phase with phase | phase
      · cases h.cancelled.symm.trans (asleep limit free phase).1
      · cases h.cancelled.symm.trans (idle limit free phase).1
  | cancel =>
      left
      rw [← h.cancelled]
  | wake _ other passed | begin _ other passed =>
      rcases phase with phase | phase <;> cases phase.symm.trans other
      omega
  | answer _ asked => cases free.symm.trans asked
  | reported _ other => rcases phase with phase | phase <;> cases phase.symm.trans other
  | quit => exact Or.inr rfl

/-- A cancelled task stops, except that a round that is overdue by then may still begin, and others
after it as long as each lasts for a period.
-/
theorem run_stopsUnlessOverdue (period : Nat) (marker : String) (delay : Nat)
    (before after : List Action)
    : (run period marker delay (before ++ .cancel :: after)).StopsUnlessOverdue period marker
        delay (run period marker delay (before ++ [.cancel])) := by
  have timed := run_timed period marker delay (before ++ .cancel :: after)
  have told := run_told period marker delay (before ++ .cancel :: after)
  have stopping := run_stopping period marker delay before after
  constructor
  case kept => exact stopping.kept
  case overdue =>
    intro n round later begun
    obtain ⟨earlier, is, follows⟩ := timed.exists_follows begun
    have overdue : Overdue _ earlier round :=
      rel_of_isChain_drop stopping.overdue (by rwa [List.length_map]) is begun
    have ⟨finish, finished, due, start⟩ := overdue
    refine ⟨earlier, finish, is, finished, due, start, ?_⟩
    exact (Nat.lt_or_ge _ finish).symm.imp_right (follows.period_le_of_overdue finished overdue)
  case deeds => exact told.deeds
  case calls => exact told.calls
  case complete =>
    intro phase
    have deeds := told.deeds
    rw [phase] at deeds
    exact ⟨timed.stage.idle_of_ended phase, (List.append_nil _).symm.trans deeds⟩
  case prompt =>
    intro due free phase
    obtain ⟨last, finish, rfl, finished, -⟩ := timed.stage.of_waiting phase free
    exact ⟨finish, finished, stopping.idle due finish free phase finished⟩
  case ends => exact fun _ => stopping.ends
  case goesOn =>
    exact fun lasts => timed.stage.exists_isOwn marker lasts (Or.inl stopping.cancelled)

/-- The first round lasts for more than a period, and is under way when the task is cancelled. The
second one begins all the same.
-/
example
    : let chronicle := run 10 "" 0 [
        .wake, .elapse 10, .begin, .elapse 15, .cancel, .answer none, .begin, .elapse 1,
        .answer none, .quit]
      chronicle.task.state.phase = .ended
      ∧ chronicle.rounds.map Round.beginning = [(10, 10), (20, 25)] := by
  decide

end Chronicle

end Task

end NodeDevices.Reconciliation
