import Mathlib.Data.List.Chain
import NodeDevices.Proofs.Reconciliation.Task

/-! When the rounds of a task begin. Each begins as soon as it is due and the one before it is over,
and is due a period after that was due, or after it began, when it began late. So none begins
before its turn, and none is made up for.
-/

namespace NodeDevices.Reconciliation

/-- A round is due a period after the last one was due at the earliest. -/
theorem due_add_le_nextDue (period due now : Nat) : due + period ≤ nextDue period due now := by
  rw [nextDue]
  split <;> omega

/-- After a round that begins when it is due, the next one is due a period later. -/
theorem nextDue_self (period due : Nat) : nextDue period due due = due + period :=
  if_neg (by omega)

namespace Task

/-- What stands for a round before all others, the end of the start-up delay. -/
def origin (delay : Nat) : Round where
  due := delay
  start := delay
  finish := some delay

/-- A round follows another: it is due by when that was due and began, and it begins when it is
due and that is over.
-/
def Follows (period : Nat) (earlier later : Round) : Prop :=
  later.due = nextDue period earlier.due earlier.start
  ∧ ∃ finish, earlier.finish = some finish ∧ later.start = max later.due finish

namespace Chronicle

/-- Where a task is in its course, with what that means for its rounds. -/
inductive Stage (period delay : Nat) (chronicle : Chronicle) : Prop
  | delaying (phase : chronicle.task.state.phase = .delaying delay)
    (free : chronicle.task.asking = none) (fresh : chronicle.past = [])
    (idle : chronicle.current = none) (early : chronicle.task.state.now ≤ delay)
  | waiting {last finish} (before : chronicle.past.getLastD (origin delay) = last)
    (finished : last.finish = some finish)
    (phase : chronicle.task.state.phase = .waiting (nextDue period last.due last.start))
    (free : chronicle.task.asking = none) (idle : chronicle.current = none)
    (ready : finish ≤ chronicle.task.state.now)
    (prompt : chronicle.task.state.now ≤ max (nextDue period last.due last.start) finish)
  | asking {round due} (busy : chronicle.current = some round)
    (asked : chronicle.task.asking = some (nextDue period round.due round.start))
    (phase : chronicle.task.state.phase = .waiting due) (unanswered : round.source = none)
  | reporting {round rest} (busy : chronicle.current = some round)
    (phase
      : chronicle.task.state.phase = .reporting (nextDue period round.due round.start) rest)
    (free : chronicle.task.asking = none) (answered : round.source ≠ none)
  | ended (phase : chronicle.task.state.phase = .ended) (free : chronicle.task.asking = none)
    (idle : chronicle.current = none) (cancelled : chronicle.task.state.cancelled = true)

/-- The rounds of a task keep to its time. -/
structure Timed (period delay : Nat) (chronicle : Chronicle) : Prop where
  past
    : ∀ round ∈ chronicle.past,
        ∃ finish,
          round.finish = some finish
          ∧ round.start ≤ finish
          ∧ finish ≤ chronicle.task.state.now
  current
    : ∀ round,
        chronicle.current = some round
        → round.finish = none ∧ round.start ≤ chronicle.task.state.now
  chain : (origin delay :: chronicle.rounds).IsChain (Follows period)
  stage : chronicle.Stage period delay

variable {period delay : Nat} {marker : String} {chronicle : Chronicle}

/-- A further round stands to the last one as neighbours do from some place on, if that place is
not after it.
-/
theorem isChain_drop_concat {R : Round → Round → Prop} {count : Nat} {rounds : List Round}
    {round : Round}
    : ((origin delay :: (rounds ++ [round])).drop count).IsChain R
      ↔ ((origin delay :: rounds).drop count).IsChain R
        ∧ (count ≤ rounds.length → R (rounds.getLastD (origin delay)) round) := by
  rw [← List.cons_append, List.drop_append, List.length_cons]
  by_cases early : count ≤ rounds.length
  · have last
        : ((origin delay :: rounds).drop count).getLast?
          = some (rounds.getLastD (origin delay)) := by
      rw [List.getLast?_drop, List.length_cons, if_neg (by omega), List.getLast?_cons,
        List.getLastD_eq_getLast?]
    rw [Nat.sub_eq_zero_of_le (Nat.le_succ_of_le early), List.drop_zero, List.isChain_append, last]
    simp [early]
  · rw [List.drop_eq_nil_of_le (by rw [List.length_cons]; omega), List.nil_append]
    simp only [early, false_implies, and_true, List.isChain_nil, iff_true]
    exact (List.isChain_singleton round).drop _

/-- A further round follows the last one. -/
theorem isChain_concat {R : Round → Round → Prop} {rounds : List Round} {round : Round}
    : (origin delay :: (rounds ++ [round])).IsChain R
      ↔ (origin delay :: rounds).IsChain R ∧ R (rounds.getLastD (origin delay)) round := by
  have whole : ((origin delay :: (rounds ++ [round])).drop 0).IsChain R ↔ _ := isChain_drop_concat
  simpa using whole

/-- Of neighbours from some place on, the later one stands to the one before it, or to the start-up
delay.
-/
theorem rel_of_isChain_drop {R : Round → Round → Prop} {count n : Nat} {rounds : List Round}
    {earlier later : Round} (chain : ((origin delay :: rounds).drop count).IsChain R)
    (late : count ≤ n) (before : (origin delay :: rounds)[n]? = some earlier)
    (begun : rounds[n]? = some later)
    : R earlier later := by
  obtain ⟨skipped, rfl⟩ := Nat.exists_eq_add_of_le late
  obtain ⟨_, rfl⟩ := List.getElem?_eq_some_iff.mp before
  obtain ⟨bound, rfl⟩ := List.getElem?_eq_some_iff.mp begun
  have neighbours := chain.getElem skipped (by rw [List.length_drop, List.length_cons]; omega)
  rwa [List.getElem_drop, List.getElem_drop] at neighbours

/-- A round that goes on with the reports left keeps to the time of its task. -/
theorem Timed.proceed (h : chronicle.Timed period delay) {round : Round}
    (busy : chronicle.current = some round) (changed : Round) (due : changed.due = round.due)
    (start : changed.start = round.start) (unfinished : changed.finish = none)
    (answered : changed.source ≠ none) (reports : List (List String))
    : (chronicle.proceed
        { state := chronicle.task.state.proceed (nextDue period round.due round.start) reports }
        changed reports).Timed period delay := by
  have chain := h.chain
  rw [rounds, busy, Option.toList_some, isChain_concat] at chain
  have began := (h.current round busy).2
  rw [← due, ← start]
  cases reports with
  | nil =>
      constructor
      case past =>
        intro other member
        rcases List.mem_append.mp member with earlier | last
        · exact h.past other earlier
        · obtain rfl := List.mem_singleton.mp last
          exact ⟨_, rfl, start ▸ began, Nat.le_refl _⟩
      case current => exact nofun
      case chain =>
        rw [Chronicle.proceed, rounds, Option.toList_none, List.append_nil, isChain_concat]
        refine ⟨chain.1, ?_⟩
        simpa only [Follows, due, start] using chain.2
      case stage =>
        exact .waiting (List.getLastD_concat ..) rfl rfl rfl rfl (Nat.le_refl _)
          (Nat.le_max_right ..)
  | cons report rest =>
      constructor
      case past => exact h.past
      case current =>
        rintro current ⟨⟩
        exact ⟨unfinished, start ▸ began⟩
      case chain =>
        rw [Chronicle.proceed, rounds, Option.toList_some, isChain_concat]
        refine ⟨chain.1, ?_⟩
        simpa only [Follows, due, start] using chain.2
      case stage => exact .reporting rfl rfl rfl answered

/-- A task that is asked nothing and waits has the last of its rounds behind it. -/
theorem Stage.of_waiting (stage : chronicle.Stage period delay) {due : Nat}
    (phase : chronicle.task.state.phase = .waiting due) (free : chronicle.task.asking = none)
    : ∃ last finish,
        chronicle.past.getLastD (origin delay) = last
        ∧ last.finish = some finish
        ∧ due = nextDue period last.due last.start
        ∧ chronicle.current = none
        ∧ finish ≤ chronicle.task.state.now
        ∧ chronicle.task.state.now ≤ max due finish := by
  cases stage with
  | delaying same | reporting _ same | ended same => cases phase.symm.trans same
  | asking _ asked => cases free.symm.trans asked
  | @waiting last finish before finished same _ idle ready prompt =>
      cases phase.symm.trans same
      exact ⟨last, finish, before, finished, rfl, idle, ready, prompt⟩

/-- A task whose source is asked is in a round without an answer. -/
theorem Stage.of_asked (stage : chronicle.Stage period delay) {due : Nat}
    (asked : chronicle.task.asking = some due)
    : ∃ round,
        chronicle.current = some round
        ∧ due = nextDue period round.due round.start
        ∧ chronicle.task.state.phase.remaining = []
        ∧ round.source = none := by
  cases stage with
  | delaying _ free | waiting _ _ _ free | reporting _ _ free | ended _ free =>
      cases asked.symm.trans free
  | @asking round due busy same phase unanswered =>
      cases asked.symm.trans same
      exact ⟨round, busy, rfl, by rw [phase]; rfl, unanswered⟩

/-- A task that reports is in a round with an answer. -/
theorem Stage.of_reporting (stage : chronicle.Stage period delay) {due : Nat}
    {rest : List (List String)} (phase : chronicle.task.state.phase = .reporting due rest)
    : ∃ round,
        chronicle.current = some round
        ∧ due = nextDue period round.due round.start
        ∧ round.source ≠ none := by
  cases stage with
  | delaying other | waiting _ _ other | asking _ _ other | ended other =>
      cases phase.symm.trans other
  | @reporting round rest busy same _ answered =>
      cases phase.symm.trans same
      exact ⟨round, busy, rfl, answered⟩

/-- A task does not end in a round. -/
theorem Stage.idle_of_ended (stage : chronicle.Stage period delay)
    (phase : chronicle.task.state.phase = .ended)
    : chronicle.current = none := by
  cases stage with
  | delaying other | waiting _ _ other | asking _ _ other | reporting _ other =>
      cases phase.symm.trans other
  | ended _ _ idle => exact idle

/-- Outside of its waits a task can act, or those that it waits for can; and once it is cancelled,
it can act in its waits too.
-/
theorem Stage.exists_isOwn (h : chronicle.Stage period delay) (marker : String)
    (lasts : chronicle.task.state.phase ≠ .ended)
    (busy : chronicle.task.state.cancelled = true ∨ chronicle.task.isInRound = true)
    : ∃ action,
        action.isOwn = true ∧ (chronicle.task.step? period marker action).isSome = true := by
  cases h with
  | delaying phase free | waiting _ _ phase free =>
      have cancelled : chronicle.task.state.cancelled = true := by
        simpa [isInRound, free, phase] using busy
      exact ⟨.quit, rfl, by simp [step?, keep?, State.step?, free, phase, cancelled]⟩
  | asking _ asked => exact ⟨.answer none, rfl, by simp [step?, asked]⟩
  | reporting _ phase free =>
      exact ⟨.reported, rfl, by simp [step?, keep?, State.step?, free, phase]⟩
  | ended phase => exact absurd phase lasts

/-- Until it has ended, a task can act, or those that it waits for can, or time can pass. -/
theorem Stage.goesOn (h : chronicle.Stage period delay)
    (lasts : chronicle.task.state.phase ≠ .ended)
    : ∃ action,
        (chronicle.task.step? period marker action).isSome = true
        ∧ (action.isOwn = true ∨ ∃ time > 0, action = .elapse time) := by
  by_cases busy : chronicle.task.state.cancelled = true ∨ chronicle.task.isInRound = true
  · obtain ⟨action, own, can⟩ := h.exists_isOwn marker lasts busy
    exact ⟨action, can, .inl own⟩
  obtain ⟨running, idle⟩ := not_or.mp busy
  rw [Bool.not_eq_true] at running
  cases h with
  | delaying phase free =>
      by_cases passed : delay ≤ chronicle.task.state.now
      · exact ⟨.wake, by simp [step?, keep?, State.step?, free, phase, passed], .inl rfl⟩
      · refine ⟨.elapse 1, ?_, .inr ⟨1, Nat.one_pos, rfl⟩⟩
        simpa [step?, keep?, State.step?, free, phase, running, Nat.succ_le_iff] using passed
  | @waiting last _ _ _ phase free =>
      by_cases passed : nextDue period last.due last.start ≤ chronicle.task.state.now
      · exact ⟨.begin, by simp [step?, free, phase, passed], .inl rfl⟩
      · refine ⟨.elapse 1, ?_, .inr ⟨1, Nat.one_pos, rfl⟩⟩
        simp only [step?, keep?, State.step?, free, phase, running, Bool.false_eq_true, false_and,
          if_false, Option.isSome_map, Option.isSome_ite]
        omega
  | asking _ asked => exact absurd (by simp [isInRound, asked]) idle
  | reporting _ phase => exact absurd (by simp [isInRound, phase]) idle
  | ended phase => exact absurd phase lasts

/-- With every step a task keeps to its time. -/
theorem Timed.record (h : chronicle.Timed period delay) {action : Action} {next : Task}
    (step : chronicle.task.Step period marker action next)
    : (chronicle.record marker next action).Timed period delay := by
  cases step with
  | @elapse time asleep idle =>
      refine ⟨fun round member => ?_, fun round busy => ?_, h.chain, ?_⟩
      · obtain ⟨finish, finished, began, past⟩ := h.past round member
        exact ⟨finish, finished, began, Nat.le_add_right_of_le past⟩
      · obtain ⟨unfinished, began⟩ := h.current round busy
        exact ⟨unfinished, Nat.le_add_right_of_le began⟩
      · cases h.stage with
        | delaying phase free fresh none _ =>
            exact .delaying phase free fresh none (asleep _ free phase).2
        | waiting before finished phase free none ready prompt =>
            have bound := (idle _ free phase).2
            exact .waiting before finished phase free none (Nat.le_add_right_of_le ready)
              (bound.trans (by omega))
        | asking busy asked phase unanswered => exact .asking busy asked phase unanswered
        | reporting busy phase free answered => exact .reporting busy phase free answered
        | ended phase free none cancelled => exact .ended phase free none cancelled
  | cancel =>
      refine ⟨h.past, h.current, h.chain, ?_⟩
      cases h.stage with
      | delaying phase free fresh none early => exact .delaying phase free fresh none early
      | waiting before finished phase free none ready prompt =>
          exact .waiting before finished phase free none ready prompt
      | asking busy asked phase unanswered => exact .asking busy asked phase unanswered
      | reporting busy phase free answered => exact .reporting busy phase free answered
      | ended phase free none => exact .ended phase free none rfl
  | @wake limit free phase passed =>
      refine ⟨h.past, h.current, h.chain, ?_⟩
      cases h.stage with
      | waiting _ _ other | reporting _ other | ended other | asking _ _ other =>
          cases phase.symm.trans other
      | delaying same _ fresh idle early =>
          cases phase.symm.trans same
          have now : chronicle.task.state.now = delay := Nat.le_antisymm early passed
          have finished : (origin delay).finish = some delay := rfl
          refine .waiting ?_ finished ?_ rfl idle passed ?_
          · exact congrArg (List.getLastD · _) fresh
          · exact congrArg Phase.waiting (now ▸ (nextDue_self ..).symm)
          · exact now.le.trans (Nat.le_max_right ..)
  | @begin due free phase passed =>
      obtain ⟨last, finish, before, finished, is, idle, ready, prompt⟩ :=
        h.stage.of_waiting phase free
      have chain := h.chain
      rw [rounds, idle, Option.toList_none, List.append_nil] at chain
      have now : chronicle.task.state.now = max due finish := by omega
      refine ⟨h.past, ?_, ?_, ?_⟩
      · rintro round ⟨⟩
        exact ⟨rfl, Nat.le_refl _⟩
      · refine isChain_concat.mpr ⟨chain, ?_⟩
        change Follows period (chronicle.past.getLastD (origin delay)) _
        rw [before, phase]
        exact ⟨is, finish, finished, now⟩
      · refine .asking rfl ?_ phase rfl
        rw [phase]
        rfl
  | @answer due source asked =>
      obtain ⟨round, busy, rfl, -⟩ := h.stage.of_asked asked
      rw [Chronicle.record, busy]
      exact h.proceed busy { round with source := some source } rfl rfl (h.current _ busy).1
        (Option.some_ne_none source) _
  | @reported due rest free phase =>
      obtain ⟨round, busy, rfl, answered⟩ := h.stage.of_reporting phase
      rw [Chronicle.record, busy, phase]
      exact h.proceed busy round rfl rfl (h.current _ busy).1 answered _
  | @quit limit free phase cancelled =>
      refine ⟨h.past, h.current, h.chain, ?_⟩
      refine .ended rfl rfl ?_ cancelled
      cases h.stage with
      | delaying _ _ _ idle | waiting _ _ _ _ idle | ended _ _ idle => exact idle
      | asking _ asked => cases free.symm.trans asked
      | reporting _ other => rcases phase with phase | phase <;> cases phase.symm.trans other

/-- Every task keeps to its time. -/
theorem run_timed (period : Nat) (marker : String) (delay : Nat) (actions : List Action)
    : (run period marker delay actions).Timed period delay := by
  refine foldl_perform_induction ?_ (fun _ _ _ ih step => ih.record step) actions
  exact ⟨nofun, nofun, .singleton _, .delaying rfl rfl rfl rfl (Nat.zero_le _)⟩

/-- A round begins after another, or after the start-up delay. -/
theorem Timed.exists_follows (h : chronicle.Timed period delay) {n : Nat} {later : Round}
    (begun : chronicle.rounds[n]? = some later)
    : ∃ earlier,
        (origin delay :: chronicle.rounds)[n]? = some earlier ∧ Follows period earlier later := by
  obtain ⟨bound, -⟩ := List.getElem?_eq_some_iff.mp begun
  have before := List.getElem?_eq_getElem (l := origin delay :: chronicle.rounds)
    (Nat.lt_succ_of_lt bound)
  have chain : ((origin delay :: chronicle.rounds).drop 0).IsChain (Follows period) := h.chain
  exact ⟨_, before, rel_of_isChain_drop chain n.zero_le before begun⟩

-----------------------------------------------------------------------------------------
-- What is done in the rounds
-----------------------------------------------------------------------------------------

/-- What a task does is what is done in its rounds, one after another. -/
structure Told (marker : String) (chronicle : Chronicle) : Prop where
  past : ∀ round ∈ chronicle.past, round.source ≠ none
  deeds
    : chronicle.deeds ++ chronicle.task.state.phase.remaining.map .report
      = chronicle.rounds.flatMap (Round.deeds marker)
  calls : chronicle.task.state.rounds = chronicle.rounds.length
  reports : chronicle.task.state.reports = chronicle.deeds.filterMap Deed.report?

/-- In a round that goes on, the reports left are all that is not done yet. -/
theorem Told.proceed (h : chronicle.Told marker) {round : Round}
    (busy : chronicle.current = some round) (changed : Round) (answered : changed.source ≠ none)
    (due : Nat) (reports : List (List String))
    (left
      : chronicle.deeds ++ reports.map .report
        = (chronicle.past ++ [changed]).flatMap (Round.deeds marker))
    : (chronicle.proceed { state := chronicle.task.state.proceed due reports } changed
        reports).Told marker := by
  have calls : chronicle.task.state.rounds = chronicle.past.length + 1 := by
    simp [h.calls, rounds, busy]
  cases reports with
  | nil =>
      constructor
      case past =>
        intro other member
        rcases List.mem_append.mp member with earlier | last
        · exact h.past other earlier
        · obtain rfl := List.mem_singleton.mp last
          exact answered
      case deeds =>
        rw [List.map_nil, List.append_nil, List.flatMap_append] at left
        rw [Chronicle.proceed, rounds, Option.toList_none, List.append_nil, List.flatMap_append]
        exact (List.append_nil _).trans left
      case calls => simpa [Chronicle.proceed, State.proceed, rounds] using calls
      case reports => exact h.reports
  | cons report rest =>
      constructor
      case past => exact h.past
      case deeds => simpa [Chronicle.proceed, State.proceed, rounds, Phase.remaining] using left
      case calls => simpa [Chronicle.proceed, State.proceed, rounds] using calls
      case reports => simp [Chronicle.proceed, State.proceed, h.reports, Deed.report?]

/-- With every step a task does what is done in its rounds. -/
theorem Told.record (h : chronicle.Told marker) (stage : chronicle.Stage period delay)
    {action : Action} {next : Task} (step : chronicle.task.Step period marker action next)
    : (chronicle.record marker next action).Told marker := by
  cases step with
  | elapse | cancel => exact ⟨h.past, h.deeds, h.calls, h.reports⟩
  | @wake limit free phase passed =>
      have deeds := h.deeds
      rw [phase] at deeds
      exact ⟨h.past, deeds, h.calls, h.reports⟩
  | @quit limit free phase cancelled =>
      have deeds := h.deeds
      rcases phase with phase | phase <;>
        rw [phase] at deeds <;> exact ⟨h.past, deeds, h.calls, h.reports⟩
  | @begin due free phase passed =>
      obtain ⟨last, finish, -, -, -, idle, -⟩ := stage.of_waiting phase free
      have deeds := h.deeds
      have calls := h.calls
      rw [phase, rounds, idle] at deeds
      rw [rounds, idle] at calls
      refine ⟨h.past, ?_, ?_, ?_⟩
      · simpa [Chronicle.record, rounds, phase, Phase.remaining, Round.deeds] using deeds
      · simpa [Chronicle.record, rounds] using calls
      · rw [Chronicle.record, List.filterMap_append]
        exact h.reports.trans (List.append_nil _).symm
  | @answer due source asked =>
      obtain ⟨round, busy, -, idle, unanswered⟩ := stage.of_asked asked
      have deeds := h.deeds
      rw [idle, rounds, busy] at deeds
      rw [Chronicle.record, busy]
      refine h.proceed busy _ (Option.some_ne_none _) _ _ ?_
      -- until now nothing but the call was done in this round
      replace deeds : chronicle.deeds
          = chronicle.past.flatMap (Round.deeds marker) ++ [.call] := by
        simpa [Round.deeds, unanswered] using deeds
      rw [deeds, List.flatMap_append, List.append_assoc]
      simp [Round.deeds]
  | @reported due rest free phase =>
      obtain ⟨round, busy, -, answered⟩ := stage.of_reporting phase
      have deeds := h.deeds
      rw [phase, rounds, busy] at deeds
      rw [Chronicle.record, busy, phase]
      exact h.proceed busy round answered _ _ deeds

/-- Every task does what is done in its rounds. -/
theorem run_told (period : Nat) (marker : String) (delay : Nat) (actions : List Action)
    : (run period marker delay actions).Told marker := by
  refine (foldl_perform_induction
    (motive := fun chronicle => chronicle.Timed period delay ∧ chronicle.Told marker) ?_ ?_
    actions).2
  · exact ⟨run_timed period marker delay [], nofun, rfl, rfl, rfl⟩
  · exact fun _ _ _ ih step => ⟨ih.1.record step, ih.2.record ih.1.stage step⟩

end Chronicle

end Task

end NodeDevices.Reconciliation
