import NodeDevices.Proofs.Reconciliation.Rounds
import NodeDevices.Reconciliation.Task

/-! A task with its rounds: when each was due, when it began and what its source answered, and when
its last report was done. A law of all runs is proved once for the start and once for a step.
-/

namespace NodeDevices.Reconciliation

/-- When a phase waits for a round to be due. -/
def Phase.due? : Phase → Option Nat
  | .waiting due => some due
  | _ => none

namespace Task

variable {period : Nat} {marker : String} {task next : Task}

/-- A proof view of the actions that can happen, with what each of them finds and leaves. -/
inductive Step (period : Nat) (marker : String) (task : Task) : Action → Task → Prop
  | elapse {time}
    (asleep
      : ∀ limit,
          task.asking = none
          → task.state.phase = .delaying limit
          → task.state.cancelled = false ∧ task.state.now + time ≤ limit)
    (idle
      : ∀ due,
          task.asking = none
          → task.state.phase = .waiting due
          → task.state.cancelled = false ∧ task.state.now + time ≤ max due task.state.now)
    : Step period marker task (.elapse time)
        { task with state := { task.state with now := task.state.now + time } }
  | cancel
    : Step period marker task .cancel { task with state := { task.state with cancelled := true } }
  | wake {limit} (free : task.asking = none) (phase : task.state.phase = .delaying limit)
    (passed : limit ≤ task.state.now)
    : Step period marker task .wake
        { state := { task.state with phase := .waiting (task.state.now + period) } }
  | begin {due} (free : task.asking = none) (phase : task.state.phase = .waiting due)
    (passed : due ≤ task.state.now)
    : Step period marker task .begin {
        state := { task.state with rounds := task.state.rounds + 1 }
        asking := some (nextDue period due task.state.now) }
  | answer {due} (source) (asked : task.asking = some due)
    : Step period marker task (.answer source)
        { state := task.state.proceed due (reportsOf marker source) }
  | reported {due rest} (free : task.asking = none)
    (phase : task.state.phase = .reporting due rest)
    : Step period marker task .reported { state := task.state.proceed due rest }
  | quit {limit} (free : task.asking = none)
    (phase : task.state.phase = .delaying limit ∨ task.state.phase = .waiting limit)
    (cancelled : task.state.cancelled = true)
    : Step period marker task .quit { state := { task.state with phase := .ended } }

/-- A step of the schedule is taken while no source is asked. -/
theorem exists_of_keep? {action : Reconciliation.Action}
    (h : task.keep? period marker action = some next)
    : task.asking = none
      ∧ ∃ state, next = { state } ∧ task.state.Step period marker action state := by
  rw [keep?] at h
  split at h
  · next free =>
      obtain ⟨state, can, rfl⟩ := Option.map_eq_some_iff.mp h
      exact ⟨free, state, rfl, .of_step? can⟩
  · cases h

/-- The view covers every action that can happen. -/
theorem Step.of_step? {action : Action} (h : task.step? period marker action = some next)
    : Step period marker task action next := by
  cases action with
  | cancel =>
      cases h
      exact .cancel
  | elapse time =>
      obtain ⟨state, asking⟩ := task
      cases asking with
      | some due =>
          cases h
          exact .elapse nofun nofun
      | none =>
          simp only [step?] at h
          split at h
          · cases h
          · next patient =>
              obtain ⟨-, next, rfl, step⟩ := exists_of_keep? h
              cases step with
              | elapse asleep idle =>
                  refine .elapse (fun limit _ phase => ⟨?_, asleep limit phase⟩) fun due _ phase =>
                    ⟨?_, idle due phase⟩
                  all_goals
                    dsimp only at phase
                    simpa [isInRound, phase] using patient
  | wake =>
      obtain ⟨free, state, rfl, step⟩ := exists_of_keep? h
      cases step with
      | wake phase passed => exact .wake free phase passed
  | begin =>
      simp only [step?] at h
      split at h
      · next due free phase =>
          split at h <;> cases h
          next passed => exact .begin free phase passed
      · cases h
  | answer source =>
      obtain ⟨due, asked, rfl⟩ := Option.map_eq_some_iff.mp h
      exact .answer source asked
  | reported =>
      obtain ⟨free, state, rfl, step⟩ := exists_of_keep? h
      cases step with
      | reported phase => exact .reported free phase
  | quit =>
      obtain ⟨free, state, rfl, step⟩ := exists_of_keep? h
      cases step with
      | quit phase cancelled => exact .quit free phase cancelled

-----------------------------------------------------------------------------------------
-- Sources that answer at once
-----------------------------------------------------------------------------------------

/-- What a task does for an action of its schedule, when its source answers at once. -/
def partsOf : Reconciliation.Action → List Action
  | .elapse time => [.elapse time]
  | .cancel => [.cancel]
  | .wake => [.wake]
  | .begin source => [.begin, .answer source]
  | .reported => [.reported]
  | .quit => [.quit]

/-- A task whose source answers at once keeps its schedule, except that no time passes it once it
can end.
-/
theorem foldlM_partsOf (state : State) (action : Reconciliation.Action)
    (running : state.cancelled = true → ∀ time, action ≠ .elapse time)
    : (partsOf action).foldlM (step? period marker) { state }
      = (state.step? period marker action).map fun state => { state } := by
  cases action with
  | elapse time =>
      have lasts : ¬ state.cancelled = true := fun ended => running ended time rfl
      simp [partsOf, step?, lasts, keep?]
  | cancel | wake | reported | quit => simp [partsOf, step?, keep?, State.step?]
  | begin source =>
      change ((step? period marker { state } .begin).bind fun task =>
        (step? period marker task (.answer source)).bind some) = _
      simp only [step?, State.step?]
      cases phase : state.phase with
      | delaying | reporting | ended => rfl
      | waiting due =>
          by_cases passed : due ≤ state.now
          · simp only [passed, if_true]
            rfl
          · simp only [passed, if_false]
            rfl

-----------------------------------------------------------------------------------------
-- Runs with their rounds
-----------------------------------------------------------------------------------------

/-- A round of a task. -/
structure Round where
  due : Nat
  /-- When the source was called. -/
  start : Nat
  /-- What the source gave, once it did. -/
  source : Option (Option Assignments) := none
  /-- When the round was over, once it was. -/
  finish : Option Nat := none
  deriving DecidableEq, Repr

/-- What a task does to others. -/
inductive Deed where
  | call
  | report (ids : List String)
  deriving DecidableEq, Repr

/-- What a deed reports. -/
def Deed.report? : Deed → Option (List String)
  | .call => none
  | .report ids => some ids

/-- What is done in a round: its source is called, and then all that is due is reported. -/
def Round.deeds (marker : String) (round : Round) : List Deed :=
  .call :: (round.source.elim [] (reportsOf marker)).map .report

/-- A task with its rounds and its deeds. -/
structure Chronicle where
  task : Task
  /-- The rounds that are over. -/
  past : List Round := []
  /-- The round that the task is in. -/
  current : Option Round := none
  deeds : List Deed := []
  deriving DecidableEq, Repr

namespace Chronicle

/-- All rounds in their order. -/
def rounds (chronicle : Chronicle) : List Round :=
  chronicle.past ++ chronicle.current.toList

/-- The chronicle of a task that goes on in its round with the reports left, if there are any. -/
def proceed (chronicle : Chronicle) (task : Task) (round : Round)
    : List (List String) → Chronicle
  | [] =>
      { chronicle with
        task
        past := chronicle.past ++ [{ round with finish := some task.state.now }]
        current := none }
  | report :: _ =>
      { chronicle with
        task, current := some round, deeds := chronicle.deeds ++ [.report report] }

/-- The chronicle with what an action adds to it that leads to a task. -/
def record (marker : String) (chronicle : Chronicle) (task : Task) : Action → Chronicle
  | .begin =>
      { chronicle with
        task
        current := some {
          due := chronicle.task.state.phase.due?.getD 0
          start := chronicle.task.state.now
        }
        deeds := chronicle.deeds ++ [.call] }
  | .answer source =>
      match chronicle.current with
      | some round =>
          chronicle.proceed task { round with source := some source } (reportsOf marker source)
      | none => { chronicle with task }
  | .reported =>
      match chronicle.current with
      | some round => chronicle.proceed task round chronicle.task.state.phase.remaining
      | none => { chronicle with task }
  | _ => { chronicle with task }

/-- Performs an action, if it can happen. -/
def perform (period : Nat) (marker : String) (chronicle : Chronicle) (action : Action)
    : Chronicle :=
  match chronicle.task.step? period marker action with
  | some task => chronicle.record marker task action
  | none => chronicle

/-- A task from its start, after the actions that could happen of a list. -/
def run (period : Nat) (marker : String) (delay : Nat) (actions : List Action) : Chronicle :=
  actions.foldl (perform period marker) { task := .start delay }

/-- A run goes on from where it is. -/
theorem run_append (period : Nat) (marker : String) (delay : Nat) (actions later : List Action)
    : run period marker delay (actions ++ later)
      = later.foldl (perform period marker) (run period marker delay actions) :=
  List.foldl_append

/-- What holds at one time, and after each step from then on, holds from then on. -/
theorem foldl_perform_induction {motive : Chronicle → Prop} {chronicle : Chronicle}
    (start : motive chronicle)
    (step
      : ∀ chronicle action next,
          motive chronicle
          → chronicle.task.Step period marker action next
          → motive (chronicle.record marker next action))
    (actions : List Action)
    : motive (actions.foldl (perform period marker) chronicle) := by
  induction actions using List.reverseRecOn with
  | nil => exact start
  | append_singleton actions action ih =>
      rw [List.foldl_append, List.foldl_cons, List.foldl_nil, perform]
      split
      · next next can => exact step _ action next ih (.of_step? can)
      · exact ih

end Chronicle

end Task

end NodeDevices.Reconciliation
