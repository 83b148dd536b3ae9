import Mathlib.Data.List.Induction
import NodeDevices.Proofs.Assignment.Shown
import NodeDevices.Proofs.Reconciliation.Reports
import NodeDevices.Reconciliation.Schedule

/-! The rounds of a scheduler over time. Whatever a source gives to a round is reported by that
round alone, so that the reports of a run are those of its rounds, one after another.
-/

namespace NodeDevices.Reconciliation

open Assignments

/-- A proof view of the steps of a scheduler, with what each of them finds and leaves. -/
inductive State.Step (period : Nat) (marker : String) (state : State) : Action → State → Prop
  | elapse {time} (asleep : ∀ limit, state.phase = .delaying limit → state.now + time ≤ limit)
    (idle : ∀ due, state.phase = .waiting due → state.now + time ≤ max due state.now)
    : Step period marker state (.elapse time) { state with now := state.now + time }
  | cancel : Step period marker state .cancel { state with cancelled := true }
  | wake {limit} (phase : state.phase = .delaying limit) (passed : limit ≤ state.now)
    : Step period marker state .wake { state with phase := .waiting (state.now + period) }
  | begin {due source} (phase : state.phase = .waiting due) (passed : due ≤ state.now)
    : Step period marker state (.begin source)
        ({ state with rounds := state.rounds + 1 }.proceed (nextDue period due state.now)
          (reportsOf marker source))
  | reported {due rest} (phase : state.phase = .reporting due rest)
    : Step period marker state .reported (state.proceed due rest)
  | quit {limit} (phase : state.phase = .delaying limit ∨ state.phase = .waiting limit)
    (cancelled : state.cancelled = true)
    : Step period marker state .quit { state with phase := .ended }

variable {period : Nat} {marker : String} {state next : State}

/-- The view covers every step that can happen. -/
theorem State.Step.of_step? {action : Action} (h : state.step? period marker action = some next)
    : Step period marker state action next := by
  cases action with
  | cancel =>
      cases h
      exact .cancel
  | elapse time =>
      simp only [step?] at h
      split at h
      · next limit phase =>
          split at h <;> cases h
          next bound => exact .elapse (by simpa [phase] using bound) (by simp [phase])
      · next due phase =>
          split at h <;> cases h
          next bound => exact .elapse (by simp [phase]) (by simpa [phase] using bound)
      · next awake busy =>
          cases h
          exact .elapse (fun _ phase => absurd phase (awake _)) fun _ phase =>
            absurd phase (busy _)
  | wake =>
      simp only [step?] at h
      split at h
      · next limit phase =>
          split at h <;> cases h
          next passed => exact .wake phase passed
      · cases h
  | begin source =>
      simp only [step?] at h
      split at h
      · next due phase =>
          split at h <;> cases h
          next passed => exact .begin phase passed
      · cases h
  | reported =>
      simp only [step?] at h
      split at h
      · next due rest phase =>
          cases h
          exact .reported phase
      · cases h
  | quit =>
      simp only [step?] at h
      split at h
      · next phase =>
          split at h <;> cases h
          next cancelled => exact .quit (Or.inl phase) cancelled
      · next phase =>
          split at h <;> cases h
          next cancelled => exact .quit (Or.inr phase) cancelled
      · cases h

-----------------------------------------------------------------------------------------
-- Runs with the sources of their rounds
-----------------------------------------------------------------------------------------

/-- The reports that wait for the one under way. -/
def Phase.remaining : Phase → List (List String)
  | .reporting _ rest => rest
  | _ => []

/-- What the rounds were given that begin with an action. -/
def Action.sources : Action → List (Option Assignments)
  | .begin source => [source]
  | _ => []

/-- A scheduler, with what each of its rounds was given. -/
structure Chronicle where
  state : State
  sources : List (Option Assignments) := []

namespace Chronicle

/-- Performs an action, if it can happen. -/
def perform (period : Nat) (marker : String) (chronicle : Chronicle) (action : Action)
    : Chronicle :=
  match chronicle.state.step? period marker action with
  | some state => { state, sources := chronicle.sources ++ action.sources }
  | none => chronicle

/-- A scheduler from its start, after the actions that could happen of a list. -/
def run (period : Nat) (marker : String) (delay : Nat) (actions : List Action) : Chronicle :=
  actions.foldl (perform period marker) { state := { phase := .delaying delay } }

/-- A run goes on from where it is. -/
theorem run_append (period : Nat) (marker : String) (delay : Nat) (actions later : List Action)
    : run period marker delay (actions ++ later)
      = later.foldl (perform period marker) (run period marker delay actions) :=
  List.foldl_append

/-- What holds at the start, and after each step of a run, holds of every run. -/
theorem run_induction {delay : Nat} {motive : Chronicle → Prop}
    (start : motive { state := { phase := .delaying delay } })
    (step
      : ∀ chronicle action next,
          motive chronicle
          → chronicle.state.Step period marker action next
          → motive { state := next, sources := chronicle.sources ++ action.sources })
    (actions : List Action)
    : motive (run period marker delay actions) := by
  induction actions using List.reverseRecOn with
  | nil => exact start
  | append_singleton actions action ih =>
      rw [run, List.foldl_append, List.foldl_cons, List.foldl_nil, perform]
      split
      · next next can => exact step _ action next ih (.of_step? can)
      · exact ih

end Chronicle

/-- Reports that are left to be made are made first of all. -/
theorem State.reports_proceed (state : State) (due : Nat) (reports : List (List String))
    : (state.proceed due reports).reports ++ (state.proceed due reports).phase.remaining
      = state.reports ++ reports := by
  cases reports <;> simp [proceed, Phase.remaining]

/-- Of each round exactly the reports are made, or are left to be made, that are due for it. -/
theorem Chronicle.run_reports (period : Nat) (marker : String) (delay : Nat)
    (actions : List Action)
    : (run period marker delay actions).state.reports
        ++ (run period marker delay actions).state.phase.remaining
      = (run period marker delay actions).sources.flatMap (reportsOf marker) := by
  refine run_induction
    (motive := fun chronicle =>
      chronicle.state.reports ++ chronicle.state.phase.remaining
      = chronicle.sources.flatMap (reportsOf marker)) rfl ?_ actions
  intro chronicle action next ih step
  cases step with
  | elapse => simpa [Action.sources] using ih
  | cancel => simpa [Action.sources] using ih
  | wake phase => simpa [Action.sources, Phase.remaining, phase] using ih
  | quit phase => rcases phase with phase | phase <;>
      simpa [Action.sources, Phase.remaining, phase] using ih
  | reported phase =>
      rw [phase] at ih
      rw [State.reports_proceed]
      simpa [Action.sources, Phase.remaining] using ih
  | @begin due source phase =>
      -- a round begins while nothing of the one before is left to be made
      have idle : chronicle.state.phase.remaining = [] := by rw [phase]; rfl
      rw [idle, List.append_nil] at ih
      rw [State.reports_proceed, List.flatMap_append, ← ih]
      simp [Action.sources]

/-- A round makes the reports that are left one after another, each when the one before is done,
and is over when the last is done. The induction is on the reports that are left.
-/
theorem Chronicle.foldl_reported (period : Nat) (marker : String) {chronicle : Chronicle}
    {due : Nat} {rest : List (List String)} (phase : chronicle.state.phase = .reporting due rest)
    : (List.replicate (rest.length + 1) Action.reported).foldl (perform period marker) chronicle
      = { chronicle with
          state :=
            { chronicle.state with
              phase := .waiting due
              reports := chronicle.state.reports ++ rest } } := by
  induction rest generalizing chronicle with
  | nil => simp [perform, State.step?, phase, State.proceed, Action.sources]
  | cons report rest ih =>
      have made : chronicle.perform period marker .reported
          = { chronicle with state := chronicle.state.proceed due (report :: rest) } := by
        simp [perform, State.step?, phase, Action.sources]
      rw [List.length_cons, List.replicate_succ, List.foldl_cons, made, ih rfl]
      simp [State.proceed]

/-- A round reports each id that its source shows as often as it is shown, and reports nothing
when its source fails. What the rounds before it were given does not matter. All reports of a round
can be made, and the round is then over.
-/
theorem Chronicle.run_reportsWhatIsShown (period : Nat) (marker : String) (delay : Nat)
    (actions : List Action)
    : (run period marker delay actions).state.reports
          ++ (run period marker delay actions).state.phase.remaining
        = (run period marker delay actions).sources.flatMap (reportsOf marker)
      ∧ (∀ due rest,
          (run period marker delay actions).state.phase = .reporting due rest
          → let finished :=
              run period marker delay (actions ++ List.replicate (rest.length + 1) .reported)
            finished.state.phase = .waiting due
            ∧ finished.sources = (run period marker delay actions).sources
            ∧ finished.state.reports = finished.sources.flatMap (reportsOf marker))
      ∧ ∀ (state : KubeletState) (files : Files) (listing : PodListing),
          let source := state.assignments files listing
          (∀ reason, source = .error reason → reportsOf marker source.toOption = [])
          ∧ ∀ assignments,
              source = .ok assignments
              → ∃ entries,
                  state.entries? files listing = some entries
                  ∧ AreDue marker entries (reportsOf marker source.toOption) := by
  have made := run_reports period marker delay actions
  refine ⟨made, ?_, ?_⟩
  · intro due rest phase
    rw [phase] at made
    rw [run_append, foldl_reported period marker phase]
    exact ⟨rfl, rfl, made⟩
  intro state files listing source
  have shown : source.toOption = (state.entries? files listing).map aggregate :=
    state.toOption_assignments files listing
  constructor
  · intro reason failed
    rw [failed]
    rfl
  · intro assignments given
    cases known : state.entries? files listing with
    | none =>
        rw [known, given] at shown
        cases shown
    | some entries =>
        rw [shown, known]
        exact ⟨entries, rfl, areDue_aggregate entries⟩

end NodeDevices.Reconciliation
