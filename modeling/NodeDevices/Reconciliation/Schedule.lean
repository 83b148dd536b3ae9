import NodeDevices.Reconciliation.Plan
/-! When reconciliation rounds begin. After a start-up delay a round is due every period;
a round that begins late moves the next one to a full period after it. Once cancelled, no
round is waited for, but one that is due may begin. Times are in milliseconds.
-/

namespace NodeDevices.Reconciliation

/-- The period, when none is given. -/
def defaultPeriod : Nat := 180000

/-- The bound of the start-up delay, when none is given. -/
def defaultStartupBound : Nat := 600000

/-- The greatest number of milliseconds that a delay is drawn from. -/
def longestDraw : Nat := UInt64.size - 1

/-- The start-up delay in milliseconds that a random number draws below a bound in
nanoseconds.
-/
def startupDelay (bound draw : Nat) : Nat :=
  let milliseconds := min (bound / 1000000) longestDraw
  if milliseconds = 0 then 0 else draw % milliseconds

/-- How late a round may begin without being counted as late. -/
def tolerance : Nat := 5

/-- When the next round is due after one that was due and has begun. -/
def nextDue (period due now : Nat) : Nat :=
  if due + tolerance < now then now + period else due + period

/-- What the scheduler is doing. -/
inductive Phase where
  /-- Waits for the end of the start-up delay. -/
  | delaying (limit : Nat)
  /-- Waits for a round to be due. -/
  | waiting (due : Nat)
  /-- Reports, while further reports wait; the next round is due at the given time. -/
  | reporting (due : Nat) (waiting : List (List String))
  | ended
  deriving DecidableEq, Repr

/-- The state of a scheduler, with the number of rounds begun and the reports begun. -/
structure State where
  now : Nat := 0
  phase : Phase
  cancelled : Bool := false
  rounds : Nat := 0
  reports : List (List String) := []
  deriving DecidableEq, Repr

/-- A step of a scheduler or of its surroundings. -/
inductive Action where
  | elapse (time : Nat)
  | cancel
  /-- The start-up delay is over. -/
  | wake
  /-- A round begins, with the assignments that its source gives. -/
  | begin (source : Option Assignments)
  /-- The report under way is done. -/
  | reported
  | quit

/-- The scheduler once a list of reports is left to be made. -/
def State.proceed (state : State) (due : Nat) : List (List String) → State
  | [] => { state with phase := .waiting due }
  | report :: rest =>
      { state with phase := .reporting due rest, reports := state.reports ++ [report] }

/-- The state after an action, if it can happen. Time does not pass a wait that is over. -/
def State.step? (period : Nat) (marker : String) (state : State)
    : Action → Option State
  | .elapse time =>
      let moved := { state with now := state.now + time }
      match state.phase with
      | .delaying limit => if moved.now ≤ limit then some moved else none
      | .waiting due => if moved.now ≤ max due state.now then some moved else none
      | _ => some moved
  | .cancel => some { state with cancelled := true }
  | .wake =>
      match state.phase with
      | .delaying limit =>
          if limit ≤ state.now then
            some { state with phase := .waiting (state.now + period) }
          else none
      | _ => none
  | .begin source =>
      match state.phase with
      | .waiting due =>
          if due ≤ state.now then
            let reports := ((round source marker).map Plan.reports).getD []
            some ({ state with rounds := state.rounds + 1 }.proceed
              (nextDue period due state.now) reports)
          else none
      | _ => none
  | .reported =>
      match state.phase with
      | .reporting due rest => some (state.proceed due rest)
      | _ => none
  | .quit =>
      match state.phase with
      | .delaying _ | .waiting _ =>
          if state.cancelled then some { state with phase := .ended } else none
      | _ => none

end NodeDevices.Reconciliation
