import NodeDevices.Supervision.Supervisor
/-! A supervisor at work: it makes a first pass, then waits for events and, after a pass
that failed, for the end of a wait that an event cuts short. It ends with all plugins
stopped when told to, or when no event can come any more. Times are in milliseconds.
-/

namespace NodeDevices.Supervision

/-- The wait after a pass that failed, when none is given. -/
def defaultBackoff : Nat := 5000

/-- The number of events that can wait. -/
def queueCapacity : Nat := 16

/-- A supervisor at work. -/
structure Run (σ : Type) where
  now : Nat := 0
  supervisor : Supervisor σ
  queue : List Event := []
  closed : Bool := false
  /-- When the wait after a failed pass is over. -/
  retryAt : Option Nat := none
  done : Bool := false

namespace Run

variable {σ : Type}

/-- Makes a pass, after which a failure is followed by a wait. -/
def pass (fleet : Fleet σ) (backoff : Nat) (run : Run σ) : Run σ :=
  let (outcome, supervisor) := run.supervisor.restartAll fleet
  { run with
    supervisor
    retryAt := if outcome.failed.isSome then some (run.now + backoff) else none }

/-- A supervisor that has just begun. -/
def start (fleet : Fleet σ) (backoff : Nat) (plugins : σ) : Run σ :=
  pass fleet backoff { supervisor := { plugins } }

/-- Stops all plugins and ends. -/
def finish (fleet : Fleet σ) (run : Run σ) : Run σ :=
  { run with
    supervisor := { run.supervisor.stopAll fleet with phase := .idle }
    retryAt := none
    queue := []
    done := true }

/-- Acts on an event. -/
def handle (fleet : Fleet σ) (backoff : Nat) (run : Run σ) : Event → Run σ
  | .terminate => run.finish fleet
  | _ => run.pass fleet backoff

/-- Puts an event into the queue, if it has room and is still read. -/
def send (run : Run σ) (event : Event) : Bool × Run σ :=
  if run.done ∨ run.closed ∨ queueCapacity ≤ run.queue.length then (false, run)
  else (true, { run with queue := run.queue ++ [event] })

/-- Lets the supervisor act until it waits, in at most `bound` steps. -/
def settle (fleet : Fleet σ) (backoff : Nat) : Nat → Run σ → Run σ
  | 0, run => run
  | bound + 1, run =>
      if run.done then run
      else match run.queue with
        | event :: queue =>
            settle fleet backoff bound ({ run with queue }.handle fleet backoff event)
        | [] =>
            if run.closed then run.finish fleet
            else match run.retryAt with
              | some time =>
                  if time ≤ run.now then settle fleet backoff bound (run.pass fleet backoff)
                  else run
              | none => run

/-- A bound on the steps of one instant. -/
def instantBound : Nat := queueCapacity + 2

/-- Lets time pass up to an instant, in at most `bound` stops. -/
def advanceTo (fleet : Fleet σ) (backoff : Nat) (target : Nat) : Nat → Run σ → Run σ
  | 0, run => run
  | bound + 1, run =>
      let run := run.settle fleet backoff instantBound
      match run.retryAt with
      | some time =>
          if run.now < time ∧ time ≤ target then
            advanceTo fleet backoff target bound { run with now := time }
          else { run with now := max target run.now }
      | none => { run with now := max target run.now }

/-- Lets a number of milliseconds pass. -/
def advance (fleet : Fleet σ) (backoff : Nat) (run : Run σ) (time : Nat) : Run σ :=
  (run.advanceTo fleet backoff (run.now + time) (time + 2)).settle fleet backoff instantBound

end Run

end NodeDevices.Supervision
