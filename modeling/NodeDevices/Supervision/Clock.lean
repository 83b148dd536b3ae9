import NodeDevices.Supervision.Work
/-! A supervisor whose calls take no time. It does at once what it can do, so that time passes only
while it waits for an event, up to the end of a wait of its own, and after its end.
-/

namespace NodeDevices.Supervision.Work

variable {σ : Type}

/-- Says whether a number of milliseconds can pass before there is anything to do. -/
def lets (work : Work σ) (time : Nat) : Bool :=
  work.run.done
  || work.waits && work.run.queue.isEmpty && !work.run.closed
    && work.run.retryAt.all (work.run.now + time ≤ ·)

/-- The work after an action, if it can happen when calls take no time. -/
def stepAtOnce? (fleet : Fleet σ) (backoff : Nat) (work : Work σ) (action : Action)
    : Option (Work σ) :=
  match action with
  | .elapse time => if work.lets time then work.step? fleet backoff action else none
  | _ => work.step? fleet backoff action

end NodeDevices.Supervision.Work
