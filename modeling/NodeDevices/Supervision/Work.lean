import NodeDevices.Supervision.Run
/-! A supervisor at work among those that send it events. What it begins takes time, in which
events come into its queue. Everything that happens is an action; actions come in any order.
-/

namespace NodeDevices.Supervision

/-- What a supervisor can be at: a pass, or its end. -/
inductive Duty where
  | pass
  | ending
  deriving DecidableEq, Repr

/-- What an event asks for. -/
def Event.duty : Event → Duty
  | .terminate => .ending
  | _ => .pass

/-- A supervisor at work, with what it has begun and not finished. -/
structure Work (σ : Type) where
  run : Run σ
  duty : Option Duty := none

namespace Work

/-- Something that happens to a supervisor at work. -/
inductive Action where
  /-- An event is sent, and dropped if the queue is full or no longer read. -/
  | send (event : Event)
  /-- No further event can be sent. -/
  | close
  /-- A number of milliseconds passes. -/
  | elapse (time : Nat)
  /-- The supervisor takes the next event. -/
  | take (event : Event)
  /-- The supervisor's wait after a failed pass is over. -/
  | retry
  /-- The supervisor learns that no event can come any more. -/
  | drain
  /-- The supervisor finishes what it has begun. -/
  | finish
  deriving DecidableEq, Repr

/-- Says whether the supervisor itself takes an action. -/
def Action.isOwn : Action → Bool
  | .take _ | .retry | .drain | .finish => true
  | _ => false

variable {σ : Type}

/-- A supervisor that has just begun its first pass. -/
def start (plugins : σ) : Work σ where
  run := { supervisor := { plugins } }
  duty := some .pass

/-- Says whether the supervisor waits for an event. -/
def waits (work : Work σ) : Bool :=
  work.duty.isNone && !work.run.done

/-- The work after an action, if it can happen. -/
def step? (fleet : Fleet σ) (backoff : Nat) (work : Work σ) : Action → Option (Work σ)
  | .send event => some { work with run := (work.run.send event).2 }
  | .close => some { work with run := { work.run with closed := true } }
  | .elapse time => some { work with run := { work.run with now := work.run.now + time } }
  | .take event =>
      if work.waits ∧ work.run.queue.head? = some event then
        some { run := { work.run with queue := work.run.queue.tail }, duty := some event.duty }
      else none
  | .retry =>
      if work.waits ∧ work.run.retryAt.any (· ≤ work.run.now) then
        some { work with duty := some .pass }
      else none
  | .drain =>
      if work.waits ∧ work.run.closed ∧ work.run.queue = [] then
        some { work with duty := some .ending }
      else none
  | .finish =>
      match work.duty with
      | some .pass => some { run := work.run.pass fleet backoff }
      | some .ending => some { run := work.run.finish fleet }
      | none => none

end Work

end NodeDevices.Supervision
