/-! Systems that run by a clock. At each instant a system does all that it does by itself; then
time passes up to the next instant at which it may do something. Times are in milliseconds.
-/

namespace NodeDevices

/-- How a system runs by a clock. -/
structure Clockwork (σ : Type) where
  now : σ → Nat
  /-- What the system comes to by itself in one step, if it does anything at this time. -/
  next? : σ → Option σ
  /-- A bound on the steps of this instant. -/
  bound : σ → Nat
  /-- When the system may do something by itself again. -/
  due? : σ → Option Nat
  /-- Lets a number of milliseconds pass. -/
  elapse : Nat → σ → σ

namespace Clockwork

variable {σ : Type}

/-- Lets a system do by itself what it does now, in at most so many steps. -/
def settleIn (clock : Clockwork σ) : Nat → σ → σ
  | 0, state => state
  | steps + 1, state =>
      match clock.next? state with
      | some next => clock.settleIn steps next
      | none => state

/-- Lets a system do by itself what it does now. -/
def settle (clock : Clockwork σ) (state : σ) : σ :=
  clock.settleIn (clock.bound state) state

/-- Lets time pass up to an instant, in at most so many stops. -/
def advanceTo (clock : Clockwork σ) (target : Nat) : Nat → σ → σ
  | 0, state => state
  | stops + 1, state =>
      let state := clock.settle state
      let rest := target - clock.now state
      match clock.due? state with
      | some due =>
          if due ≤ target then
            clock.advanceTo target stops (clock.elapse (due - clock.now state) state)
          else clock.elapse rest state
      | none => clock.elapse rest state

/-- Lets a number of milliseconds pass. -/
def advance (clock : Clockwork σ) (time : Nat) (state : σ) : σ :=
  clock.settle (clock.advanceTo (clock.now state + time) (time + 1) state)

end Clockwork

end NodeDevices
