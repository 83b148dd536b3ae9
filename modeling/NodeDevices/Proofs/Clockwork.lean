import NodeDevices.Clockwork

/-! What a clock makes of a system. When each step leaves fewer to be taken at its instant, and time
can pass a system at rest up to when it is due, then exactly as much time passes as is to pass; and
what the steps keep, and the time that passes, is kept throughout.
-/

namespace NodeDevices.Clockwork

variable {σ : Type}

/-- A clock drives a system through good states, each of which has a number of turns left in its
instant.
-/
structure Drives (clock : Clockwork σ) (good : σ → Prop) (turns : σ → Nat) : Prop where
  next
    : ∀ state after,
        good state
        → clock.next? state = some after
        → good after ∧ clock.now after = clock.now state ∧ turns after < turns state
  /-- The clock allows for all turns. -/
  few : ∀ state, good state → turns state ≤ clock.bound state
  /-- A system at rest is not due yet. -/
  ahead
    : ∀ state due,
        good state
        → clock.next? state = none
        → clock.due? state = some due
        → clock.now state < due
  elapse
    : ∀ state time,
        good state
        → clock.next? state = none
        → (∀ due, clock.due? state = some due → clock.now state + time ≤ due)
        → good (clock.elapse time state)
          ∧ clock.now (clock.elapse time state) = clock.now state + time

namespace Drives

variable {clock : Clockwork σ} {good : σ → Prop} {turns : σ → Nat} {state : σ}

/-- With as many steps as there are turns left, a system comes to rest in no time. -/
theorem settleIn (h : clock.Drives good turns) (fine : good state) {steps : Nat}
    (enough : turns state ≤ steps)
    : good (clock.settleIn steps state)
      ∧ clock.now (clock.settleIn steps state) = clock.now state
      ∧ clock.next? (clock.settleIn steps state) = none := by
  induction steps generalizing state with
  | zero =>
      refine ⟨fine, rfl, ?_⟩
      cases led : clock.next? state with
      | none => exact led
      | some after =>
          have fewer := (h.next state after fine led).2.2
          omega
  | succ steps ih =>
      rw [Clockwork.settleIn]
      split
      · next after led =>
          obtain ⟨kept, same, fewer⟩ := h.next state after fine led
          rw [← same]
          exact ih kept (by omega)
      · next rests => exact ⟨fine, rfl, rests⟩

theorem settle (h : clock.Drives good turns) (fine : good state)
    : good (clock.settle state)
      ∧ clock.now (clock.settle state) = clock.now state
      ∧ clock.next? (clock.settle state) = none :=
  h.settleIn fine (h.few state fine)

/-- Time passes up to its target, as long as there is a stop for each instant on the way. -/
theorem advanceTo (h : clock.Drives good turns) (fine : good state) {target stops : Nat}
    (later : clock.now state ≤ target) (enough : target - clock.now state < stops)
    : good (clock.advanceTo target stops state)
      ∧ clock.now (clock.advanceTo target stops state) = target := by
  induction stops generalizing state with
  | zero => omega
  | succ stops ih =>
      obtain ⟨settled, same, rests⟩ := h.settle fine
      rw [← same] at later enough
      rw [Clockwork.advanceTo]
      split
      · next due waits =>
          have early := h.ahead _ due settled rests waits
          split
          · next soon =>
              obtain ⟨kept, reached⟩ := h.elapse _ (due - clock.now (clock.settle state)) settled
                rests fun other given => by cases waits.symm.trans given; omega
              exact ih kept (by omega) (by omega)
          · next late =>
              obtain ⟨kept, reached⟩ := h.elapse _ (target - clock.now (clock.settle state))
                settled rests fun other given => by cases waits.symm.trans given; omega
              exact ⟨kept, by omega⟩
      · next free =>
          obtain ⟨kept, reached⟩ := h.elapse _ (target - clock.now (clock.settle state)) settled
            rests fun due given => nomatch free.symm.trans given
          exact ⟨kept, by omega⟩

/-- A system that time passes for comes to rest when that time has passed. -/
theorem advance (h : clock.Drives good turns) (fine : good state) (time : Nat)
    : good (clock.advance time state)
      ∧ clock.now (clock.advance time state) = clock.now state + time
      ∧ clock.next? (clock.advance time state) = none := by
  have enough : clock.now state + time - clock.now state < time + 1 := by omega
  obtain ⟨kept, reached⟩ := h.advanceTo fine (Nat.le_add_right (clock.now state) time) enough
  obtain ⟨settled, same, rests⟩ := h.settle kept
  exact ⟨settled, same.trans reached, rests⟩

end Drives

end NodeDevices.Clockwork
