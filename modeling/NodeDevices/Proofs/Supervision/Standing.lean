import NodeDevices.Proofs.Supervision.Course

/-! Where the plugins of a supervisor stand, when stops put them to rest and successful starts
have them serve: only plugins at rest are started, and those that serve are the first ones.
-/

namespace NodeDevices.Supervision

variable {σ : Type}

/-- How to read off a state of plugins where each of them stands. -/
structure Standing (σ : Type) where
  /-- Says whether a state is one of all the plugins. -/
  whole : σ → Prop
  serves : σ → Nat → Prop
  rests : σ → Nat → Prop

namespace Standing

/-- Another state of the plugins in which all but one stand where they stood. -/
structure Keeps (standing : Standing σ) (position : Nat) (state next : σ) : Prop where
  whole : standing.whole next
  serves {other} (apart : other ≠ position) (h : standing.serves state other)
    : standing.serves next other
  rests {other} (apart : other ≠ position) (h : standing.rests state other)
    : standing.rests next other

/-- A stop puts a plugin to rest. A start of one at rest has it serve, unless it fails. -/
structure Follows (standing : Standing σ) (fleet : Fleet σ) : Prop where
  stop {state position} (h : standing.whole state) (within : position < fleet.size)
    : standing.Keeps position state (fleet.stop position state).2
      ∧ standing.rests (fleet.stop position state).2 position
  start {state position} (h : standing.whole state) (rest : standing.rests state position)
    : standing.Keeps position state (fleet.start position state).2
      ∧ if (fleet.start position state).1 then
          standing.serves (fleet.start position state).2 position
        else standing.rests (fleet.start position state).2 position

/-- A supervisor of all its plugins that has started only plugins at rest. -/
structure Minded (standing : Standing σ) (supervisor : Supervisor σ) : Prop where
  whole : standing.whole supervisor.plugins
  found
    : ∀ entry ∈ supervisor.journal,
        standing.whole entry.found
        ∧ ∀ position, entry.call = .start position → standing.rests entry.found position

/-- Where the plugins stand after starts up to the first that failed, if any did. -/
inductive Reached (standing : Standing σ) (size : Nat) (supervisor : Supervisor σ)
    : Option Nat → Prop
  | all (serving : ∀ position < size, standing.serves supervisor.plugins position)
    : Reached standing size supervisor none
  | upTo {failed} (within : failed < size)
    (last : supervisor.made.getLast? = some (.start failed, false))
    (serving : ∀ position < failed, standing.serves supervisor.plugins position)
    (resting
      : ∀ position,
          failed ≤ position → position < size → standing.rests supervisor.plugins position)
    : Reached standing size supervisor (some failed)

variable {standing : Standing σ} {fleet : Fleet σ} {supervisor : Supervisor σ}

theorem Minded.note {call : Call} {outcome : Bool × σ} (h : standing.Minded supervisor)
    (whole : standing.whole outcome.2)
    (resting
      : ∀ position, call = .start position → standing.rests supervisor.plugins position)
    : standing.Minded (supervisor.note call outcome) := by
  refine ⟨whole, ?_⟩
  intro entry member
  rcases List.mem_append.mp member with earlier | new
  · exact h.found entry earlier
  · cases List.mem_singleton.mp new
    exact ⟨h.whole, resting⟩

-----------------------------------------------------------------------------------------
-- Passes
-----------------------------------------------------------------------------------------

/-- Stopping plugins in order puts them all to rest. -/
theorem Minded.stopEach (follows : standing.Follows fleet) {position count : Nat}
    (h : standing.Minded supervisor) (within : position + count ≤ fleet.size)
    (resting : ∀ other < position, standing.rests supervisor.plugins other)
    : standing.Minded (supervisor.stopEach fleet (List.range' position count))
      ∧ ∀ other < position + count,
          standing.rests (supervisor.stopEach fleet (List.range' position count)).plugins
            other := by
  induction count generalizing position supervisor with
  | zero => exact ⟨h, resting⟩
  | succ count ih =>
      obtain ⟨kept, rested⟩ := follows.stop h.whole (show position < fleet.size by omega)
      rw [List.range'_succ, Supervisor.stopEach, ← Nat.add_assoc, Nat.add_right_comm]
      refine ih (h.note kept.whole (by simp)) (by omega) ?_
      intro other below
      by_cases same : other = position
      · rw [same]
        exact rested
      · exact kept.rests same (resting other (by omega))

/-- Starting plugins at rest in order has them serve, up to the first that fails. -/
theorem Minded.startEach (follows : standing.Follows fleet) {position count started : Nat}
    (h : standing.Minded supervisor) (all : position + count = fleet.size)
    (serving : ∀ other < position, standing.serves supervisor.plugins other)
    (resting
      : ∀ other,
          position ≤ other → other < fleet.size → standing.rests supervisor.plugins other)
    : let (outcome, after) := supervisor.startEach fleet started (List.range' position count)
      standing.Minded after ∧ standing.Reached fleet.size after outcome.failed := by
  induction count generalizing position started supervisor with
  | zero =>
      refine ⟨⟨h.whole, h.found⟩, .all ?_⟩
      rw [← all]
      exact serving
  | succ count ih =>
      have rest := resting position (Nat.le_refl _) (by omega)
      obtain ⟨kept, stands⟩ := follows.start h.whole rest
      have noted : standing.Minded
          (supervisor.note (.start position) (fleet.start position supervisor.plugins)) := by
        refine h.note kept.whole ?_
        intro other same
        cases same
        exact rest
      rw [List.range'_succ, Supervisor.startEach]
      -- Where a start succeeds the serving plugins are one more, and otherwise it was the last.
      cases succeeded : (fleet.start position supervisor.plugins).1 with
      | true =>
          rw [succeeded, if_pos rfl] at stands
          rw [if_pos rfl]
          refine ih noted (by omega) ?_ ?_
          · intro other below
            by_cases same : other = position
            · rw [same]
              exact stands
            · exact kept.serves same (serving other (by omega))
          · intro other beyond below
            exact kept.rests (by omega) (resting other (by omega) below)
      | false =>
          rw [succeeded] at stands
          refine ⟨⟨noted.whole, noted.found⟩, .upTo (by omega) ?_ ?_ ?_⟩
          · simp [Supervisor.made, Supervisor.note, succeeded]
          · intro other below
            exact kept.serves (by omega) (serving other below)
          · intro other beyond below
            by_cases same : other = position
            · rw [same]
              exact stands
            · exact kept.rests same (resting other beyond below)

/-- Stopping all plugins puts them to rest. -/
theorem Minded.stopAll (follows : standing.Follows fleet) (h : standing.Minded supervisor)
    : standing.Minded (supervisor.stopAll fleet)
      ∧ ∀ position < fleet.size,
          standing.rests (supervisor.stopAll fleet).plugins position := by
  have stopped := h.stopEach follows (show 0 + fleet.size ≤ fleet.size by omega) (by simp)
  rw [← List.range_eq_range', Nat.zero_add] at stopped
  exact stopped

/-- A pass has the plugins serve up to the first that fails. -/
theorem Minded.restartAll (follows : standing.Follows fleet) (h : standing.Minded supervisor)
    : standing.Minded (supervisor.restartAll fleet).2
      ∧ standing.Reached fleet.size (supervisor.restartAll fleet).2
          (supervisor.restartAll fleet).1.failed := by
  have starting : standing.Minded { supervisor with phase := .starting } := ⟨h.whole, h.found⟩
  obtain ⟨stopped, resting⟩ := starting.stopAll follows
  rw [Supervisor.restartAll, List.range_eq_range']
  exact stopped.startEach follows (Nat.zero_add _) (by simp) fun position _ => resting position

-----------------------------------------------------------------------------------------
-- Runs
-----------------------------------------------------------------------------------------

/-- Where the plugins stand while a supervisor waits, and when it has ended. -/
structure Placed (standing : Standing σ) (size : Nat) (work : Work σ) : Prop where
  minded : standing.Minded work.run.supervisor
  lasts : work.duty.isSome → work.run.done = false
  waiting
    : work.duty = none
      → work.run.done = false
      → ∃ failed,
          standing.Reached size work.run.supervisor failed
          ∧ work.run.supervisor.phase = if failed.isSome then .failed else .serving
  ended
    : work.run.done = true
      → ∀ position < size, standing.rests work.run.supervisor.plugins position

variable {backoff : Nat} {work next : Work σ}

/-- What a supervisor begins moves no plugin. -/
theorem Placed.begin (h : standing.Placed fleet.size work) (lasts : work.run.done = false)
    {queue : List Event} {duty : Duty}
    : standing.Placed fleet.size { run := { work.run with queue }, duty := some duty } where
  minded := h.minded
  lasts := fun _ => lasts
  waiting := nofun
  ended := fun ended => nomatch lasts.symm.trans ended

/-- A step of a supervisor leaves its plugins where they are to stand. -/
theorem Placed.step (follows : standing.Follows fleet) {action : Work.Action}
    (h : standing.Placed fleet.size work) (step : work.Step fleet backoff action next)
    : standing.Placed fleet.size next := by
  cases step with
  | send event =>
      obtain ⟨more, _, sent⟩ := Work.run_send work.run event
      rw [sent]
      exact ⟨h.minded, h.lasts, h.waiting, h.ended⟩
  | close | elapse => exact ⟨h.minded, h.lasts, h.waiting, h.ended⟩
  | take _ lasts | retry _ lasts | drain _ lasts => exact h.begin lasts
  | pass begun =>
      have lasts : work.run.done = false := h.lasts (by rw [begun]; rfl)
      obtain ⟨minded, reached⟩ := h.minded.restartAll follows
      obtain ⟨pass, _, outcome, phase, _⟩ :=
        work.run.supervisor.restartAll_pass fleet
      rw [outcome] at reached
      exact {
        minded
        lasts := nofun
        waiting := fun _ _ => ⟨_, reached, phase⟩
        ended := fun ended => nomatch lasts.symm.trans ended
      }
  | ending begun =>
      obtain ⟨minded, resting⟩ := h.minded.stopAll follows
      exact {
        minded := ⟨minded.whole, minded.found⟩
        lasts := nofun
        waiting := nofun
        ended := fun _ => resting
      }

/-- In every run the plugins stand where they are to stand. -/
theorem run_placed (follows : standing.Follows fleet) (backoff : Nat) (plugins : σ)
    (whole : standing.whole plugins) (actions : List Work.Action)
    : standing.Placed fleet.size (Work.Chronicle.run fleet backoff plugins actions).work := by
  refine Work.Chronicle.run_induction
    (motive := fun reached => standing.Placed fleet.size reached.work) ?_ ?_ actions
  · exact ⟨⟨whole, nofun⟩, fun _ => rfl, nofun, nofun⟩
  · intro chronicle action next placed step
    exact placed.step follows step

end Standing

end NodeDevices.Supervision
