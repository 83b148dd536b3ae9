import Mathlib.Data.List.Basic
import NodeDevices.Supervision.Supervisor

/-! Passes and the calls that they are made of: all plugins are stopped, whatever comes of it, and
then started up to the first that fails.
-/

namespace NodeDevices.Supervision

variable {σ : Type} {size : Nat}

/-- The calls that a supervisor has made, each with whether it succeeded. -/
def Supervisor.made (supervisor : Supervisor σ) : List (Call × Bool) :=
  supervisor.journal.map fun entry => (entry.call, entry.succeeded)

/-- Stops of all plugins from a position on, in order. -/
def stopsFrom (position : Nat) (outcomes : List Bool) : List (Call × Bool) :=
  (outcomes.zipIdx position).map fun outcome => (.stop outcome.2, outcome.1)

/-- The starts from a position on that come to an outcome. -/
def startsFrom (position : Nat) (outcome : PassOutcome) : List (Call × Bool) :=
  (List.range' position (outcome.started - position)).map (.start ·, true)
    ++ outcome.failed.toList.map (.start ·, false)

/-- A pass: how the stops turned out, and what the starts came to. -/
structure Pass where
  stops : List Bool
  outcome : PassOutcome
  deriving DecidableEq, Repr

/-- Says whether a call is a start. -/
def Call.isStart : Call → Bool
  | .start _ => true
  | .stop _ => false

namespace Pass

/-- The calls of a pass. -/
def calls (pass : Pass) : List (Call × Bool) :=
  stopsFrom 0 pass.stops ++ startsFrom 0 pass.outcome

/-- What a supervisor knows of its plugins after a pass. -/
def phase (pass : Pass) : Phase :=
  if pass.outcome.failed.isSome then .failed else .serving

/-- A pass over a number of plugins: all are stopped, and all are started or one is the first
that fails.
-/
structure IsOver (size : Nat) (pass : Pass) : Prop where
  stops : pass.stops.length = size
  starts
    : pass.outcome = ⟨size, none⟩
      ∨ ∃ plugin < size, pass.outcome = ⟨plugin, some plugin⟩

end Pass

namespace Supervisor

/-- Noting a call adds it to those that were made. -/
theorem made_note (supervisor : Supervisor σ) (call : Call) (outcome : Bool × σ)
    : (supervisor.note call outcome).made = supervisor.made ++ [(call, outcome.1)] := by
  simp [made, note]

/-- Stopping plugins in order makes a call for each, and nothing else of a supervisor changes. -/
theorem stopEach_range' (fleet : Fleet σ) (position count : Nat) (supervisor : Supervisor σ)
    : ∃ outcomes,
        outcomes.length = count
        ∧ (stopEach fleet (List.range' position count) supervisor).made
          = supervisor.made ++ stopsFrom position outcomes
        ∧ (stopEach fleet (List.range' position count) supervisor).phase
          = supervisor.phase := by
  induction count generalizing position supervisor with
  | zero => exact ⟨[], rfl, by simp [stopsFrom, stopEach], rfl⟩
  | succ count ih =>
      let outcome := fleet.stop position supervisor.plugins
      obtain ⟨outcomes, all, made, phase⟩ :=
        ih (position + 1) (supervisor.note (.stop position) outcome)
      refine ⟨outcome.1 :: outcomes, by simp [all], ?_, phase⟩
      rw [List.range'_succ, stopEach, made, made_note, List.append_assoc]
      simp [stopsFrom]

/-- Starting plugins in order makes calls up to the first that fails. -/
theorem startEach_range' (fleet : Fleet σ) (position count : Nat) (supervisor : Supervisor σ)
    : let started := startEach fleet position (List.range' position count) supervisor
      (started.1 = ⟨position + count, none⟩
          ∨ ∃ plugin, position ≤ plugin ∧ plugin < position + count
              ∧ started.1 = ⟨plugin, some plugin⟩)
        ∧ started.2.made = supervisor.made ++ startsFrom position started.1
        ∧ started.2.phase
          = if started.1.failed.isSome then .failed else .serving := by
  induction count generalizing position supervisor with
  | zero => simp [startEach, startsFrom, made]
  | succ count ih =>
      intro started
      let outcome := fleet.start position supervisor.plugins
      let called := supervisor.note (.start position) outcome
      have split : started
          = if outcome.1 then
              startEach fleet (position + 1) (List.range' (position + 1) count) called
            else (⟨position, some position⟩, { called with phase := .failed }) := by
        simp only [started, List.range'_succ]
        rfl
      have made : called.made = supervisor.made ++ [(.start position, outcome.1)] :=
        made_note ..
      cases succeeded : outcome.1 with
      | false =>
          rw [succeeded] at split made
          rw [split]
          refine ⟨Or.inr ⟨position, Nat.le_refl _, by omega, rfl⟩, ?_, rfl⟩
          simp only [Bool.false_eq_true, if_false, startsFrom, Nat.sub_self]
          exact made
      | true =>
          obtain ⟨reached, later, phase⟩ := ih (position + 1) called
          rw [succeeded] at made
          rw [succeeded, if_pos rfl] at split
          rw [← split] at reached later phase
          have beyond : position + 1 ≤ started.1.started := by
            rcases reached with all | ⟨plugin, low, _, first⟩
            · rw [all]
              exact Nat.le_add_right ..
            · rw [first]
              exact low
          refine ⟨?_, ?_, phase⟩
          · rcases reached with all | ⟨plugin, low, high, first⟩
            · exact Or.inl (by rw [all]; congr 1; omega)
            · exact Or.inr ⟨plugin, by omega, by omega, first⟩
          · obtain ⟨more, same⟩ := Nat.exists_eq_add_of_le beyond
            rw [later, made, List.append_assoc]
            simp only [startsFrom, same, Nat.add_sub_cancel_left]
            rw [show position + 1 + more - position = more + 1 by omega, List.range'_succ]
            rfl

/-- Stopping all plugins makes a call for each. -/
theorem stopAll_calls (fleet : Fleet σ) (supervisor : Supervisor σ)
    : ∃ outcomes,
        outcomes.length = fleet.size
        ∧ (supervisor.stopAll fleet).made = supervisor.made ++ stopsFrom 0 outcomes := by
  obtain ⟨outcomes, all, made, _⟩ := stopEach_range' fleet 0 fleet.size supervisor
  rw [← List.range_eq_range'] at made
  exact ⟨outcomes, all, made⟩

/-- A supervisor makes its passes over all plugins, and reports what they come to. -/
theorem restartAll_pass (fleet : Fleet σ) (supervisor : Supervisor σ)
    : ∃ pass : Pass,
        pass.IsOver fleet.size
        ∧ (supervisor.restartAll fleet).1 = pass.outcome
        ∧ (supervisor.restartAll fleet).2.phase = pass.phase
        ∧ (supervisor.restartAll fleet).2.made = supervisor.made ++ pass.calls := by
  obtain ⟨outcomes, all, stopped⟩ := stopAll_calls fleet { supervisor with phase := .starting }
  obtain ⟨reached, started, phase⟩ :=
    startEach_range' fleet 0 fleet.size
      (stopAll fleet { supervisor with phase := .starting })
  rw [← List.range_eq_range'] at reached started phase
  refine ⟨⟨outcomes, (supervisor.restartAll fleet).1⟩, ⟨all, ?_⟩, rfl, phase, ?_⟩
  · simpa [restartAll] using reached
  · rw [restartAll, started, stopped, List.append_assoc]
    rfl

end Supervisor

-----------------------------------------------------------------------------------------
-- Stops between starts
-----------------------------------------------------------------------------------------

/-- Says that a plugin was stopped since it was last started, if it ever was. -/
def IsStopped (plugin : Nat) (calls : List Call) : Prop :=
  ∀ before after, calls = before ++ .start plugin :: after → .stop plugin ∈ after

/-- Says that no plugin was started twice without a stop in between. -/
def IsSpaced (calls : List Call) : Prop :=
  ∀ before between after plugin,
    calls = before ++ .start plugin :: between ++ .start plugin :: after
    → .stop plugin ∈ between

/-- What comes before the end of a list stays there when the list goes on. -/
theorem split_concat {α : Type} {items before after : List α} {last item : α}
    (split : items ++ [last] = before ++ item :: after)
    : (after = [] ∧ items = before ∧ last = item)
      ∨ ∃ rest, after = rest ++ [last] ∧ items = before ++ item :: rest := by
  rcases List.eq_nil_or_concat' after with rfl | ⟨rest, final, rfl⟩
  · obtain ⟨same, ends⟩ := List.append_singleton_inj.mp split
    exact Or.inl ⟨rfl, same, ends⟩
  · rw [← List.cons_append, ← List.append_assoc] at split
    obtain ⟨same, rfl⟩ := List.append_singleton_inj.mp split
    exact Or.inr ⟨rest, rfl, same⟩

namespace IsStopped

variable {calls : List Call} {plugin : Nat}

theorem concat_stop (calls : List Call) (plugin : Nat)
    : IsStopped plugin (calls ++ [.stop plugin]) := by
  intro before after split
  rcases split_concat split with ⟨_, _, other⟩ | ⟨rest, rfl, _⟩
  · cases other
  · simp

theorem concat {last : Call} (h : IsStopped plugin calls) (other : last ≠ .start plugin)
    : IsStopped plugin (calls ++ [last]) := by
  intro before after split
  rcases split_concat split with ⟨_, _, same⟩ | ⟨rest, rfl, earlier⟩
  · exact absurd same other
  · exact List.mem_append_left _ (h before rest earlier)

end IsStopped

namespace IsSpaced

variable {calls : List Call}

theorem nil : IsSpaced [] := by
  intro before between after plugin split
  simp at split

theorem concat {last : Call} (h : IsSpaced calls)
    (stopped : ∀ plugin, last = .start plugin → IsStopped plugin calls)
    : IsSpaced (calls ++ [last]) := by
  intro before between after plugin split
  rcases split_concat split with ⟨_, same, start⟩ | ⟨rest, _, earlier⟩
  · exact stopped plugin start before between same
  · exact h before between rest plugin earlier

/-- Stops change nothing, but that all the plugins are stopped. -/
theorem stops (h : IsSpaced calls) (count : Nat)
    : IsSpaced (calls ++ (List.range count).map .stop)
      ∧ ∀ plugin < count, IsStopped plugin (calls ++ (List.range count).map .stop) := by
  induction count with
  | zero => simpa using h
  | succ count ih =>
      obtain ⟨spaced, stopped⟩ := ih
      rw [List.range_succ, List.map_append, List.map_singleton, ← List.append_assoc]
      refine ⟨spaced.concat (by simp), ?_⟩
      intro plugin below
      rcases Nat.lt_succ_iff_lt_or_eq.mp below with earlier | rfl
      · exact (stopped plugin earlier).concat (by simp)
      · exact .concat_stop _ _

/-- Plugins that are stopped can be started, each of them once. -/
theorem starts {size count : Nat} (h : IsSpaced calls)
    (stopped : ∀ plugin < size, IsStopped plugin calls) (within : count ≤ size)
    : IsSpaced (calls ++ (List.range count).map .start) := by
  -- The plugins that are still to be started stay stopped, which carries the induction.
  have each : IsSpaced (calls ++ (List.range count).map .start)
      ∧ ∀ plugin, count ≤ plugin → plugin < size
        → IsStopped plugin (calls ++ (List.range count).map .start) := by
    induction count with
    | zero => simpa using ⟨h, stopped⟩
    | succ count ih =>
        obtain ⟨spaced, rest⟩ := ih (by omega)
        rw [List.range_succ, List.map_append, List.map_singleton, ← List.append_assoc]
        refine ⟨spaced.concat ?_, ?_⟩
        · intro plugin same
          cases same
          exact rest count (Nat.le_refl _) within
        · intro plugin beyond below
          refine (rest plugin (by omega) below).concat ?_
          intro same
          cases same
          omega
  exact each.1

end IsSpaced

/-- The calls of stops are those of all plugins in order. -/
theorem calls_stopsFrom (stops : List Bool)
    : (stopsFrom 0 stops).map Prod.fst = (List.range stops.length).map .stop := by
  rw [stopsFrom, List.map_map, List.range_eq_range', ← List.zipIdx_map_snd 0 stops,
    List.map_map]
  rfl

namespace Pass

/-- A pass stops all plugins and then starts some of them, from the first on. -/
theorem IsOver.calls_eq {pass : Pass} (whole : pass.IsOver size)
    : ∃ count ≤ size,
        pass.calls.map Prod.fst
          = (List.range size).map .stop ++ (List.range count).map .start := by
  rw [calls, List.map_append, calls_stopsFrom, whole.stops]
  rcases whole.starts with all | ⟨plugin, below, first⟩
  · refine ⟨size, Nat.le_refl _, ?_⟩
    simp [startsFrom, all, List.range_eq_range']
  · refine ⟨plugin + 1, below, ?_⟩
    simp [startsFrom, first, List.range_eq_range', List.range'_1_concat]

/-- A pass has a failed start exactly when it leaves the supervisor in failure. -/
theorem phase_eq_failed (pass : Pass)
    : pass.phase = .failed ↔ ∃ plugin, (.start plugin, false) ∈ pass.calls := by
  simp only [phase, calls, stopsFrom, startsFrom]
  cases pass.outcome.failed <;> simp

/-- A pass reports how many of its starts succeeded. -/
theorem started_eq (pass : Pass)
    : pass.outcome.started = pass.calls.countP fun made => made.1.isStart && made.2 := by
  have stops : (stopsFrom 0 pass.stops).countP (fun made => made.1.isStart && made.2) = 0 := by
    simp [stopsFrom, List.countP_map, Function.comp_def, Call.isStart]
  have starts : ((List.range' 0 pass.outcome.started).map (Call.start ·, true)).countP
      (fun made => made.1.isStart && made.2) = pass.outcome.started := by
    simp [List.countP_map, Function.comp_def, Call.isStart]
  rw [calls, List.countP_append, stops, startsFrom, List.countP_append, Nat.sub_zero, starts]
  cases pass.outcome.failed <;> simp

end Pass

/-- A pass keeps stops between starts. -/
theorem IsSpaced.pass {calls : List Call} {pass : Pass} (h : IsSpaced calls)
    (whole : pass.IsOver size)
    : IsSpaced (calls ++ pass.calls.map Prod.fst) := by
  obtain ⟨count, within, all⟩ := whole.calls_eq
  obtain ⟨spaced, stopped⟩ := h.stops size
  rw [all, ← List.append_assoc]
  exact spaced.starts stopped within

end NodeDevices.Supervision
