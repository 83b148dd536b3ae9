import Mathlib.Data.List.Induction
import NodeDevices.Proofs.Plugin.Attempt

/-! The phases of a plugin that is started and stopped again and again, whatever becomes of each
step. The phase tells whether a session is held, but for one way of starting that fails.
-/

namespace NodeDevices.Plugin

variable {σ : Type} {host : Host σ} {plugin : Plugin} {running : Running} {world : σ}

/-- A call that is made to a plugin from outside. -/
inductive Call where
  | start
  | stop
  deriving DecidableEq, Repr

/-- Makes a call to a plugin. -/
def call (host : Host σ) (state : Plugin × σ) : Call → Plugin × σ
  | .start => (state.1.start host state.2).2
  | .stop => (state.1.stop host state.2).2

/-- A new plugin and its world after some calls. -/
def run (host : Host σ) (settings : Settings) (world : σ) (calls : List Call) : Plugin × σ :=
  calls.foldl (call host) ({ settings }, world)

/-- The plugin serves exactly if it holds a session, and otherwise idles or was stopped. -/
def Agrees (plugin : Plugin) : Prop :=
  (plugin.phase = .serving ↔ plugin.current.isSome)
  ∧ (plugin.current = none → plugin.phase = .idle ∨ plugin.phase = .stopped)

/-- The plugin is said to serve without a session. -/
def Stranded (plugin : Plugin) : Prop :=
  plugin.phase = .serving ∧ plugin.current = none

/-- What a plugin that idles or was stopped holds is nothing. -/
theorem Agrees.of_rest (rest : plugin.phase = .idle ∨ plugin.phase = .stopped)
    (none : plugin.current = none)
    : plugin.Agrees := by
  refine ⟨?_, fun _ => rest⟩
  rcases rest with phase | phase <;> simp [phase, none]

/-- A plugin that serves a session agrees with it. -/
theorem Agrees.of_serving (phase : plugin.phase = .serving)
    (held : plugin.current = some running)
    : plugin.Agrees := by
  simp [Agrees, phase, held]

/-- A stranded plugin does not agree with the session it does not have. -/
theorem Stranded.not_agrees (h : plugin.Stranded) : ¬ plugin.Agrees := by
  intro agrees
  have held := agrees.1.mp h.1
  simp [h.2] at held

-----------------------------------------------------------------------------------------
-- What each call leaves
-----------------------------------------------------------------------------------------

/-- However a session begins, the plugin agrees with it afterwards. -/
theorem begin_agrees (none : plugin.current = none)
    : (plugin.begin host world).2.1.Agrees := by
  obtain ⟨_, result, running, _, _, begun, -⟩ := begin_attempt host none world []
  rw [begun]
  cases result with
  | error error => exact .of_rest (Or.inl rfl) none
  | ok _ => exact .of_serving rfl rfl

/-- The plugin holds a session whose socket cannot be removed. -/
def Stuck (host : Host σ) (plugin : Plugin) (world : σ) : Prop :=
  plugin.current.isSome ∧ (host.removeSocket plugin.settings.socketPath world).1 = false

/-- A start that finds the plugin stuck takes its session and leaves its phase. -/
theorem start_of_stuck (stuck : plugin.Stuck host world)
    : (plugin.start host world).2.1.phase = plugin.phase
      ∧ (plugin.start host world).2.1.current = none := by
  obtain ⟨held, cannot⟩ := stuck
  obtain ⟨running, held⟩ := Option.isSome_iff_exists.mp held
  simp [start, held, tearDown, cannot]

/-- Otherwise the plugin agrees with its session after a start. -/
theorem start_agrees (free : ¬ plugin.Stuck host world)
    : (plugin.start host world).2.1.Agrees := by
  unfold start
  split
  · next none => exact begin_agrees none
  · next running held =>
      have removed : (host.removeSocket plugin.settings.socketPath world).1 = true := by
        by_contra cannot
        exact free ⟨by rw [held]; rfl, Bool.eq_false_iff.mpr cannot⟩
      simp only [tearDown, removed, if_true]
      exact begin_agrees rfl

/-- A stop does nothing to a plugin without a session. -/
theorem stop_of_none (none : plugin.current = none)
    : plugin.stop host world = (.ok (), plugin, world) := by
  simp [stop, none]

/-- A stop leaves a plugin that holds a session without it, and stopped. -/
theorem stop_of_held (held : plugin.current = some running)
    : (plugin.stop host world).2.1
      = { plugin with
          phase := .stopped, current := none, past := plugin.past ++ [running.halt] } := by
  simp [stop, held, tearDown]

-----------------------------------------------------------------------------------------
-- Sequences of calls
-----------------------------------------------------------------------------------------

variable {settings : Settings} {calls : List Call}

/-- The last start of the calls was one of a plugin that was stuck. -/
def EndsStuck (host : Host σ) (settings : Settings) (world : σ) (calls : List Call) : Prop :=
  ∃ before count,
    calls = before ++ .start :: List.replicate count .stop
    ∧ (run host settings world before).1.Stuck host (run host settings world before).2

theorem endsStuck_append_start
    : EndsStuck host settings world (calls ++ [.start])
      ↔ (run host settings world calls).1.Stuck host (run host settings world calls).2 := by
  constructor
  · rintro ⟨before, count, same, stuck⟩
    cases count with
    | zero =>
        rw [(List.append_inj' same rfl).1]
        exact stuck
    | succ count =>
        rw [List.replicate_succ', ← List.cons_append, ← List.append_assoc] at same
        cases (List.append_inj' same rfl).2
  · intro stuck
    exact ⟨calls, 0, rfl, stuck⟩

theorem endsStuck_append_stop
    : EndsStuck host settings world (calls ++ [.stop]) ↔ EndsStuck host settings world calls := by
  constructor
  · rintro ⟨before, count, same, stuck⟩
    cases count with
    | zero => cases (List.append_inj' same rfl).2
    | succ count =>
        rw [List.replicate_succ', ← List.cons_append, ← List.append_assoc] at same
        exact ⟨before, count, (List.append_inj' same rfl).1, stuck⟩
  · rintro ⟨before, count, rfl, stuck⟩
    refine ⟨before, count + 1, ?_, stuck⟩
    rw [List.replicate_succ', List.append_assoc, List.cons_append]

theorem run_append (host : Host σ) (settings : Settings) (world : σ) (calls : List Call)
    (last : Call)
    : run host settings world (calls ++ [last])
      = call host (run host settings world calls) last := by
  simp [run]

/-- After each call the plugin either agrees with its session, or it is stranded and the last
start found it stuck.
-/
theorem run_agrees_or_stranded (host : Host σ) (settings : Settings) (world : σ)
    (calls : List Call)
    : (run host settings world calls).1.Agrees ∧ ¬ EndsStuck host settings world calls
      ∨ (run host settings world calls).1.Stranded ∧ EndsStuck host settings world calls := by
  induction calls using List.reverseRecOn with
  | nil =>
      refine Or.inl ⟨.of_rest (Or.inl rfl) rfl, ?_⟩
      rintro ⟨before, count, same, _⟩
      simp at same
  | append_singleton calls last ih =>
      rw [run_append]
      cases last with
      | start =>
          rw [endsStuck_append_start, call]
          by_cases stuck
            : (run host settings world calls).1.Stuck host (run host settings world calls).2
          · have serving : (run host settings world calls).1.phase = .serving := by
              rcases ih with ⟨agrees, _⟩ | ⟨stranded, _⟩
              · exact agrees.1.mpr stuck.1
              · exact stranded.1
            obtain ⟨phase, taken⟩ := start_of_stuck stuck
            exact Or.inr ⟨⟨phase.trans serving, taken⟩, stuck⟩
          · exact Or.inl ⟨start_agrees stuck, stuck⟩
      | stop =>
          rw [endsStuck_append_stop, call]
          cases held : (run host settings world calls).1.current with
          | none => rwa [stop_of_none held]
          | some running =>
              rcases ih with ⟨_, free⟩ | ⟨stranded, _⟩
              · refine Or.inl ⟨?_, free⟩
                rw [stop_of_held held]
                exact .of_rest (Or.inr rfl) rfl
              · cases held.symm.trans stranded.2

/-- A plugin that agrees or is stranded is not initializing. -/
theorem phase_ne_initializing (settled : plugin.Agrees ∨ plugin.Stranded)
    : plugin.phase ≠ .initializing := by
  intro initializing
  rcases settled with ⟨held, rest⟩ | ⟨serving, _⟩
  · cases current : plugin.current with
    | none => rcases rest current with phase | phase <;> cases initializing.symm.trans phase
    | some running => cases initializing.symm.trans (held.mpr (by rw [current]; rfl))
  · cases initializing.symm.trans serving

/-- After each call, whatever became of the steps that were taken, the phase tells whether the
plugin holds a session, and it never stays initializing. The one exception is that a start finds
a session whose socket cannot be removed: until the next start the plugin is said to serve then,
and holds nothing.
-/
theorem run_agreesUnlessStuck (host : Host σ) (settings : Settings) (world : σ)
    (calls : List Call)
    : let plugin := (run host settings world calls).1
      plugin.phase ≠ .initializing
      ∧ (plugin.Agrees ∨ plugin.Stranded)
      ∧ (¬ plugin.Agrees
        ↔ ∃ before count,
            calls = before ++ .start :: List.replicate count .stop
            ∧ (run host settings world before).1.Stuck host
                (run host settings world before).2) := by
  intro plugin
  have settled : (plugin.Agrees ∧ ¬ EndsStuck host settings world calls)
      ∨ plugin.Stranded ∧ EndsStuck host settings world calls :=
    run_agrees_or_stranded host settings world calls
  have either := settled.imp And.left And.left
  refine ⟨phase_ne_initializing either, either, ?_⟩
  rcases settled with ⟨agrees, free⟩ | ⟨stranded, stuck⟩
  · exact iff_of_false (not_not_intro agrees) free
  · exact iff_of_true stranded.not_agrees stuck

/-- A host that can remove the socket only once strands a plugin that is started twice. -/
example (settings : Settings)
    : (run (σ := Nat) {
        listDevices := fun _ _ removals => ([], removals)
        removeSocket := fun _ removals => (removals = 0, removals + 1)
        bind := fun _ removals => (true, removals)
        dial := fun _ removals => (true, removals)
        register := fun _ _ removals => (.ok (), removals)
      } settings 0 [.start, .start]).1.Stranded :=
  ⟨rfl, rfl⟩

end NodeDevices.Plugin
