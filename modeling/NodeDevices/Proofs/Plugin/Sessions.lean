import NodeDevices.Proofs.Plugin.Calls

/-! The sessions that a plugin had, whatever became of the steps that it took for them. None is
live but the one that is held, and a call that ends without a session leaves nothing behind that
could be removed.
-/

namespace NodeDevices.Plugin

variable {σ : Type} {plugin : Plugin} {settings : Settings} {deeds : List Deed}

/-- All sessions that a plugin had. -/
def sessions (plugin : Plugin) : List Running :=
  plugin.past ++ plugin.current.toList

/-- Says whether a socket is still bound to a path after a step. -/
def Deed.binds (path : String) (bound : Bool) : Deed → Bool
  | .bind other true => bound || other = path
  | .remove other true => bound && other ≠ path
  | _ => bound

/-- Says whether the steps leave a socket that they bound to a path. -/
def isBound (path : String) (deeds : List Deed) : Bool :=
  deeds.foldl (Deed.binds path) false

theorem isBound_append (path : String) (deeds new : List Deed)
    : isBound path (deeds ++ new) = new.foldl (Deed.binds path) (isBound path deeds) := by
  simp [isBound]

/-- A socket is left only if the last step failed to remove it. -/
def IsCleared (path : String) (deeds : List Deed) : Prop :=
  isBound path deeds = true → deeds.getLast? = some (.remove path false)

/-- Steps that end with a removal leave a socket only if that failed. -/
theorem isCleared_of_getLast? {path : String} (done : Bool)
    (last : deeds.getLast? = some (.remove path done))
    : IsCleared path deeds := by
  intro bound
  obtain ⟨before, rfl⟩ := List.getLast?_eq_some_iff.mp last
  cases done with
  | false => exact last
  | true => simp [isBound_append, Deed.binds] at bound

-----------------------------------------------------------------------------------------
-- What attempts come to
-----------------------------------------------------------------------------------------

namespace Attempt

variable {roster : Roster} {new : List Deed} {result : Except PluginError Unit}
  {running : Running}

/-- Nothing works for a session that did not come up. -/
theorem isLive_of_error {error : PluginError}
    (attempt : Attempt settings roster new (.error error) running)
    : running.isLive = false := by
  cases attempt <;> rfl

/-- A session that came up has its server and was not told to stop. -/
theorem works_of_ok (attempt : Attempt settings roster new (.ok ()) running)
    : running.session.stopped = false ∧ running.serving = true := by
  cases attempt
  exact ⟨rfl, rfl⟩

/-- A monitor begins only after the registration. -/
theorem registered_of_monitor (attempt : Attempt settings roster new result running)
    (monitored : running.monitor.isSome)
    : running.registered = true := by
  cases attempt
  case accepted => rfl
  all_goals cases monitored

/-- Every attempt is at one session. -/
theorem count_list (attempt : Attempt settings roster new result running)
    : new.count .list = 1 := by
  cases attempt <;> rfl

/-- The session is registered exactly if a registration was accepted. -/
theorem count_register (attempt : Attempt settings roster new result running)
    : new.count (.register true) = if running.registered then 1 else 0 := by
  cases attempt <;> rfl

/-- An attempt that fails leaves a socket only if it could not be removed. -/
theorem isCleared_of_error {error : PluginError}
    (attempt : Attempt settings roster new (.error error) running) (deeds : List Deed)
    : IsCleared settings.socketPath (deeds ++ new) := by
  cases attempt with
  | blocked => exact isCleared_of_getLast? false (by simp)
  | unbound =>
      intro bound
      simp [isBound_append, Deed.binds] at bound
  | silent cleared => exact isCleared_of_getLast? cleared (by simp)
  | refused _ cleared => exact isCleared_of_getLast? cleared (by simp)

end Attempt

-----------------------------------------------------------------------------------------
-- Sequences of calls
-----------------------------------------------------------------------------------------

/-- What holds of a plugin and the steps that were taken for it. -/
structure Orderly (settings : Settings) (plugin : Plugin) (deeds : List Deed) : Prop where
  settled : plugin.settings = settings
  ended : ∀ running ∈ plugin.past, running.isLive = false
  works
    : ∀ running,
        plugin.current = some running
        → running.session.stopped = false ∧ running.serving = true
  registered : ∀ running ∈ plugin.sessions, running.monitor.isSome → running.registered = true
  opened : plugin.sessions.length = deeds.count .list
  accepted : plugin.sessions.countP (·.registered) = deeds.count (.register true)
  cleared : plugin.current = none → IsCleared settings.socketPath deeds

/-- A new plugin has done nothing. -/
theorem Orderly.new (settings : Settings) : Orderly settings { settings } [] where
  settled := rfl
  ended := by simp
  works := by simp
  registered := by simp [sessions]
  opened := rfl
  accepted := rfl
  cleared := by simp [IsCleared, isBound]

/-- Halting a session leaves nothing of it at work. -/
theorem Running.isLive_halt (running : Running) : running.halt.isLive = false := by
  simp [Running.isLive, Running.isMonitored, Running.halt, Running.cancel]

/-- A session that is dropped does not change what it had. -/
theorem Orderly.dropped (h : Orderly settings plugin deeds) {held : Running}
    (holds : plugin.current = some held) (done : Bool)
    : Orderly settings (plugin.dropped held)
        (deeds ++ [.remove plugin.settings.socketPath done]) where
  settled := h.settled
  ended := by
    intro running member
    rcases List.mem_append.mp member with earlier | last
    · exact h.ended running earlier
    · cases List.mem_singleton.mp last
      exact held.isLive_halt
  works := by
    intro running current
    cases current
  registered := by
    intro running member monitored
    have known := h.registered
    simp only [sessions, holds, Plugin.dropped, List.mem_append,
      Option.toList_some, Option.toList_none, List.append_nil, List.mem_singleton]
      at member known
    rcases member with earlier | rfl
    · exact known running (Or.inl earlier) monitored
    · exact known held (Or.inr rfl) monitored
  opened := by
    have opened := h.opened
    simpa [sessions, holds, Plugin.dropped] using opened
  accepted := by
    have accepted := h.accepted
    simpa [sessions, holds, Plugin.dropped, Running.halt, Running.cancel] using accepted
  cleared _ := by
    rw [h.settled]
    exact isCleared_of_getLast? done (by simp)

/-- An attempt of a plugin without a session adds one to those it had. -/
theorem Orderly.attempted (h : Orderly settings plugin deeds) (free : plugin.current = none)
    {roster : Roster} {new : List Deed} {result : Except PluginError Unit} {running : Running}
    (attempt : Attempt plugin.settings roster new result running)
    : Orderly settings (plugin.attempted running result) (deeds ++ new) := by
  have all : (plugin.attempted running result).sessions = plugin.sessions ++ [running] := by
    cases result <;> simp [Plugin.attempted, sessions, free]
  have registered
      : ∀ other ∈ plugin.sessions ++ [running],
          other.monitor.isSome → other.registered = true := by
    intro other member monitored
    rcases List.mem_append.mp member with earlier | last
    · exact h.registered other earlier monitored
    · cases List.mem_singleton.mp last
      exact attempt.registered_of_monitor monitored
  have opened : (plugin.sessions ++ [running]).length = (deeds ++ new).count .list := by
    rw [List.length_append, h.opened, List.count_append, attempt.count_list]
    rfl
  have accepted : (plugin.sessions ++ [running]).countP (·.registered)
      = (deeds ++ new).count (.register true) := by
    rw [List.countP_append, h.accepted, List.count_append, attempt.count_register,
      List.countP_singleton]
  rw [← all] at registered opened accepted
  cases result with
  | error error =>
      refine {
        settled := h.settled
        ended := ?_
        works := ?_
        registered, opened, accepted
        cleared := ?_
      }
      · intro other member
        rcases List.mem_append.mp member with earlier | last
        · exact h.ended other earlier
        · cases List.mem_singleton.mp last
          exact attempt.isLive_of_error
      · intro other current
        cases free.symm.trans current
      · intro _
        rw [← h.settled]
        exact attempt.isCleared_of_error deeds
  | ok _ =>
      refine {
        settled := h.settled
        ended := h.ended
        works := ?_
        registered, opened, accepted
        cleared := ?_
      }
      · intro other current
        cases current
        exact attempt.works_of_ok
      · intro none
        cases none

/-- A call keeps order, and a stop or a start that fails leaves no session. -/
theorem Orderly.move (h : Orderly settings plugin deeds) {next : Call} {new : List Deed}
    {result : Except PluginError Unit} {left : Plugin} (move : Move plugin next new result left)
    : Orderly settings left (deeds ++ new)
      ∧ (next = .stop ∨ result ≠ .ok () → left.current = none) := by
  cases move with
  | @begin _ _ _ running free attempt =>
      refine ⟨h.attempted free attempt, fun failed => ?_⟩
      cases result with
      | error error => exact free
      | ok _ => simp at failed
  | @replace held _ new _ running holds attempt =>
      have dropped := h.dropped holds true
      refine ⟨?_, fun failed => ?_⟩
      · rw [← List.singleton_append, ← List.append_assoc]
        exact dropped.attempted rfl attempt
      · cases result with
        | error error => rfl
        | ok _ => simp at failed
  | stuck holds => exact ⟨h.dropped holds false, fun _ => rfl⟩
  | rest free => exact ⟨by simpa using h, fun _ => free⟩
  | stop holds removed =>
      have dropped := h.dropped holds removed
      exact ⟨{ dropped with }, fun _ => rfl⟩

/-- After any calls the plugin is in order, and the record has changed nothing. -/
theorem run_orderly (host : Host σ) (settings : Settings) (world : σ) (calls : List Call)
    : ∃ deeds,
        run host.recorded settings (world, []) calls
          = ((run host settings world calls).1, (run host settings world calls).2, deeds)
        ∧ Orderly settings (run host settings world calls).1 deeds := by
  induction calls using List.reverseRecOn with
  | nil => exact ⟨[], rfl, .new settings⟩
  | append_singleton calls last ih =>
      obtain ⟨deeds, recorded, orderly⟩ := ih
      obtain ⟨new, result, left, after, move, plain, noted⟩ :=
        respond_move host (run host settings world calls).1
          (run host settings world calls).2 deeds last
      rw [run_append, run_append, recorded, call_eq_respond, call_eq_respond, plain, noted]
      exact ⟨deeds ++ new, rfl, (orderly.move move).1⟩

/-- After each call, whatever became of the steps that were taken, no session works but the one
that the plugin holds, of all that were ever begun; and monitors began in registered sessions
only. A stop, and a start that fails, leaves no session at work, and no socket but one that could
not be removed. A stop without a session changes nothing.
-/
theorem run_keepsOneSession (host : Host σ) (settings : Settings) (world : σ)
    (calls : List Call)
    : let reached := run host.recorded settings (world, []) calls
      let plugin := reached.1
      let deeds := reached.2.2
      run host settings world calls = (plugin, reached.2.1)
      ∧ plugin.sessions.length = deeds.count .list
      ∧ plugin.sessions.countP (·.registered) = deeds.count (.register true)
      ∧ (∀ running ∈ plugin.past, running.isLive = false)
      ∧ (∀ running,
          plugin.current = some running
          → running.session.stopped = false ∧ running.serving = true)
      ∧ (∀ running ∈ plugin.sessions,
          running.monitor.isSome → running.registered = true)
      ∧ (∀ next,
          let (result, left, _, after) := respond host.recorded reached next
          next = .stop ∨ result ≠ .ok ()
          → left.current = none
            ∧ (∀ running ∈ left.sessions, running.isLive = false)
            ∧ (isBound settings.socketPath after = true
              → after.getLast? = some (.remove settings.socketPath false)))
      ∧ (plugin.current = none → respond host.recorded reached .stop = (.ok (), reached)) := by
  obtain ⟨deeds, recorded, orderly⟩ := run_orderly host settings world calls
  intro reached plugin deeds'
  have same : reached
      = ((run host settings world calls).1, (run host settings world calls).2, deeds) :=
    recorded
  clear_value reached
  subst same
  refine ⟨rfl, orderly.opened, orderly.accepted, orderly.ended, orderly.works,
    orderly.registered, ?_, ?_⟩
  · intro next
    obtain ⟨new, result, left, after, move, _, noted⟩ :=
      respond_move host (run host settings world calls).1 (run host settings world calls).2
        deeds next
    rw [noted]
    intro failed
    obtain ⟨kept, dropped⟩ := orderly.move move
    have free := dropped failed
    refine ⟨free, ?_, kept.cleared free⟩
    intro running member
    rw [sessions, free, Option.toList_none, List.append_nil] at member
    exact kept.ended running member
  · intro free
    rw [respond]
    exact stop_of_none free

end NodeDevices.Plugin
