import NodeDevices.Proofs.Plugin.Lifecycle

/-! What a call to a plugin can come to: the steps that it takes in the plugin's surroundings,
and what it leaves. A host that keeps a record of the steps behaves like one that does not.
-/

namespace NodeDevices.Plugin

variable {σ : Type}

/-- The plugin without the session that it held. -/
def dropped (plugin : Plugin) (held : Running) : Plugin :=
  { plugin with current := none, past := plugin.past ++ [held.halt] }

@[simp] theorem settings_dropped (plugin : Plugin) (held : Running)
    : (plugin.dropped held).settings = plugin.settings :=
  rfl

theorem tearDown_eq (host : Host σ) (plugin : Plugin) (held : Running) (world : σ)
    : plugin.tearDown host held world
      = ((host.removeSocket plugin.settings.socketPath world).1, plugin.dropped held,
        (host.removeSocket plugin.settings.socketPath world).2) :=
  rfl

theorem Host.recorded_removeSocket (host : Host σ) (path : String) (world : σ)
    (deeds : List Deed)
    : host.recorded.removeSocket path (world, deeds)
      = ((host.removeSocket path world).1, (host.removeSocket path world).2,
        deeds ++ [.remove path (host.removeSocket path world).1]) :=
  rfl

/-- Makes a call to a plugin and says how it turns out. -/
def respond (host : Host σ) (state : Plugin × σ) : Call → Except PluginError Unit × Plugin × σ
  | .start => state.1.start host state.2
  | .stop => state.1.stop host state.2

/-- A call leaves what it responds with. -/
theorem call_eq_respond (host : Host σ) (state : Plugin × σ) (next : Call)
    : call host state next = (respond host state next).2 := by
  cases next <;> rfl

/-- How a call to a plugin can go: the steps that it takes, its outcome, and the plugin that it
leaves.
-/
inductive Move (plugin : Plugin) : Call → List Deed → Except PluginError Unit → Plugin → Prop
  | begin {roster new result running} (free : plugin.current = none)
    (attempt : Attempt plugin.settings roster new result running)
    : Move plugin .start new result (plugin.attempted running result)
  | replace {held roster new result running} (holds : plugin.current = some held)
    (attempt : Attempt plugin.settings roster new result running)
    : Move plugin .start (.remove plugin.settings.socketPath true :: new) result
        ((plugin.dropped held).attempted running result)
  | stuck {held} (holds : plugin.current = some held)
    : Move plugin .start [.remove plugin.settings.socketPath false]
        (.error (.teardown plugin.settings.socketPath)) (plugin.dropped held)
  | rest (free : plugin.current = none) : Move plugin .stop [] (.ok ()) plugin
  | stop {held} (holds : plugin.current = some held) (removed : Bool)
    : Move plugin .stop [.remove plugin.settings.socketPath removed]
        (if removed then .ok () else .error (.teardown plugin.settings.socketPath))
        { plugin.dropped held with phase := .stopped }

/-- A call goes in one of these ways, whether a record is kept or not. -/
theorem respond_move (host : Host σ) (plugin : Plugin) (world : σ) (deeds : List Deed)
    (next : Call)
    : ∃ new result left after,
        Move plugin next new result left
        ∧ respond host (plugin, world) next = (result, left, after)
        ∧ respond host.recorded (plugin, world, deeds) next
          = (result, left, after, deeds ++ new) := by
  cases holds : plugin.current with
  | none =>
      cases next with
      | start =>
          obtain ⟨new, result, running, after, attempt, plain, recorded⟩ :=
            begin_attempt host holds world deeds
          refine ⟨new, result, _, after, .begin holds attempt, ?_, ?_⟩
          · simpa [respond, start, holds] using plain
          · simpa [respond, start, holds] using recorded
      | stop =>
          refine ⟨[], .ok (), plugin, world, .rest holds, ?_, ?_⟩
            <;> simp [respond, stop, holds]
  | some held =>
      rcases removal : host.removeSocket plugin.settings.socketPath world with ⟨removed, left⟩
      cases next with
      | start =>
          cases removed with
          | false =>
              refine ⟨_, _, _, left, .stuck holds, ?_, ?_⟩
                <;> simp [respond, start, holds, tearDown_eq, Host.recorded_removeSocket,
                  removal]
          | true =>
              have free : (plugin.dropped held).current = none := rfl
              obtain ⟨new, result, running, after, attempt, plain, recorded⟩ :=
                begin_attempt host free left
                  (deeds ++ [.remove plugin.settings.socketPath true])
              refine ⟨_, result, _, after, .replace holds attempt, ?_, ?_⟩
              · simpa [respond, start, holds, tearDown_eq, removal] using plain
              · simpa [respond, start, holds, tearDown_eq, Host.recorded_removeSocket, removal]
                  using recorded
      | stop =>
          refine ⟨_, _, _, left, .stop holds removed, ?_, ?_⟩
            <;> simp [respond, stop, holds, tearDown_eq, dropped, Host.recorded_removeSocket,
              removal]

end NodeDevices.Plugin
