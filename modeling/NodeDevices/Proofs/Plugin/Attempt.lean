import NodeDevices.Plugin

/-! How a session of a plugin can begin: the steps that are taken for it in the plugin's
surroundings, and what is there of the session in the end. A host that keeps a record of the steps
behaves like one that does not, and what the plugin had before does not matter.
-/

namespace NodeDevices.Plugin

variable {σ : Type}

/-- A step that was taken in the surroundings of a plugin, with how it turned out. -/
inductive Deed where
  | list
  | remove (path : String) (done : Bool)
  | bind (path : String) (done : Bool)
  | dial (path : String) (answered : Bool)
  | register (accepted : Bool)
  deriving DecidableEq, Repr

/-- A host that keeps a record of the steps that are taken. -/
def Host.recorded (host : Host σ) : Host (σ × List Deed) where
  listDevices node deviceType state :=
    let (devices, world) := host.listDevices node deviceType state.1
    (devices, world, state.2 ++ [.list])
  removeSocket path state :=
    let (done, world) := host.removeSocket path state.1
    (done, world, state.2 ++ [.remove path done])
  bind path state :=
    let (done, world) := host.bind path state.1
    (done, world, state.2 ++ [.bind path done])
  dial path state :=
    let (answered, world) := host.dial path state.1
    (answered, world, state.2 ++ [.dial path answered])
  register socket registration state :=
    let (answer, world) := host.register socket registration state.1
    (answer, world, state.2 ++ [.register answer.toBool])

-----------------------------------------------------------------------------------------
-- Attempts at a session
-----------------------------------------------------------------------------------------

/-- How an attempt at a session can go: the steps that it takes, its outcome, and what is there
of the session in the end.
-/
inductive Attempt (settings : Settings) (roster : Roster)
    : List Deed → Except PluginError Unit → Running → Prop
  | blocked
    : Attempt settings roster [.list, .remove settings.socketPath false]
        (.error (.bind settings.socketPath))
        { session := { roster, stopped := true }, serving := false }
  | unbound
    : Attempt settings roster
        [.list, .remove settings.socketPath true, .bind settings.socketPath false]
        (.error (.bind settings.socketPath))
        { session := { roster, stopped := true }, serving := false }
  | silent (cleared : Bool)
    : Attempt settings roster
        [.list, .remove settings.socketPath true, .bind settings.socketPath true,
          .dial settings.socketPath false, .remove settings.socketPath cleared]
        (.error (.serve settings.cls.resourceName))
        { session := { roster, stopped := true }, serving := false }
  | refused (reason : String) (cleared : Bool)
    : Attempt settings roster
        [.list, .remove settings.socketPath true, .bind settings.socketPath true,
          .dial settings.socketPath true, .register false,
          .remove settings.socketPath cleared]
        (.error (.registration settings.cls.resourceName reason))
        { session := { roster, stopped := true }, serving := false, dismissed := true }
  | accepted
    : Attempt settings roster
        [.list, .remove settings.socketPath true, .bind settings.socketPath true,
          .dial settings.socketPath true, .register true]
        (.ok ())
        { session := { roster }
          registered := true
          monitor := if settings.healthCheck then some (.ofRoster roster) else none }

/-- The plugin after an attempt. -/
def attempted (plugin : Plugin) (running : Running) : Except PluginError Unit → Plugin
  | .ok _ => { plugin with phase := .serving, current := some running }
  | .error _ => { plugin with phase := .idle, past := plugin.past ++ [running] }

/-- The devices that a host lists for a plugin. -/
def Settings.listed (settings : Settings) (host : Host σ) (world : σ) : List Device :=
  (host.listDevices settings.node settings.cls.deviceType world).1

/-- A session begins in one of these ways, whatever the plugin had before and whether a record is
kept or not.
-/
theorem exists_attempt (host : Host σ) (settings : Settings) (world : σ)
    : ∃ new result running after,
        Attempt settings (.ofList (settings.listed host world)) new result running
        ∧ (∀ phase past,
            begin host { settings, phase, past } world
            = (result, attempted { settings, phase, past } running result, after))
        ∧ ∀ phase past deeds,
            begin host.recorded { settings, phase, past } (world, deeds)
            = (result, attempted { settings, phase, past } running result, after,
                deeds ++ new) := by
  rcases listed : host.listDevices settings.node settings.cls.deviceType world
    with ⟨devices, world₁⟩
  rw [Settings.listed, listed]
  rcases removal : host.removeSocket settings.socketPath world₁ with ⟨cleared, world₂⟩
  cases cleared
  case false =>
    refine ⟨_, _, _, world₂, .blocked, ?_, ?_⟩
      <;> simp [begin, serve, Host.recorded, listed, removal, attempted, Running.cancel]
  rcases binding : host.bind settings.socketPath world₂ with ⟨bound, world₃⟩
  cases bound
  case false =>
    refine ⟨_, _, _, world₃, .unbound, ?_, ?_⟩
      <;> simp [begin, serve, Host.recorded, listed, removal, binding, attempted,
        Running.cancel]
  rcases dialling : host.dial settings.socketPath world₃ with ⟨answered, world₄⟩
  cases answered
  case false =>
    rcases clearing : host.removeSocket settings.socketPath world₄ with ⟨gone, world₅⟩
    refine ⟨_, _, _, world₅, .silent gone, ?_, ?_⟩
      <;> simp [begin, serve, Host.recorded, listed, removal, binding, dialling, clearing,
        attempted, Running.cancel]
  rcases answering : host.register settings.kubeletSocket settings.registration world₄
    with ⟨answer, world₅⟩
  cases answer
  case error reason =>
    rcases clearing : host.removeSocket settings.socketPath world₅ with ⟨gone, world₆⟩
    refine ⟨_, _, _, world₆, .refused reason gone, ?_, ?_⟩
      <;> simp [begin, serve, tearDown, Host.recorded, listed, removal, binding, dialling,
        answering, clearing, attempted, Running.halt, Running.cancel, Except.toBool]
  refine ⟨_, _, _, world₅, .accepted, ?_, ?_⟩
    <;> simp [begin, serve, Host.recorded, listed, removal, binding, dialling, answering,
      attempted, Except.toBool]

variable {host : Host σ} {plugin : Plugin} {running : Running} {world : σ}

/-- A plugin that holds no session begins one in one of these ways. -/
theorem begin_attempt (host : Host σ) (free : plugin.current = none) (world : σ)
    (deeds : List Deed)
    : ∃ new result running after,
        Attempt plugin.settings (.ofList (plugin.settings.listed host world)) new result running
        ∧ plugin.begin host world = (result, plugin.attempted running result, after)
        ∧ plugin.begin host.recorded (world, deeds)
          = (result, plugin.attempted running result, after, deeds ++ new) := by
  obtain ⟨settings, phase, current, past⟩ := plugin
  cases free
  obtain ⟨new, result, running, after, attempt, plain, recorded⟩ :=
    exists_attempt host settings world
  exact ⟨new, result, running, after, attempt, plain phase past, recorded phase past deeds⟩

/-- A session that is held as it begins came up. -/
theorem attempt_of_begin (free : plugin.current = none)
    (held : (plugin.begin host world).2.1.current = some running)
    : ∃ new,
        Attempt plugin.settings (.ofList (plugin.settings.listed host world)) new (.ok ())
          running := by
  obtain ⟨new, result, begun, after, attempt, plain, -⟩ := begin_attempt host free world []
  rw [plain] at held
  cases result with
  | error error => cases free.symm.trans held
  | ok _ =>
      cases held
      exact ⟨new, attempt⟩

/-- A session that is held after a start came up, with the devices that were listed for it at
whatever time.
-/
theorem attempt_of_start (held : (plugin.start host world).2.1.current = some running)
    : ∃ listing new,
        Attempt plugin.settings (.ofList (plugin.settings.listed host listing)) new (.ok ())
          running := by
  unfold start at held
  split at held
  · next free => exact ⟨world, attempt_of_begin free held⟩
  · dsimp only [tearDown] at held
    split at held
    · have begun := attempt_of_begin rfl held
      exact ⟨_, begun⟩
    · cases held

end NodeDevices.Plugin
