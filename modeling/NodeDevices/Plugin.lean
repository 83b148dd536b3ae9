import NodeDevices.DeviceClass
import NodeDevices.Health.Monitor
import NodeDevices.Kubelet
import NodeDevices.Path
import NodeDevices.Session.Settle
import NodeDevices.Supervision.Supervisor
/-! A plugin: it serves the devices of one class in sessions, one after another. Starting and
stopping take steps in the plugin's surroundings, each of which can fail; how they turn out
is up to a host.
-/

namespace NodeDevices

/-- What a plugin is doing. -/
inductive Plugin.Phase where
  | idle
  | initializing
  | serving
  | stopped
  deriving DecidableEq, Repr

/-- Why a plugin cannot be started or stopped. -/
inductive PluginError where
  | bind (path : String)
  | serve (resource : String)
  | registration (resource reason : String)
  | teardown (path : String)
  deriving DecidableEq, Repr

/-- The text of an error. -/
def PluginError.message : PluginError → String
  | .bind path => "Failed to bind device plugin socket " ++ path
  | .serve resource => "Device plugin server for " ++ resource ++ " did not come up"
  | .registration resource reason =>
      "Failed to register " ++ resource ++ " with kubelet: " ++ reason
  | .teardown path => "Failed to remove device plugin socket " ++ path

/-- What is settled about a plugin from the beginning. -/
structure Plugin.Settings where
  cls : DeviceClass
  directory : String
  kubeletSocket : String
  node : String
  healthCheck : Bool
  deriving DecidableEq, Repr

/-- A session with what works for it, or once did: the server, and perhaps a monitor. -/
structure Plugin.Running where
  session : Session
  serving : Bool := true
  /-- Says whether the kubelet accepted the registration. -/
  registered : Bool := false
  monitor : Option Health.Monitor := none
  /-- Says whether a monitor was made to end. -/
  dismissed : Bool := false
  deriving DecidableEq

/-- A plugin: the session that it holds, and those that it gave up or that never came up. -/
structure Plugin where
  settings : Plugin.Settings
  phase : Plugin.Phase := .idle
  current : Option Plugin.Running := none
  past : List Plugin.Running := []
  deriving DecidableEq

namespace Plugin

/-- The name of a phase. -/
def Phase.name : Phase → String
  | .idle => "Idle"
  | .initializing => "Initializing"
  | .serving => "Serving"
  | .stopped => "Stopped"

/-- The calls that a plugin would have the kubelet make beside those that every plugin serves. -/
structure Options where
  preStartRequired : Bool := false
  preferredAllocation : Bool := false
  deriving DecidableEq, Repr

/-- How a plugin makes itself known to the kubelet. -/
structure Registration where
  version : String
  endpoint : String
  resourceName : String
  options : Options := {}
  deriving DecidableEq, Repr

/-- A call that is answered in one way, whatever session the plugin holds. -/
inductive FixedCall where
  | options
  /-- Asks which of the devices that are left each container had better get. -/
  | preferredAllocation
  /-- Announces that a container starts. -/
  | preStart
  deriving DecidableEq, Repr

/-- The answer to such a call. -/
inductive FixedReply where
  | options (options : Options)
  /-- The devices for each container that there is a preference for. -/
  | preferredAllocation (containers : List (List String))
  | preStart
  deriving DecidableEq, Repr

/-- Answers a call: nothing is asked of the kubelet, and no devices are preferred. -/
def FixedCall.reply : FixedCall → FixedReply
  | .options => .options {}
  | .preferredAllocation => .preferredAllocation []
  | .preStart => .preStart

/-- The surroundings of plugins in a world of states: how each step turns out, and the state
that it leaves.
-/
structure Host (σ : Type) where
  /-- The devices of a type on a node. -/
  listDevices : String → String → σ → List Device × σ
  /-- Removes the file at a path, which need not be there. -/
  removeSocket : String → σ → Bool × σ
  bind : String → σ → Bool × σ
  /-- Says whether the server at a path answers. -/
  dial : String → σ → Bool × σ
  /-- Registers with the kubelet behind a socket. -/
  register : String → Registration → σ → Except String Unit × σ

/-- The socket that a plugin is served on. -/
def Settings.socketPath (settings : Settings) : String :=
  Path.join settings.directory settings.cls.socketName

/-- The registration of a plugin. -/
def Settings.registration (settings : Settings) : Registration where
  version := Kubelet.apiVersion
  endpoint := settings.cls.socketName
  resourceName := settings.cls.resourceName

/-- A session that is told to stop. -/
def Running.cancel (running : Running) : Running :=
  { running with session := { running.session with stopped := true } }

/-- A session that nothing works for any more. -/
def Running.halt (running : Running) : Running :=
  { running.cancel with serving := false, dismissed := true }

/-- Lets the monitor poll all devices, given how probes are answered, unless the session is
over. The events go to the streams.
-/
def Running.poll (running : Running) (probe : Int64 → Bool) : List Health.Event × Running :=
  match running.monitor with
  | none => ([], running)
  | some monitor =>
      if running.session.stopped then ([], running)
      else
        let (events, monitor) := monitor.poll (Health.probeAll running.session.roster probe)
        let session := running.session.actAll (events.map .send)
        (events, { running with session, monitor := some monitor })

/-- Says whether a monitor works for a session. -/
def Running.isMonitored (running : Running) : Bool :=
  running.monitor.isSome && !running.dismissed

/-- Says whether anything still works for a session. -/
def Running.isLive (running : Running) : Bool :=
  !running.session.stopped || running.serving || running.isMonitored

variable {σ : Type}

/-- The roster of the session that a plugin holds. -/
def roster? (plugin : Plugin) : Option Roster :=
  plugin.current.map (·.session.roster)

/-- Halts a session, which the plugin no longer holds, and removes its socket. -/
def tearDown (host : Host σ) (plugin : Plugin) (running : Running) (world : σ)
    : Bool × Plugin × σ :=
  let (removed, world) := host.removeSocket plugin.settings.socketPath world
  (removed, { plugin with current := none, past := plugin.past ++ [running.halt] }, world)

/-- Binds the socket, has a server work for a session and waits until it answers. A server that
does not is ended again.
-/
def serve (host : Host σ) (settings : Settings) (running : Running) (world : σ)
    : Except PluginError Unit × Running × σ :=
  let path := settings.socketPath
  let (cleared, world) := host.removeSocket path world
  if !cleared then (.error (.bind path), running, world)
  else
    let (bound, world) := host.bind path world
    if !bound then (.error (.bind path), running, world)
    else
      let running := { running with serving := true }
      let (up, world) := host.dial path world
      if up then (.ok (), running, world)
      else
        (.error (.serve settings.cls.resourceName), { running with serving := false },
          (host.removeSocket path world).2)

/-- Begins a session of a plugin that holds none. Devices are monitored once the kubelet has
accepted the registration.
-/
def begin (host : Host σ) (plugin : Plugin) (world : σ)
    : Except PluginError Unit × Plugin × σ :=
  let settings := plugin.settings
  let plugin := { plugin with phase := .initializing }
  let (devices, world) := host.listDevices settings.node settings.cls.deviceType world
  let roster := Roster.ofList devices
  match serve host settings { session := { roster }, serving := false } world with
  | (.error e, running, world) =>
      (.error e, { plugin with phase := .idle, past := plugin.past ++ [running.cancel] }, world)
  | (.ok _, running, world) =>
      match host.register settings.kubeletSocket settings.registration world with
      | (.error reason, world) =>
          let (_, plugin, world) := plugin.tearDown host running world
          (.error (.registration settings.cls.resourceName reason),
            { plugin with phase := .idle }, world)
      | (.ok _, world) =>
          let monitor := if settings.healthCheck then some (.ofRoster roster) else none
          let running := { running with registered := true, monitor }
          (.ok (), { plugin with phase := .serving, current := some running }, world)

/-- Starts a plugin anew. -/
def start (host : Host σ) (plugin : Plugin) (world : σ)
    : Except PluginError Unit × Plugin × σ :=
  match plugin.current with
  | none => plugin.begin host world
  | some running =>
      let (removed, plugin, world) := plugin.tearDown host running world
      if removed then plugin.begin host world
      else (.error (.teardown plugin.settings.socketPath), plugin, world)

/-- Stops a plugin, which does nothing when it holds no session. -/
def stop (host : Host σ) (plugin : Plugin) (world : σ)
    : Except PluginError Unit × Plugin × σ :=
  match plugin.current with
  | none => (.ok (), plugin, world)
  | some running =>
      let (removed, plugin, world) := { plugin with phase := .stopped }.tearDown host running world
      (if removed then .ok () else .error (.teardown plugin.settings.socketPath), plugin, world)

/-- Performs an action in the session that a plugin holds. -/
def act (plugin : Plugin) (action : Session.Action) : Plugin :=
  { plugin with current := plugin.current.map fun running =>
      { running with session := running.session.act action } }

/-- Lets the monitor poll all devices, given how probes are answered. -/
def poll (plugin : Plugin) (probe : Int64 → Bool) : Plugin :=
  { plugin with current := plugin.current.map fun running => (running.poll probe).2 }

/-- Plugins with their world as a supervisor sees them. -/
def fleet (host : Host σ) (size : Nat) : Supervision.Fleet (List Plugin × σ) where
  size
  start position state := change position state (start host)
  stop position state := change position state (stop host)
where
  /-- Calls the plugin at a position; where there is none nothing happens. -/
  change (position : Nat) (state : List Plugin × σ)
      (call : Plugin → σ → Except PluginError Unit × Plugin × σ)
      : Bool × List Plugin × σ :=
    match state.1[position]? with
    | none => (true, state)
    | some plugin =>
        let (result, plugin, world) := call plugin state.2
        (result.toBool, state.1.set position plugin, world)

end Plugin

end NodeDevices
