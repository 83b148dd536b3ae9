import NodeDevices.CommandLine.Help
import NodeDevices.Kubelet
import NodeDevices.Path
import NodeDevices.Reconciliation.Plan
import NodeDevices.Text.Blank
/-! The commands: to run the daemon, and to print what the kubelet has assigned. -/

namespace NodeDevices

open CommandLine

/-- Where the kubelet publishes its assignments. -/
structure KubeletState where
  podResourcesSocket : String
  checkpointPath : String
  deriving DecidableEq, Repr

/-- The options of the daemon. -/
structure DaemonOptions where
  node : Option String
  inventoryServer : String
  resourceConfig : String
  vendor : String
  pluginDirectory : String
  kubeletSocket : Option String
  kubeletState : KubeletState
  healthCheck : Bool
  individualMarker : String
  disableReconcile : Bool
  /-- How long the inventory may take for an answer, in seconds. -/
  inventoryTimeout : UInt64
  deriving DecidableEq, Repr

/-- A command to carry out. -/
inductive Command where
  | daemon (options : DaemonOptions)
  | showAssignments (state : KubeletState)
  deriving DecidableEq, Repr

namespace KubeletState

/-- The options about the kubelet's state. -/
def specs : List Spec := [
  { name := "pod-resources-socket", kind := some .path, fallback := Kubelet.podResourcesSocket,
    help := "Kubelet pod-resources API socket" },
  { name := "checkpoint-path", kind := some .path, fallback := Kubelet.checkpointPath,
    help := "Kubelet device manager checkpoint file, used when the pod-resources API is unavailable" }
]

/-- Takes the state from the values of options. -/
def ofValues? (values : Values) : Option KubeletState := do
  return {
    podResourcesSocket := ← values.text? "pod-resources-socket"
    checkpointPath := ← values.text? "checkpoint-path"
  }

end KubeletState

namespace DaemonOptions

/-- The options of the daemon in their order. -/
def specs : List Spec := [
  { name := "node-name", kind := some .text, variableName := "NODE_NAME",
    help := "Node the advertised devices are bound to in the inventory (defaults to the host name)" },
  { name := "inventory-server", kind := some .text, variableName := "BK_CMDB_CHART_PORT",
    help := "Inventory service address, e.g. tcp://10.96.0.12:80 or http://cmdb:8080" },
  { name := "resource-config", kind := some .path, variableName := "RESOURCE_CONFIG_PATH",
    fallback := "/etc/device-plugin/resources.yaml",
    help := "YAML file listing the device classes to advertise" },
  { name := "vendor", kind := some .text, variableName := "DEVICE_PLUGIN_VENDOR",
    fallback := "carizon", help := "Vendor domain of the extended resources, e.g. carizon/J5" },
  { name := "device-plugin-path", kind := some .path, fallback := Kubelet.pluginDirectory,
    help := "Directory holding the kubelet and device plugin sockets" },
  { name := "kubelet-socket", kind := some .path,
    help := "Kubelet registration socket (defaults to kubelet.sock in the device plugin directory)" }
] ++ KubeletState.specs ++ [
  { name := "health-check", kind := some .truth, variableName := "DEVICE_HEALTH_CHECK",
    fallback := "true", help := "Probe device health every 10 seconds" },
  { name := "individual-report-marker", kind := some .text,
    fallback := Reconciliation.defaultMarker,
    help := "Resources whose name contains this marker are reported one call per resource" },
  { name := "disable-reconcile", help := "Do not report device reservations to the inventory" },
  { name := "inventory-timeout-secs", kind := some .number, fallback := "10",
    help := "Timeout in seconds of every inventory request" }
]

/-- Takes the daemon's options from their values; only the inventory's server has no value
of its own.
-/
def ofValues? (values : Values) : Option DaemonOptions := do
  return {
    node := values.text? "node-name"
    inventoryServer := ← values.text? "inventory-server"
    resourceConfig := ← values.text? "resource-config"
    vendor := ← values.text? "vendor"
    pluginDirectory := ← values.text? "device-plugin-path"
    kubeletSocket := values.text? "kubelet-socket"
    kubeletState := ← KubeletState.ofValues? values
    healthCheck := values.isTrue "health-check"
    individualMarker := ← values.text? "individual-report-marker"
    disableReconcile := values.isTrue "disable-reconcile"
    inventoryTimeout := ← values.number? "inventory-timeout-secs"
  }

/-- The name of the node: the one that is configured, or else the name of the host. -/
def nodeName? (options : DaemonOptions) (host : Option String) : Option String :=
  match options.node.filter (· ≠ "") with
  | some name => some name
  | none => (host.map Text.trim).filter (· ≠ "")

/-- The kubelet's socket, which is otherwise found among the plugins' sockets. -/
def socketOfKubelet (options : DaemonOptions) : String :=
  options.kubeletSocket.getD (Path.join options.pluginDirectory Kubelet.socketName)

end DaemonOptions

namespace Command

/-- The name of the program. -/
def program : String := "device-plugin"

/-- The version of the program. -/
def version : String := "latest-unknown"

/-- The commands and what they do. -/
def summaries : List HelpEntry := [
  ⟨"daemon", "Run the device plugin daemon"⟩,
  ⟨"show-assignments", "Print the device assignments currently known to the kubelet"⟩,
  ⟨"help", "Print this message or the help of the given subcommand(s)"⟩
]

/-- The words that a command line begins with. -/
def words : List String := summaries.map HelpEntry.form

/-- The help of the command that a word names, or of the program. -/
def manual (environment : List (String × String)) (word : String) : Help :=
  let about := ((summaries.find? (·.form = word)).map (·.meaning)).getD ""
  let options (specs : List Spec) : List HelpSection :=
    [⟨"Options", specs.map (Spec.entry environment) ++ [.help]⟩]
  if word = "daemon" then {
    about
    usage := program ++ " daemon [OPTIONS] --inventory-server <INVENTORY_SERVER>"
    sections := options DaemonOptions.specs
  }
  else if word = "show-assignments" then {
    about
    usage := program ++ " show-assignments [OPTIONS]"
    sections := options KubeletState.specs
  }
  else if word = "help" then {
    about
    usage := program ++ " help [COMMAND]..."
    sections := [⟨"Arguments", [⟨"[COMMAND]...", "Print help for the subcommand(s)"⟩]⟩]
  }
  else {
    usage := program ++ " <COMMAND>"
    sections := [⟨"Commands", summaries⟩, ⟨"Options", [.help, .version]⟩]
  }

/-- The word that arguments ask for the help of. -/
def topic : List String → String
  | "help" :: word :: _ => word
  | "help" :: [] | [] => ""
  | word :: _ => word

/-- What asking for help comes to: a command can be named, and commands have no commands. -/
def help : List String → UsageError
  | [] => .helpAsked
  | [word] => if word ∈ words then .helpAsked else .unknownCommand
  | _ :: _ :: _ => .unknownCommand

/-- What arguments come to that do not begin with a command. -/
def refusal (text : String) (rest : List String) : UsageError :=
  match Argument.ofText text with
  | .escape =>
      match rest with
      | [] => .nothingGiven
      | next :: _ => if next ∈ words then .unknownArgument else .unknownCommand
  | .long name value =>
      if name ∉ ["help", "version"] then .unknownArgument
      else if value.isSome then .surplusValue
      else if name = "help" then .helpAsked
      else .versionAsked
  | .short letter =>
      if letter = 'h' then .helpAsked
      else if letter = 'V' then .versionAsked
      else .unknownArgument
  | .plain _ => .unknownCommand

/-- Reads a command line, given the environment. -/
def parse (environment : List (String × String)) : List String → Except UsageError Command
  | [] => .error .nothingGiven
  | word :: rest =>
      if word = "help" then .error (help rest)
      else if word = "daemon" then do
        let values ← readValues DaemonOptions.specs environment rest
        match DaemonOptions.ofValues? values with
        | some options => return .daemon options
        | none => throw .missingRequired
      else if word = "show-assignments" then do
        let values ← readValues KubeletState.specs environment rest
        match KubeletState.ofValues? values with
        | some state => return .showAssignments state
        | none => throw .missingRequired
      else .error (refusal word rest)

end Command

end NodeDevices
