import NodeDevices.Assignment.Source
import NodeDevices.CommandLine.Command
import NodeDevices.Configuration
import NodeDevices.Inventory.Client
import NodeDevices.Plugin
import NodeDevices.Reconciliation.Plan
/-! What the daemon consists of: a plugin for every configured class, a client of the
inventory, and what is needed to report assignments.
-/

namespace NodeDevices

/-- Why the daemon cannot be put together. -/
inductive BuildError where
  | noNodeName
  | configuration (error : ConfigurationError)
  deriving DecidableEq, Repr

/-- What went wrong, without why. -/
def BuildError.summary : BuildError → String
  | .noNodeName => "node name not configured and host name unavailable"
  | .configuration _ => "Failed to load resource config"

/-- The text of an error. -/
def BuildError.message (error : BuildError) : String :=
  match error with
  | .noNodeName => error.summary
  | .configuration cause => error.summary ++ ": " ++ cause.message

/-- The parts of the daemon. -/
structure Application where
  options : DaemonOptions
  plugins : List Plugin
  client : Inventory.Client

namespace Application

/-- Puts the daemon together from its options, the name of the host and the configuration
file.
-/
def build (options : DaemonOptions) (host : Option String) (files : Files)
    : Except BuildError Application := do
  let node ←
    match options.nodeName? host with
    | some name => Except.ok name
    | none => .error .noNodeName
  let configuration ← (Configuration.load files options.resourceConfig).mapError .configuration
  let settings (cls : DeviceClass) : Plugin.Settings := {
    cls
    directory := options.pluginDirectory
    kubeletSocket := options.socketOfKubelet
    node
    healthCheck := options.healthCheck
  }
  return {
    options
    plugins := (configuration.classes options.vendor).map fun cls => { settings := settings cls }
    client := .ofServer options.inventoryServer configuration.endpoints
  }

end Application

/-- The assignments that the kubelet of a node publishes, given its answer at the socket. -/
def KubeletState.assignments (state : KubeletState) (files : Files)
    (listing : Assignments.PodListing)
    : Except Assignments.SourceError Assignments :=
  Assignments.select (files.has state.podResourcesSocket)
    (Assignments.ofListing Kubelet.podResourcesTimeout listing)
    (Assignments.ofCheckpoint files state.checkpointPath)

end NodeDevices
