import NodeDevices.Application
import NodeDevices.Kubelet.SocketWatch
import NodeDevices.Node
import NodeDevices.Supervision.Intake
/-! The running daemon: a supervisor of the plugins, with signals and the watch on the
kubelet's socket as the sources of its events. After each of them it acts until it waits.
-/

namespace NodeDevices

/-- A running daemon: a supervisor with the sources of its events. -/
structure Daemon where
  fleet : Supervision.Fleet (List Plugin × Node)
  watch : Kubelet.SocketWatch
  intake : Supervision.Intake (List Plugin × Node)

namespace Daemon

/-- The supervisor at work. -/
def run (daemon : Daemon) : Supervision.Run (List Plugin × Node) :=
  daemon.intake.work.run

/-- The node that a daemon runs on. -/
def node (daemon : Daemon) : Node :=
  daemon.run.supervisor.plugins.2

/-- Performs actions, as far as they can happen, and lets the supervisor act until it waits. -/
def act (daemon : Daemon) (actions : List Supervision.Intake.Action) : Daemon :=
  let intake :=
    actions.foldl (Supervision.Intake.perform daemon.fleet Supervision.defaultBackoff)
      daemon.intake
  { daemon with intake := intake.settle daemon.fleet Supervision.defaultBackoff }

/-- Starts the daemon on a node, given how requests to the inventory turn out. -/
def start (application : Application) (transport : Http.Transport)
    (workingDirectory : String) (node : Node) : Except Kubelet.WatchError Daemon := do
  let watch ← Kubelet.SocketWatch.start node.files workingDirectory
    application.options.socketOfKubelet
  let host := Node.host (application.client.listDevices transport)
  let fleet := Plugin.fleet host application.plugins.length
  let work := Supervision.Work.start (application.plugins, node)
  return act { fleet, watch, intake := { work } } [.act .finish]

/-- Takes in a signal. -/
def signal (daemon : Daemon) (signal : Signal) : Daemon :=
  daemon.act [.signal signal, .reserve, .forward]

/-- Takes in a change of the node's files. -/
def notice (daemon : Daemon) (change : Kubelet.Change) : Daemon :=
  if daemon.watch.notices change then daemon.act [.notice] else daemon

end Daemon

end NodeDevices
