import NodeDevices.Files
import NodeDevices.Plugin
/-! A node as its plugins find it: its files, the kubelet, and an inventory that lists
devices. The node remembers what it has been asked for.
-/

namespace NodeDevices

/-- What a kubelet does about a registration. -/
inductive Kubelet.Answer where
  | unreachable
  | accepts
  | rejects (reason : String)
  deriving DecidableEq, Repr

/-- A node, with the listings and registrations that were asked for. -/
structure Node where
  files : Files := {}
  kubelet : Kubelet.Answer := .unreachable
  listings : List (String × String) := []
  registrations : List Plugin.Registration := []

namespace Node

/-- The greatest number of bytes of a socket's path. -/
def socketPathCapacity : Nat := 107

/-- Removes the file at a path, which need not be there. -/
def removeSocket (path : String) (node : Node) : Bool × Node :=
  match node.files.clear path with
  | .ok files => (true, { node with files })
  | .error _ => (false, node)

/-- Binds a socket to a path that names nothing yet. -/
def bind (path : String) (node : Node) : Bool × Node :=
  if socketPathCapacity < path.utf8ByteSize then (false, node)
  else match node.files.create path .socket with
    | .ok (_, files) => (true, { node with files })
    | .error _ => (false, node)

/-- Registers a plugin. A kubelet that rejects a registration has seen it. -/
def register (socket : String) (registration : Plugin.Registration) (node : Node)
    : Except String Unit × Node :=
  let seen := { node with registrations := node.registrations ++ [registration] }
  match node.kubelet with
  | .unreachable => (.error ("cannot dial " ++ socket ++ ": transport error"), node)
  | .accepts => (.ok (), seen)
  | .rejects reason => (.error reason, seen)

/-- The node as a host of plugins, given the inventory's lists. -/
def host (list : String → String → List Device) : Plugin.Host Node where
  listDevices name deviceType node :=
    (list name deviceType, { node with listings := node.listings ++ [(name, deviceType)] })
  removeSocket := removeSocket
  bind := bind
  dial path node := (node.files.at? path = some .socket, node)
  register := register

end Node

/-- The session of a plugin whose server answers at its socket. -/
def Plugin.answering? (plugin : Plugin) (files : Files) : Option Plugin.Running :=
  if files.at? plugin.settings.socketPath = some .socket then plugin.current else none

end NodeDevices
