/-! What the kubelet of a node has agreed on with its device plugins: the places of its files
and the version of the interface.
-/

namespace NodeDevices.Kubelet

/-- The directory of the sockets. -/
def pluginDirectory : String := "/var/lib/kubelet/device-plugins/"

/-- The name of the kubelet's own socket in that directory. -/
def socketName : String := "kubelet.sock"

/-- The version of the plugin interface. -/
def apiVersion : String := "v1beta1"

/-- The file in which the kubelet keeps its assignments. -/
def checkpointPath : String := "/var/lib/kubelet/device-plugins/kubelet_internal_checkpoint"

/-- The socket at which the kubelet lists the resources of its pods. -/
def podResourcesSocket : String := "/var/lib/kubelet/pod-resources/kubelet.sock"

/-- How long the kubelet may take for that list, in milliseconds. -/
def podResourcesTimeout : Nat := 10000

end NodeDevices.Kubelet
