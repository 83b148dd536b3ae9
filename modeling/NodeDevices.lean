import NodeDevices.Files.Action
import NodeDevices.Health.Clock
import NodeDevices.Inventory.Memory
import NodeDevices.LogFile
import NodeDevices.Main
import NodeDevices.Reconciliation.Clock
import NodeDevices.Proofs.Dictionary
import NodeDevices.Proofs.Roster
import NodeDevices.Proofs.Session.Steps
import NodeDevices.Proofs.Session.Chronicle
import NodeDevices.Proofs.Session.Reader
import NodeDevices.Proofs.Session.Delivery
import NodeDevices.Proofs.Session.Pushes
import NodeDevices.Proofs.Session.Changes
import NodeDevices.Proofs.Session.Monitored
import NodeDevices.Proofs.Session.Convergence
import NodeDevices.Proofs.Plugin.Lifecycle
import NodeDevices.Proofs.Plugin.Calls
import NodeDevices.Proofs.Plugin.Sessions
import NodeDevices.Proofs.Session.Settling
import NodeDevices.Proofs.Supervision.Passes
import NodeDevices.Proofs.Supervision.Chronicle
import NodeDevices.Proofs.Supervision.Course
import NodeDevices.Proofs.Plugin.Fleet
import NodeDevices.Proofs.Supervision.Intake
import NodeDevices.Proofs.Supervision.Schedule
import NodeDevices.Proofs.Allocation
import NodeDevices.Proofs.Assignment
import NodeDevices.Proofs.Text.ByteOrder
import NodeDevices.Proofs.Assignment.Shown
import NodeDevices.Proofs.Reconciliation.Reports
import NodeDevices.Proofs.Reconciliation.Rounds
import NodeDevices.Proofs.Assignment.Agreement
import NodeDevices.Proofs.Inventory.Listing
import NodeDevices.Proofs.Session.Advertised
import NodeDevices.Proofs.Inventory.Wire
import NodeDevices.Proofs.Checkpoint
import NodeDevices.Proofs.Session.Evidence
import NodeDevices.Proofs.Plugin.Isolation
import NodeDevices.Proofs.Configuration
import NodeDevices.Proofs.Health.Polling
import NodeDevices.Proofs.Reconciliation.Punctuality
import NodeDevices.Proofs.Reconciliation.Cancellation
import NodeDevices.Proofs.Reconciliation.Clock
import NodeDevices.Proofs.Health.Clock
import NodeDevices.Proofs.Health.Stopping
import NodeDevices.Proofs.Supervision.Backoff
import NodeDevices.Proofs.Allocation.Encoding
import NodeDevices.Proofs.Roster.Members
import NodeDevices.Proofs.Assignment.Grouping
import NodeDevices.Proofs.Checkpoint.Growth
import NodeDevices.Proofs.Kubelet.SocketWatch
import NodeDevices.Proofs.Inventory.Address
import NodeDevices.Proofs.Inventory.ProbeAddress
