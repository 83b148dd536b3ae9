import NodeDevices.Application
import NodeDevices.Proofs.Assignment

/-! The device entries that a kubelet shows: those of the list that it gives at its socket, and
those of its checkpoint when there is no such list. The assignments are these entries, joined.
-/

namespace NodeDevices

/-- The device entries of a checkpoint, each with the ids of all its nodes. -/
def Checkpoint.listing (checkpoint : Checkpoint) : List Assignments.Entry :=
  (checkpoint.entries.getD []).map fun entry =>
    (entry.resourceName, (entry.deviceIds.map DeviceIds.toList).getD [])

/-- The checkpoint that a file holds. -/
def Checkpoint.ofFile? (files : Files) (path : String) : Option Checkpoint := do
  let text ← files.text? path
  Json.parse? text.toList >>= Checkpoint.ofJson?

/-- The device entries that a kubelet shows, given its answer at the socket. -/
def KubeletState.entries? (state : KubeletState) (files : Files)
    (listing : Assignments.PodListing) : Option (List Assignments.Entry) :=
  match files.has state.podResourcesSocket, listing with
  | true, .listed pods => some pods.flatten.flatten
  | _, _ => (Checkpoint.ofFile? files state.checkpointPath).map Checkpoint.listing

namespace Assignments

/-- A checkpoint gives assignments exactly when its file can be read as one. -/
theorem toOption_ofCheckpoint (files : Files) (path : String)
    : (ofCheckpoint files path).toOption
      = ((Checkpoint.ofFile? files path).map Checkpoint.listing).map aggregate := by
  rw [ofCheckpoint, Checkpoint.ofFile?]
  cases files.text? path with
  | none => rfl
  | some text =>
      simp only [bind, Option.bind_some]
      cases (Json.parse? text.toList).bind Checkpoint.ofJson? <;> rfl

/-- The checkpoint is used exactly when no list is given at a socket. -/
theorem toOption_select (exists? : Bool) (timeout : Nat) (listing : PodListing)
    (checkpoint : Except SourceError Assignments)
    : (select exists? (ofListing timeout listing) checkpoint).toOption
      = match exists?, listing with
        | true, .listed pods => some (ofPods pods)
        | _, _ => checkpoint.toOption := by
  cases exists? <;> cases listing <;> rfl

end Assignments

/-- The assignments that a kubelet publishes are the entries that it shows. -/
theorem KubeletState.toOption_assignments (state : KubeletState) (files : Files)
    (listing : Assignments.PodListing)
    : (state.assignments files listing).toOption
      = (state.entries? files listing).map Assignments.aggregate := by
  rw [assignments, Assignments.toOption_select]
  unfold entries?
  cases files.has state.podResourcesSocket with
  | false => exact Assignments.toOption_ofCheckpoint files state.checkpointPath
  | true =>
      cases listing with
      | listed pods => rfl
      | refused reason => exact Assignments.toOption_ofCheckpoint files state.checkpointPath
      | silent => exact Assignments.toOption_ofCheckpoint files state.checkpointPath

end NodeDevices
