import NodeDevices.Checkpoint
import NodeDevices.Files
import NodeDevices.Json.Parser
/-! Where the assignments are read from: the kubelet's list of its pods' resources, or the
checkpoint when there is no such list. The choice is made anew each time.
-/

namespace NodeDevices.Assignments

/-- Why the assignments are not known. -/
inductive SourceError where
  | unavailable (reason : String)
  | timeout (seconds : Nat)
  | unreadable (path : String)
  | malformed (path : String)
  deriving DecidableEq, Repr

/-- The text of an error. -/
def SourceError.message : SourceError → String
  | .unavailable reason => "Kubelet pod-resources API unavailable: " ++ reason
  | .timeout seconds =>
      "Kubelet pod-resources API did not answer within " ++ Text.Decimal.ofInt seconds ++ "s"
  | .unreadable path => "Failed to read device state file " ++ path
  | .malformed path => "Failed to parse device state file " ++ path

/-- What comes of asking the kubelet for its pods. -/
inductive PodListing where
  | refused (reason : String)
  | silent
  | listed (pods : List (List (List Entry)))
  deriving DecidableEq, Repr

/-- The assignments of the kubelet's list, which has to come within some milliseconds. -/
def ofListing (timeout : Nat) : PodListing → Except SourceError Assignments
  | .refused reason => .error (.unavailable reason)
  | .silent => .error (.timeout (timeout / 1000))
  | .listed pods => .ok (ofPods pods)

/-- The assignments of a checkpoint file. -/
def ofCheckpoint (files : Files) (path : String) : Except SourceError Assignments :=
  match files.text? path with
  | none => .error (.unreadable path)
  | some text =>
      match Json.parse? text.toList >>= Checkpoint.ofJson? with
      | some checkpoint => .ok checkpoint.assignments
      | none => .error (.malformed path)

/-- The assignments from the kubelet's list, if its socket is there and it gives one, and
otherwise from the checkpoint.
-/
def select (socketExists : Bool) (live checkpoint : Except SourceError Assignments)
    : Except SourceError Assignments :=
  if socketExists then
    match live with
    | .ok assignments => .ok assignments
    | .error _ => checkpoint
  else checkpoint

end NodeDevices.Assignments
