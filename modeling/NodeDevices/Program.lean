import NodeDevices.Daemon
import NodeDevices.Json.Layout
/-! One run of the program: a command line either comes to an end at once, with an exit code
and what it prints, or leaves a daemon running.
-/

namespace NodeDevices

/-- What a run comes to. -/
inductive Outcome where
  | printed (output : String)
  | misused (error : CommandLine.UsageError)
  | failed (reason : String)
  | running (daemon : Daemon)

/-- What a run prints. -/
def Outcome.output : Outcome → String
  | .printed output => output
  | _ => ""

/-- The code that a run ends with: zero unless the command line cannot be carried out, or
carrying it out fails.
-/
def Outcome.exitCode : Outcome → Nat
  | .printed _ | .running _ => 0
  | .failed _ => 1
  | .misused _ => 2

namespace Program

/-- The variable of the environment that holds the name of the host. -/
def hostVariable : String := "HOSTNAME"

/-- The file that holds the name of the host. -/
def hostFile : String := "/proc/sys/kernel/hostname"

/-- The name of the host. -/
def hostName? (environment : List (String × String)) (files : Files) : Option String :=
  match environment.lookup hostVariable with
  | some name => some name
  | none => files.text? hostFile

/-- The document of some assignments. -/
def document (assignments : Assignments) : Json :=
  Json.dictionary (Json.list Json.text) assignments

/-- Prints the assignments that the kubelet publishes. -/
def showAssignments (state : KubeletState) (files : Files) (listing : Assignments.PodListing)
    : Outcome :=
  match state.assignments files listing with
  | .ok assignments => .printed ((document assignments).renderLines ++ "\n")
  | .error e => .failed ("Failed to read device assignments: " ++ e.message)

/-- Runs the daemon. -/
def runDaemon (options : DaemonOptions) (environment : List (String × String))
    (workingDirectory : String) (node : Node) (transport : Http.Transport) : Outcome :=
  match Application.build options (hostName? environment node.files) node.files with
  | .error e => .failed e.message
  | .ok application =>
      match Daemon.start application transport workingDirectory node with
      | .error e => .failed ("Failed to create FS watcher: " ++ e.message)
      | .ok daemon => .running daemon

/-- Carries a command out. -/
def carryOut (command : Command) (environment : List (String × String))
    (workingDirectory : String) (node : Node) (listing : Assignments.PodListing)
    (transport : Http.Transport) : Outcome :=
  match command with
  | .showAssignments state => showAssignments state node.files listing
  | .daemon options => runDaemon options environment workingDirectory node transport

/-- Runs a command line. -/
def run (arguments : List String) (environment : List (String × String))
    (workingDirectory : String) (node : Node) (listing : Assignments.PodListing)
    (transport : Http.Transport) : Outcome :=
  match Command.parse environment arguments with
  | .ok command => carryOut command environment workingDirectory node listing transport
  | .error .helpAsked => .printed (Command.manual environment (Command.topic arguments)).render
  | .error .versionAsked => .printed (Command.program ++ " " ++ Command.version ++ "\n")
  | .error error => .misused error

end Program

end NodeDevices
