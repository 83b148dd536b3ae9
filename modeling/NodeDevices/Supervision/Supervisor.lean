/-! Supervision of plugins: a pass stops all of them and then starts one after another up
to the first failure. Passes follow events and, after a failure, the end of a wait.
-/

namespace NodeDevices.Supervision

/-- An event that a supervisor acts on. -/
inductive Event where
  | startFailed
  | kubeletRestarted
  | reconfigure
  | terminate
  deriving DecidableEq, Repr

/-- The text of an event. -/
def Event.text : Event → String
  | .startFailed => "start failed"
  | .kubeletRestarted => "kubelet restarted"
  | .reconfigure => "reconfigure requested"
  | .terminate => "terminate requested"

/-- What a supervisor knows of its plugins as a whole. -/
inductive Phase where
  | idle
  | starting
  | serving
  | failed
  deriving DecidableEq, Repr

/-- The name of a phase. -/
def Phase.name : Phase → String
  | .idle => "Idle"
  | .starting => "Starting"
  | .serving => "Serving"
  | .failed => "Failed"

/-- A call to a plugin, with its position. -/
inductive Call where
  | start (plugin : Nat)
  | stop (plugin : Nat)
  deriving DecidableEq, Repr

/-- Plugins in a world of states: how each call turns out, and the state it leaves. -/
structure Fleet (σ : Type) where
  size : Nat
  start : Nat → σ → Bool × σ
  stop : Nat → σ → Bool × σ

/-- A call that was made: the plugins as it found them, and whether it succeeded. -/
structure Entry (σ : Type) where
  call : Call
  found : σ
  succeeded : Bool

/-- A supervisor with the state of its plugins and the calls it has made. -/
structure Supervisor (σ : Type) where
  phase : Phase := .idle
  plugins : σ
  journal : List (Entry σ) := []

/-- How a pass ended: how many plugins started, and the one that did not. -/
structure PassOutcome where
  started : Nat
  failed : Option Nat
  deriving DecidableEq, Repr

namespace Supervisor

variable {σ : Type}

/-- The calls that a supervisor has made. -/
def calls (supervisor : Supervisor σ) : List Call :=
  supervisor.journal.map Entry.call

/-- The supervisor after a call that came to an outcome and left its plugins in a state. -/
def note (supervisor : Supervisor σ) (call : Call) (outcome : Bool × σ) : Supervisor σ :=
  { supervisor with
    plugins := outcome.2
    journal := supervisor.journal ++ [⟨call, supervisor.plugins, outcome.1⟩] }

/-- Stops the plugins at the given positions in order, whatever the outcomes. -/
def stopEach (fleet : Fleet σ) : List Nat → Supervisor σ → Supervisor σ
  | [], supervisor => supervisor
  | plugin :: rest, supervisor =>
      stopEach fleet rest
        (supervisor.note (.stop plugin) (fleet.stop plugin supervisor.plugins))

/-- Stops all plugins. -/
def stopAll (fleet : Fleet σ) (supervisor : Supervisor σ) : Supervisor σ :=
  stopEach fleet (List.range fleet.size) supervisor

/-- Starts the plugins at the given positions in order, up to the first failure. -/
def startEach (fleet : Fleet σ) (started : Nat)
    : List Nat → Supervisor σ → PassOutcome × Supervisor σ
  | [], supervisor => (⟨started, none⟩, { supervisor with phase := .serving })
  | plugin :: rest, supervisor =>
      let outcome := fleet.start plugin supervisor.plugins
      let called := supervisor.note (.start plugin) outcome
      if outcome.1 then startEach fleet (started + 1) rest called
      else (⟨started, some plugin⟩, { called with phase := .failed })

/-- Makes a pass. -/
def restartAll (fleet : Fleet σ) (supervisor : Supervisor σ) : PassOutcome × Supervisor σ :=
  startEach fleet 0 (List.range fleet.size)
    (stopAll fleet { supervisor with phase := .starting })

end Supervisor

end NodeDevices.Supervision
