import NodeDevices.Proofs.Plugin.Calls
import NodeDevices.Proofs.Supervision.Standing

/-! Plugins under a supervisor. They hold sessions as the passes say: the supervisor starts none
that holds one, and it knows which of them serve.
-/

namespace NodeDevices.Plugin

variable {σ : Type} {host : Host σ} {plugin left : Plugin} {next : Call} {deeds : List Deed}
  {result : Except PluginError Unit}

/-- A stop leaves no session. -/
theorem Move.current_of_stop (h : Move plugin .stop deeds result left)
    : left.current = none := by
  cases h with
  | rest free => exact free
  | stop holds removed => rfl

/-- A start that fails leaves no session. -/
theorem Move.current_of_error {error : PluginError}
    (h : Move plugin .start deeds (.error error) left)
    : left.current = none := by
  cases h with
  | begin free => exact free
  | replace | stuck => rfl

/-- A start that succeeds leaves a plugin that serves a session. -/
theorem Move.serves_of_ok {done : Unit} (h : Move plugin .start deeds (.ok done) left)
    : left.current.isSome ∧ left.phase = .serving := by
  cases h with
  | begin | replace => exact ⟨rfl, rfl⟩

/-- Where plugins stand that are supervised: they hold a session and serve, or hold none. -/
def standing (size : Nat) : Supervision.Standing (List Plugin × σ) where
  whole state := state.1.length = size
  serves state position :=
    ∃ plugin,
      state.1[position]? = some plugin ∧ plugin.current.isSome ∧ plugin.phase = .serving
  rests state position := ∃ plugin, state.1[position]? = some plugin ∧ plugin.current = none

variable {size position : Nat} {state : List Plugin × σ}

/-- Putting a plugin in the place of one keeps the others where they stand. -/
theorem keeps_set (whole : state.1.length = size) (plugin : Plugin) (world : σ)
    : (standing size).Keeps position state (state.1.set position plugin, world) where
  whole := by simpa [standing] using whole
  serves := by
    rintro other apart ⟨found, same, serves⟩
    exact ⟨found, by rwa [List.getElem?_set_ne apart.symm], serves⟩
  rests := by
    rintro other apart ⟨found, same, rests⟩
    exact ⟨found, by rwa [List.getElem?_set_ne apart.symm], rests⟩

/-- A call to a plugin of the fleet goes as one of its moves, and the others stay. -/
theorem change_move (host : Host σ) (whole : state.1.length = size)
    (found : state.1[position]? = some plugin) (next : Call)
    : ∃ deeds result left,
        Move plugin next deeds result left
        ∧ let (succeeded, after) :=
            fleet.change position state fun plugin world => respond host (plugin, world) next
          succeeded = result.toBool
          ∧ after.1[position]? = some left
          ∧ (standing size).Keeps position state after := by
  obtain ⟨deeds, result, left, world, move, called, _⟩ :=
    respond_move host plugin state.2 [] next
  obtain ⟨within, _⟩ := List.getElem?_eq_some_iff.mp found
  have changed : fleet.change position state
      (fun plugin world => respond host (plugin, world) next)
        = (result.toBool, state.1.set position left, world) := by
    simp [fleet.change, found, called]
  refine ⟨deeds, result, left, move, ?_⟩
  rw [changed]
  exact ⟨rfl, List.getElem?_set_self within, keeps_set whole left world⟩

/-- Plugins are stopped and started as a supervisor expects it. -/
theorem standing_follows (host : Host σ) (size : Nat)
    : (standing size).Follows (fleet host size) where
  stop := by
    intro state position whole within
    have inside : position < state.1.length := whole ▸ within
    obtain ⟨deeds, result, left, move, _, there, kept⟩ :=
      change_move host whole (List.getElem?_eq_getElem inside) .stop
    exact ⟨kept, left, there, move.current_of_stop⟩
  start := by
    rintro state position whole ⟨plugin, found, free⟩
    obtain ⟨deeds, result, left, move, succeeded, there, kept⟩ :=
      change_move host whole found .start
    refine ⟨kept, ?_⟩
    cases result with
    | ok done =>
        have started : ((fleet host size).start position state).1 = true := succeeded
        rw [if_pos started]
        exact ⟨left, there, move.serves_of_ok⟩
    | error error =>
        have failed : ((fleet host size).start position state).1 = false := succeeded
        rw [if_neg (ne_true_of_eq_false failed)]
        exact ⟨left, there, move.current_of_error⟩

/-- What holds at all positions holds of all plugins. -/
theorem forall_mem_of_positions {motive : Plugin → Prop} {plugins : List Plugin}
    (each
      : ∀ position < plugins.length,
          ∃ plugin, plugins[position]? = some plugin ∧ motive plugin)
    : ∀ plugin ∈ plugins, motive plugin := by
  intro plugin member
  obtain ⟨position, within, rfl⟩ := List.mem_iff_getElem.mp member
  obtain ⟨other, found, holds⟩ := each position within
  cases (List.getElem?_eq_getElem within).symm.trans found
  exact holds

/-- Whatever becomes of the steps that plugins take, a supervisor starts only plugins that hold
no session. While it waits, all serve a session if it says that they serve, and otherwise those
before the one that failed hold a session and no others. When it has ended, none does; and until
then it is never stuck.
-/
theorem run_startsOnlyAtRest (host : Host σ) (plugins : List Plugin) (world : σ) (backoff : Nat)
    (actions : List Supervision.Work.Action)
    : let reached :=
        Supervision.Work.Chronicle.run (fleet host plugins.length) backoff (plugins, world)
          actions
      let work := reached.work
      let supervisor := work.run.supervisor
      let now := supervisor.plugins.1
      now.length = plugins.length
      ∧ (∀ entry ∈ supervisor.journal, ∀ position,
          entry.call = .start position
          → ∃ plugin, entry.found.1[position]? = some plugin ∧ plugin.current = none)
      ∧ (work.waits = true → supervisor.phase = .serving ∨ supervisor.phase = .failed)
      ∧ (work.waits = true
        → supervisor.phase = .serving
        → ∀ plugin ∈ now, plugin.current.isSome ∧ plugin.phase = .serving)
      ∧ (work.waits = true
        → supervisor.phase = .failed
        → ∃ failed < plugins.length,
            supervisor.made.getLast? = some (.start failed, false)
            ∧ ∀ position plugin,
                now[position]? = some plugin → (plugin.current.isSome ↔ position < failed))
      ∧ (work.run.done = true → ∀ plugin ∈ now, plugin.current = none)
      ∧ work.GoesOn (fleet host plugins.length) backoff := by
  intro reached work supervisor now
  have placed : (standing plugins.length).Placed plugins.length work :=
    Supervision.Standing.run_placed (standing_follows host plugins.length) backoff
      (plugins, world) rfl actions
  have told : Supervision.Work.Told plugins.length work reached.moments :=
    Supervision.Work.run_told (fleet host plugins.length) backoff (plugins, world) actions
  have length : now.length = plugins.length := placed.minded.whole
  refine ⟨length, ?_, ?_, ?_, ?_, ?_, told.goesOn⟩
  · intro entry member position starts
    exact (placed.minded.found entry member).2 position starts
  · intro waits
    obtain ⟨idle, lasts⟩ := Supervision.Work.waits_iff.mp waits
    obtain ⟨failed, _, phase⟩ := placed.waiting idle lasts
    cases failed with
    | none => exact Or.inl phase
    | some failed => exact Or.inr phase
  · intro waits serving
    obtain ⟨idle, lasts⟩ := Supervision.Work.waits_iff.mp waits
    obtain ⟨failed, reached, phase⟩ := placed.waiting idle lasts
    cases reached with
    | all serves =>
        exact forall_mem_of_positions fun position within =>
          serves position (length ▸ within)
    | upTo => cases serving.symm.trans phase
  · intro waits failure
    obtain ⟨idle, lasts⟩ := Supervision.Work.waits_iff.mp waits
    obtain ⟨failed, reached, phase⟩ := placed.waiting idle lasts
    cases reached with
    | all => cases failure.symm.trans phase
    | @upTo failed within last serving resting =>
        refine ⟨failed, within, last, ?_⟩
        intro position plugin found
        obtain ⟨inside, _⟩ := List.getElem?_eq_some_iff.mp found
        by_cases below : position < failed
        · obtain ⟨other, there, serves, _⟩ := serving position below
          cases there.symm.trans found
          exact iff_of_true serves below
        · obtain ⟨other, there, free⟩ :=
            resting position (Nat.le_of_not_lt below) (length ▸ inside)
          cases there.symm.trans found
          exact iff_of_false (by simp [free]) below
  · intro ended
    exact forall_mem_of_positions fun position within =>
      placed.ended ended position (length ▸ within)

end NodeDevices.Plugin
